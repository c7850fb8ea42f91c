/-!
# Reading from the front of a text

A reader hands back what it read together with the rest of the text. A `Step` has
consumed something, a `Part` may have consumed nothing, and each carries that fact, so
a recursion over rests ends by the length of the text. Steps and parts are put
together here; readers say only what they read.
-/

namespace EsqlTree.Text

/-- What was read from a text, and the shorter rest of it. -/
structure Step (text : List Char) (α : Type) where
  /-- What was read. -/
  value : α
  /-- What follows. -/
  rest : List Char
  /-- Something was consumed. -/
  shorter : rest.length < text.length

/-- What was read from a text, possibly of nothing, and the rest of it. -/
structure Part (text : List Char) (α : Type) where
  /-- What was read. -/
  value : α
  /-- What follows. -/
  rest : List Char
  /-- Nothing was added. -/
  notLonger : rest.length ≤ text.length

variable {α β γ : Type} {text rest : List Char}

namespace Step

/-- One character consumed. -/
def char (value : α) (c : Char) (rest : List Char) : Step (c :: rest) α :=
  ⟨value, rest, Nat.lt_succ_self _⟩

/-- The step with another value. -/
def map (f : α → β) (step : Step text α) : Step text β := ⟨f step.value, step.rest, step.shorter⟩

/-- The step after one more character. -/
def cons (c : Char) (step : Step rest α) : Step (c :: rest) α :=
  ⟨step.value, step.rest, Nat.lt_succ_of_lt step.shorter⟩

/-- The step as one from a longer text. -/
def within (step : Step rest α) (inside : rest.length < text.length) : Step text α :=
  ⟨step.value, step.rest, Nat.lt_trans step.shorter inside⟩

/-- The step as a part. -/
def toPart (step : Step text α) : Part text α :=
  ⟨step.value, step.rest, Nat.le_of_lt step.shorter⟩

/-- Two steps, one after the other. -/
def andThen (first : Step text α) (second : Step first.rest β) (f : α → β → γ) : Step text γ :=
  ⟨f first.value second.value, second.rest, Nat.lt_trans second.shorter first.shorter⟩

end Step

namespace Part

/-- Nothing consumed. -/
def nothing (value : α) (text : List Char) : Part text α := ⟨value, text, Nat.le_refl _⟩

/-- The part with another value. -/
def map (f : α → β) (part : Part text α) : Part text β :=
  ⟨f part.value, part.rest, part.notLonger⟩

/-- The part after one more character. -/
def cons (c : Char) (part : Part rest α) : Step (c :: rest) α :=
  ⟨part.value, part.rest, Nat.lt_succ_of_le part.notLonger⟩

/-- The part as one from a longer text. -/
def within (part : Part rest α) (inside : rest.length < text.length) : Step text α :=
  ⟨part.value, part.rest, Nat.lt_of_le_of_lt part.notLonger inside⟩

/-- Two parts, one after the other. -/
def andThen (first : Part text α) (second : Part first.rest β) (f : α → β → γ) : Part text γ :=
  ⟨f first.value second.value, second.rest, Nat.le_trans second.notLonger first.notLonger⟩

/-- A part and a step after it. -/
def andStep (first : Part text α) (second : Step first.rest β) (f : α → β → γ) : Step text γ :=
  ⟨f first.value second.value, second.rest,
    Nat.lt_of_lt_of_le second.shorter first.notLonger⟩

end Part

/-- The characters that a text begins with and that have a property. -/
def takeRun (holds : Char → Bool) : (text : List Char) → Part text (List Char)
  | [] => .nothing [] []
  | c :: rest =>
    if holds c then ((takeRun holds rest).map (c :: ·)).cons c |>.toPart
    else .nothing [] (c :: rest)

end EsqlTree.Text
