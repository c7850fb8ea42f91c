import EsqlTree.Proofs.Text.Numeral
import EsqlTree.Tree.Fault

/-!
# Steps lead to one value and have one text

Steps are followed from a value downwards, each to an element of an array or to the
value of a key. The text of a path does not mark where one step ends and the next one
begins, and the text of one step may begin that of another. It still tells the steps:
a step begins with a bracket or a dot, and neither continues the name of a step.
-/

namespace EsqlTree

open Json (Value lookup)

/-- The value that a step leads to. -/
def Step.follow? : Step → Value → Option Value
  | .index position, .array elements => elements[position]?
  | .args, .object members => lookup "args" members
  | .values, .object members => lookup "values" members
  | .value, .object members => lookup "value" members
  | _, _ => none

/-- The value that steps lead to, outermost step first. -/
def follow? : List Step → Value → Option Value
  | [], value => some value
  | step :: deeper, value => (step.follow? value).bind (follow? deeper)

@[simp] theorem follow?_nil (value : Value) : follow? [] value = some value := rfl

/-- A step and those below it lead where the latter do from the value of the former. -/
theorem follow?_cons {step : Step} {value child : Value} (deeper : List Step)
    (entered : step.follow? value = some child) :
    follow? (step :: deeper) value = follow? deeper child := by
  rw [follow?, entered, Option.bind_some]

/-- No text of steps goes on with the letter that tells `.values` from `.value`. Each step begins
with a bracket or a dot. -/
theorem head?_render_ne (steps : List Step) :
    (steps.flatMap fun step => step.render.toList).head? ≠ some 's' := by
  cases steps with
  | nil => simp
  | cons step deeper => cases step <;> simp [Step.render]

/-- The bracket behind a position ends its digits, so positions are told by their numerals. -/
theorem endsDigits_bracket (text : List Char) : Text.EndsDigits (']' :: text) := by
  rintro c rest ⟨⟩
  decide

/-- A step is told from its text and what follows, as long as that does not go on with the name of
the step. Of two steps of which the text of one begins that of the other, the letter behind the
shorter one decides. -/
theorem Step.render_append_inj {first second : Step} {front back : List Char}
    (frontEnds : front.head? ≠ some 's') (backEnds : back.head? ≠ some 's')
    (same : first.render.toList ++ front = second.render.toList ++ back) :
    first = second ∧ front = back := by
  cases first with
  | index position =>
    cases second with
    | index other =>
      have numerals :
          Text.decimal position ++ ']' :: front = Text.decimal other ++ ']' :: back := by
        simpa [Step.render] using same
      obtain ⟨positions, rests⟩ := Text.decimal_append_inj (endsDigits_bracket front)
        (endsDigits_bracket back) numerals
      exact ⟨congrArg Step.index positions, (List.cons.inj rests).2⟩
    | _ => simp [Step.render] at same
  | values =>
    cases second with
    | values => simpa [Step.render] using same
    | value =>
      -- The longer name would leave its last letter to what follows the shorter one.
      have longer : 's' :: front = back := by simpa [Step.render] using same
      rw [← longer] at backEnds
      exact absurd rfl backEnds
    | _ => simp [Step.render] at same
  | value =>
    cases second with
    | value => simpa [Step.render] using same
    | values =>
      have longer : front = 's' :: back := by simpa [Step.render] using same
      rw [longer] at frontEnds
      exact absurd rfl frontEnds
    | _ => simp [Step.render] at same
  | args =>
    cases second with
    | args => simpa [Step.render] using same
    | _ => simp [Step.render] at same

/-- Steps are told from their text. The induction is on the steps, of which the first is told each
time, and what follows it is the text of the others. -/
theorem flatMap_render_inj {first second : List Step}
    (same : (first.flatMap fun step => step.render.toList) =
      second.flatMap fun step => step.render.toList) : first = second := by
  induction first generalizing second with
  | nil =>
    cases second with
    | nil => rfl
    | cons step deeper => cases step <;> simp [Step.render] at same
  | cons step deeper inDeeper =>
    cases second with
    | nil => cases step <;> simp [Step.render] at same
    | cons other others =>
      rw [List.flatMap_cons, List.flatMap_cons] at same
      obtain ⟨steps, texts⟩ :=
        Step.render_append_inj (head?_render_ne deeper) (head?_render_ne others) same
      rw [steps, inDeeper texts]

/-- Paths from the same origin have the same text exactly if they have the same steps. The origin is
cut off both texts. -/
theorem Path.render_eq_iff (origin : String) (first second : List Step) :
    Path.render { origin, steps := first } = Path.render { origin, steps := second } ↔
      first = second := by
  constructor
  · intro same
    have texts := congrArg String.toList same
    simp only [Path.render, String.toList_append, String.toList_join, List.flatMap_map,
      List.append_cancel_left_eq] at texts
    exact flatMap_render_inj texts
  · rintro rfl
    rfl

end EsqlTree
