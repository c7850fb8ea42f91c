/-!
# Steps that may end a walk

An action takes a state to a new one and says whether the walk goes on. Actions run
in order, each on the state that the one before left, until one of them halts; what
follows that one does not run. With `skip` this is a monoid, so how a sequence of
actions is bracketed makes no difference.
-/

namespace EsqlTree

/-- Whether a walk goes on. -/
inductive Flow where
  /-- It goes on. -/
  | proceed
  /-- It ends here. -/
  | halt
deriving DecidableEq, Repr

/-- A step of a walk over a state. -/
abbrev Action (σ : Type) := σ → σ × Flow

namespace Action

variable {σ : Type}

/-- Does nothing and goes on. -/
def skip : Action σ := fun state => (state, .proceed)

/-- Does nothing and ends the walk. -/
def stop : Action σ := fun state => (state, .halt)

/-- Changes the state and goes on. -/
def update (change : σ → σ) : Action σ := fun state => (change state, .proceed)

/-- Runs the second action after the first, unless the first ends the walk. -/
def andThen (first second : Action σ) : Action σ := fun state =>
  match first state with
  | (next, .proceed) => second next
  | (next, .halt) => (next, .halt)

/-- Runs actions in order until one ends the walk. -/
def all : List (Action σ) → Action σ
  | [] => skip
  | action :: others => action.andThen (all others)

/-- Doing nothing first changes nothing. -/
@[simp] theorem skip_andThen (action : Action σ) : skip.andThen action = action := rfl

/-- Doing nothing last changes nothing. -/
@[simp] theorem andThen_skip (action : Action σ) : action.andThen skip = action := by
  funext state
  simp only [andThen]
  split <;> simp_all [skip]

/-- Nothing runs after the end of the walk. -/
@[simp] theorem stop_andThen (action : Action σ) : stop.andThen action = stop := rfl

/-- Bracketing makes no difference. -/
theorem andThen_assoc (first second third : Action σ) :
    (first.andThen second).andThen third = first.andThen (second.andThen third) := by
  funext state
  simp only [andThen]
  cases first state with
  | mk next flow => cases flow <;> rfl

/-- A sequence of actions may be run in two parts. -/
theorem all_append (front back : List (Action σ)) :
    all (front ++ back) = (all front).andThen (all back) := by
  induction front with
  | nil => rfl
  | cons action others inFront =>
    simp only [List.cons_append, all, inFront, andThen_assoc]

end Action

end EsqlTree
