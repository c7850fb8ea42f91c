import EsqlTree.Proofs.Cli.Reading
import EsqlTree.Proofs.Walk.Queries

/-!
# How a run ends

The exit code of a run is two if the selected configuration is bad or there is no tree, and
then nothing is printed. Otherwise it is one if a function is looked for that the tree does not
reach, and zero in every other case. The three never overlap: what is missing from a tree is not
reported as a failure, and no failure as something that is missing.
-/

namespace EsqlTree.Cli

/-- What is printed where a function is looked for and not there. -/
def negativeAnswer : OutputFormat → String
  | .text => "false\n"
  | .json => "\x7b\n  \"found\": false\n\x7d\n"

/-- The answer that nothing is there, in either format. It is a fixed text, so the two can be
compared. -/
theorem presence_false (format : OutputFormat) : presence format false = negativeAnswer format := by
  cases format <;> decide +kernel

namespace Request

/-- A question looks for a function of a name: for itself or for whether it is there. -/
def LooksFor (request : Request) (name : String) : Prop :=
  request = .findFunction name ∨ request = .hasFunction name

variable {request : Request} {root : Root} {functions : List String} {format : OutputFormat}

/-- The answer to the search for a function is negative exactly if it is not there. The search that
asks whether it is there is the same one. -/
theorem found_answer_findFunction (root : Root) (functions : List String) (format : OutputFormat)
    (name : String) :
    (answer root functions format (.findFunction name)).found =
      EsqlTree.hasFunction name root := by
  rw [answer, EsqlTree.hasFunction]
  split <;> simp_all

/-- An answer is negative exactly if a function is looked for that the tree does not reach.
Questions of other sorts are never answered so. -/
theorem found_answer_eq_false_iff (functions : List String) (format : OutputFormat) :
    (request.answer root functions format).found = false ↔
      ∃ name, request.LooksFor name ∧
        ∀ node, root.Reaches (.single (.function node)) → node.name ≠ name := by
  cases request with
  | findFunction name =>
    rw [found_answer_findFunction, ← Bool.not_eq_true, hasFunction_eq_true_iff]
    simp [LooksFor]
  | hasFunction name =>
    have found : (answer root functions format (.hasFunction name)).found =
      EsqlTree.hasFunction name root := by rw [answer]
    rw [found, ← Bool.not_eq_true, hasFunction_eq_true_iff]
    simp [LooksFor]
  | _ => simp [answer, LooksFor]

/-- What is printed with a negative answer: nothing where the function itself is looked for, and
otherwise that it is not there. -/
theorem output_answer_of_not_found
    (missing : (request.answer root functions format).found = false) :
    ∃ name, (request = .findFunction name ∧ (request.answer root functions format).output = "") ∨
      (request = .hasFunction name ∧
        (request.answer root functions format).output = negativeAnswer format) := by
  cases request with
  | findFunction name =>
    refine ⟨name, .inl ⟨rfl, ?_⟩⟩
    rw [answer] at missing ⊢
    split at missing <;> simp_all
  | hasFunction name =>
    refine ⟨name, .inr ⟨rfl, ?_⟩⟩
    have absent : EsqlTree.hasFunction name root = false := missing
    rw [answer, absent, presence_false]
  | _ => simp [answer] at missing

end Request

namespace Invocation

/-- A run looks for a function that its tree does not reach. -/
def Misses (invocation : Invocation) (surroundings : Surroundings) : Prop :=
  ∃ name root, invocation.request.LooksFor name ∧ surroundings.HoldsTree invocation.file root ∧
    ∀ node, root.Reaches (.single (.function node)) → node.name ≠ name

variable {invocation : Invocation} {surroundings : Surroundings} {settings : Settings} {root : Root}

/-- There is only one tree at a path, so that a function is missed can be said of this tree. -/
theorem Reads.misses_iff (reads : invocation.Reads surroundings settings root) :
    invocation.Misses surroundings ↔
      ∃ name, invocation.request.LooksFor name ∧
        ∀ node, root.Reaches (.single (.function node)) → node.name ≠ name := by
  constructor
  · rintro ⟨name, other, looks, held, missing⟩
    exact ⟨name, looks, tree_unique reads.loaded held ▸ missing⟩
  · rintro ⟨name, looks, missing⟩
    exact ⟨name, root, looks, reads.loaded, missing⟩

/-- A run that has what it needs does not fail, as a bad configuration or a missing tree would have
kept it from having that. -/
theorem Reads.not_fails (reads : invocation.Reads surroundings settings root) :
    ¬ invocation.Fails surroundings := by
  rintro (bad | bad)
  · obtain ⟨error, failed⟩ := (Surroundings.settings_eq_error_iff _).mpr bad
    rw [reads.configured] at failed
    contradiction
  · obtain ⟨error, failed⟩ := root_eq_error_iff.mpr bad
    rw [(root_eq_ok_iff root).mpr reads.loaded] at failed
    contradiction

/-- A run that has what it needs ends by whether it misses a function. Its status is told from its
answer, and the answer from the tree. -/
theorem Reads.status_eq (reads : invocation.Reads surroundings settings root) :
    (invocation.Misses surroundings → (invocation.outcome surroundings).status = .nothingFound) ∧
      (¬ invocation.Misses surroundings → (invocation.outcome surroundings).status = .success) := by
  rw [reads.misses_iff, reads.outcome_eq, Outcome.ofAnswer,
    ← Request.found_answer_eq_false_iff settings.functions (invocation.formatWith settings)]
  constructor
  · intro missing
    simp [missing]
  · intro found
    simp [found]

/-- A run that misses a function prints nothing for the function itself, and the negative answer for
whether it is there. -/
theorem Reads.output_of_misses (reads : invocation.Reads surroundings settings root)
    (misses : invocation.Misses surroundings) :
    ∃ name, (invocation.request = .findFunction name ∧
        (invocation.outcome surroundings).output = "") ∨
      (invocation.request = .hasFunction name ∧
        (invocation.outcome surroundings).output =
          negativeAnswer (invocation.formatWith settings)) := by
  rw [reads.outcome_eq, Outcome.ofAnswer]
  exact Request.output_answer_of_not_found
    ((Request.found_answer_eq_false_iff _ _).mpr (reads.misses_iff.mp misses))

end Invocation

/-- What an exit code tells: two that the selected configuration is bad or that there is no tree,
and then nothing is printed; one that a function is looked for that the tree does not reach, and
then nothing is printed for the function itself and the negative answer for whether it is there;
zero that neither is so.

Proof: a run fails, or it misses a function, or it does neither; each of the three has an exit code
of its own, and the codes differ. So each code also tells which it was. -/
theorem run_exitCode_of_parsed {words : List String} {invocation : Invocation}
    (parsed : Arguments.read words = .ok invocation) (surroundings : Surroundings) :
    let outcome := run words surroundings
    let code := outcome.status.exitCode
    (code = 2 ↔ invocation.Fails surroundings) ∧
      (code = 2 → outcome.output = "") ∧
      (code = 1 ↔ ¬ invocation.Fails surroundings ∧ invocation.Misses surroundings) ∧
      (code = 1 → ∃ name,
        (invocation.request = .findFunction name ∧ outcome.output = "") ∨
          (invocation.request = .hasFunction name ∧
            ∃ settings, surroundings.settings invocation.config = .ok settings ∧
              outcome.output = negativeAnswer (invocation.formatWith settings))) ∧
      (code = 0 ↔ ¬ invocation.Fails surroundings ∧ ¬ invocation.Misses surroundings) := by
  intro outcome code
  have shown : outcome = invocation.outcome surroundings := run_eq_outcome parsed surroundings
  -- A run fails, or misses a function, or does neither, and each has a status of its own.
  rcases invocation.fails_or_reads surroundings with fails | ⟨settings, root, reads⟩
  · have failed : outcome = ⟨.failure, ""⟩ := shown.trans (invocation.outcome_of_fails fails)
    simp [code, failed, fails, Status.exitCode]
  · have complete := reads.not_fails
    by_cases misses : invocation.Misses surroundings
    · have status : outcome.status = .nothingFound := shown ▸ reads.status_eq.1 misses
      have negative : ∃ name, (invocation.request = .findFunction name ∧ outcome.output = "") ∨
          (invocation.request = .hasFunction name ∧
            ∃ settings, surroundings.settings invocation.config = .ok settings ∧
              outcome.output = negativeAnswer (invocation.formatWith settings)) := by
        rw [shown]
        obtain ⟨name, looked | ⟨asked, printed⟩⟩ := reads.output_of_misses misses
        · exact ⟨name, .inl looked⟩
        · exact ⟨name, .inr ⟨asked, settings, reads.configured, printed⟩⟩
      simpa [code, status, Status.exitCode, complete, misses] using negative
    · have status : outcome.status = .success := shown ▸ reads.status_eq.2 misses
      simp [code, status, Status.exitCode, complete, misses]

/-- A cast of a function. -/
def castFunction : String :=
  "\x7b\"type\": \"inlineCast\", \"castType\": \"long\", " ++
  "\"value\": \x7b\"type\": \"function\", \"name\": \"avg\", \"args\": []\x7d\x7d"

/-- What this text denotes. -/
def castValue : Json.Value :=
  .object [("type", .string "inlineCast"), ("castType", .string "long"),
    ("value", .object [("type", .string "function"), ("name", .string "avg"), ("args", .array [])])]

/-- A run that finds this cast at its path, and nothing else. -/
def castSurroundings : Surroundings where
  isFile := fun path => path == "query.json"
  bytesAt := fun path => if path = "query.json" then .ok castFunction.toUTF8 else .error .notFound
  input := .ok .empty

/-- The words that ask whether it has the function. -/
def castWords : List String := ["has-function", "query.json", "--format=json", "avg"]

/-- The run that these words ask for. -/
def castQuestion : Invocation where
  request := .hasFunction "avg"
  file := "query.json"
  format := some .json

/-- A walk does not go into the operand, so the function is missed, and the run says so without a
failure. -/
theorem run_exitCode_castFunction :
    Arguments.read castWords = .ok castQuestion ∧
      ¬ castQuestion.Fails castSurroundings ∧ castQuestion.Misses castSurroundings ∧
      (run castWords castSurroundings).status.exitCode = 1 ∧
      (run castWords castSurroundings).output = "\x7b\n  \"found\": false\n\x7d\n" := by
  have parsed : Arguments.read castWords = .ok castQuestion := by rfl
  have read : Json.read castFunction = .ok castValue := by cbv
  have looked : (Load.root castValue).toOption.map (hasFunction "avg") = some false := by
    decide +kernel
  obtain ⟨root, loaded, absent⟩ : ∃ root, load castFunction = .ok root ∧
      hasFunction "avg" root = false := by
    cases loaded : Load.root castValue with
    | error fault => simp [loaded, Except.toOption] at looked
    | ok root =>
      exact ⟨root, by simp [load, read, loaded], by simpa [loaded, Except.toOption] using looked⟩
  have reads : castQuestion.Reads castSurroundings {} root :=
    ⟨rfl, castFunction, rfl, loaded⟩
  have misses : castQuestion.Misses castSurroundings :=
    reads.misses_iff.mpr ((Request.found_answer_eq_false_iff [] .json).mp absent)
  obtain ⟨_, _, missing, printed, _⟩ := run_exitCode_of_parsed parsed castSurroundings
  have code := missing.mpr ⟨reads.not_fails, misses⟩
  obtain ⟨name, ⟨asked, _⟩ | ⟨_, settings, _, output⟩⟩ := printed code
  · simp [castQuestion] at asked
  · exact ⟨parsed, reads.not_fails, misses, code, output⟩

end EsqlTree.Cli
