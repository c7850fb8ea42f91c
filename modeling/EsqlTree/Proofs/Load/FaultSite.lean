import EsqlTree.Proofs.Load.FirstFault
import EsqlTree.Proofs.Tree.Steps

/-!
# A fault holds where its path leads

What a fault says is stated here without regard to how it was found: about a value,
and in words of the value alone. Every fault that is listed for a value has a path
that leads from that value to one of which the fault is true, and the text of the path
tells the steps to it.
-/

namespace EsqlTree

open Json (Value Members lookup)

/-- What a value is that meets an expectation. -/
def Expectation.MetBy : Expectation → Value → Prop
  | .string, value => ∃ s, value = .string s
  | .boolean, value => ∃ b, value = .boolean b
  | .array, value => ∃ elements, value = .array elements
  | .integer, value => ∃ n : Int64, value = .number (.ofInt64 n)
  | .scalar, value => value.kind ≠ .array ∧ value.kind ≠ .object
  | .strings, value => ∃ parts : List String, value = .array (parts.map .string)
  | .location, value => ∃ (ends : Members) (min max : UInt32), value = .object ends ∧
      lookup "min" ends = some (.number (.ofUInt32 min)) ∧
      lookup "max" ends = some (.number (.ofUInt32 max))
  | .callForm, value => ∃ form : CallForm, value = .string form.tag
  | .sourceType, value => ∃ type : SourceType, value = .string type.tag
  | .literalType, value => ∃ type : LiteralType, value = .string type.tag
  | .paramKind, value => ∃ kind : ParamKind, value = .string kind.tag

/-- An offset is a number of 32 bits. The bounds that are checked on the integer are those within
which the conversion loses nothing. -/
theorem isOffset_iff (found : Option Value) :
    isOffset found = true ↔ ∃ n : UInt32, found = some (.number (.ofUInt32 n)) := by
  constructor
  · intro offset
    unfold isOffset at offset
    split at offset
    · rename_i n
      have bound : 0 ≤ n.val ∧ n.val < 4294967296 := of_decide_eq_true offset
      refine ⟨UInt32.ofNat n.val.toNat, ?_⟩
      have whole : ((UInt32.ofNat n.val.toNat).toNat : Int) = n.val :=
        Load.toNat_uint32 bound.1 bound.2
      simp only [Json.Number.ofUInt32, whole]
    · contradiction
  · rintro ⟨n, rfl⟩
    have below := n.toNat_lt
    simp only [Json.Number.ofUInt32, isOffset, decide_eq_true_eq]
    omega

/-- A number that 64 bits hold with a sign is one of them. The lower bound is kept by every integer
of JSON, so only the upper one is checked. -/
theorem lt_iff_ofInt64 (n : Json.Integer) :
    n.val < 9223372036854775808 ↔ ∃ m : Int64, Json.Number.integer n = .ofInt64 m := by
  constructor
  · intro bound
    refine ⟨Int64.ofInt n.val, ?_⟩
    have whole : (Int64.ofInt n.val).toInt = n.val := Int64.toInt_ofInt_of_le n.lower bound
    simp only [Json.Number.ofInt64, whole]
  · rintro ⟨m, same⟩
    cases same
    exact m.toInt_lt

/-- Elements are strings exactly if they are those of a list of strings, which is built from them
one by one. -/
theorem all_string_iff (elements : List Value) :
    (elements.all fun element => decide (element.kind = .string)) = true ↔
      ∃ parts : List String, elements = parts.map .string := by
  constructor
  · intro strings
    induction elements with
    | nil => exact ⟨[], rfl⟩
    | cons element others inOthers =>
      rw [List.all_cons, Bool.and_eq_true] at strings
      obtain ⟨parts, rfl⟩ := inOthers strings.2
      cases element with
      | string s => exact ⟨s :: parts, rfl⟩
      | _ => simp [Value.kind] at strings
  · rintro ⟨parts, rfl⟩
    simp [Value.kind]

/-- A string is one of all tags exactly if something has it as its tag. That the list leaves nothing
out is a hypothesis, to be checked for each type by its cases. -/
theorem any_tag_iff {α : Type} {all : List α} (complete : ∀ a, a ∈ all) (tag : α → String)
    (s : String) :
    (all.any fun a => decide (tag a = s)) = true ↔ ∃ a, Value.string s = .string (tag a) := by
  constructor
  · intro known
    obtain ⟨a, _, same⟩ := List.any_eq_true.mp known
    exact ⟨a, congrArg Value.string (of_decide_eq_true same).symm⟩
  · rintro ⟨a, ⟨⟩⟩
    exact List.any_eq_true.mpr ⟨a, complete a, decide_eq_true rfl⟩

/-- The values that are admitted are those that meet the expectation. The one side is checked when
faults are listed, the other says what is meant by it. -/
theorem Expectation.admits_iff (expected : Expectation) (value : Value) :
    expected.admits value = true ↔ expected.MetBy value := by
  cases expected with
  | string | boolean | array | scalar =>
    cases value <;> simp [Expectation.admits, Expectation.MetBy, Value.kind]
  | integer =>
    cases value with
    | number n =>
      cases n with
      | integer n => simpa [Expectation.admits, Expectation.MetBy] using lt_iff_ofInt64 n
      | float x => simp [Expectation.admits, Expectation.MetBy, Json.Number.ofInt64]
    | _ => simp [Expectation.admits, Expectation.MetBy]
  | strings =>
    cases value with
    | array elements => simpa [Expectation.admits, Expectation.MetBy] using all_string_iff elements
    | _ => simp [Expectation.admits, Expectation.MetBy]
  | location =>
    cases value with
    | object ends => simp [Expectation.admits, Expectation.MetBy, isOffset_iff]
    | _ => simp [Expectation.admits, Expectation.MetBy]
  | callForm =>
    have complete (form : CallForm) : form ∈ CallForm.all := by cases form <;> decide
    cases value with
    | string s => exact any_tag_iff complete CallForm.tag s
    | _ => simp [Expectation.admits, Expectation.MetBy]
  | sourceType =>
    have complete (type : SourceType) : type ∈ SourceType.all := by cases type <;> decide
    cases value with
    | string s => exact any_tag_iff complete SourceType.tag s
    | _ => simp [Expectation.admits, Expectation.MetBy]
  | literalType =>
    have complete (type : LiteralType) : type ∈ LiteralType.all := by cases type <;> decide
    cases value with
    | string s => exact any_tag_iff complete LiteralType.tag s
    | _ => simp [Expectation.admits, Expectation.MetBy]
  | paramKind =>
    have complete (kind : ParamKind) : kind ∈ ParamKind.all := by cases kind <;> decide
    cases value with
    | string s => exact any_tag_iff complete ParamKind.tag s
    | _ => simp [Expectation.admits, Expectation.MetBy]

/-- The expectation that is named is not met. It is the first of those that the value does not
admit, and so one of them. -/
theorem not_metBy_of_unmet? {expected : List Expectation} {value : Value}
    {expectation : Expectation} (unmet : unmet? expected value = some expectation) :
    ¬ expectation.MetBy value := by
  have refused := List.find?_some unmet
  rw [← Expectation.admits_iff]
  simpa using refused

/-- True of the fields that nodes of some kind may leave out. `null` in one of them is
never a fault of the field. -/
def Field.isOptional : Field → Bool
  | .args | .values | .literalType | .quantity | .unit | .castType => false
  | .name | .text | .location | .incomplete | .subtype | .sourceType | .cluster | .index | .parts
  | .quoted | .value | .paramType => true

/-- What a fault says about the value at which it is. -/
def Fault.HoldsAt : Fault → Value → Prop
  | .notANode _ found, value => value.kind = found ∧ found ≠ .array ∧ found ≠ .object
  | .missingType _, value => ∃ members, value = .object members ∧
      ∀ tag, lookup "type" members ≠ some (.string tag)
  | .missingField _ kind field, value => ∃ members, value = .object members ∧
      lookup "type" members = some (.string kind.tag) ∧ field.key ∉ members.map Prod.fst
  | .invalidField _ field expected, value => ∃ members held, value = .object members ∧
      lookup field.key members = some held ∧ ¬ expected.MetBy held ∧
      (field.isOptional = true → held ≠ .null)

/-- A fault is below a value that stands at a path: the steps of its own path behind
those lead from the value to one at which it holds. -/
def Fault.HoldsBelow (fault : Fault) (value : Value) (path : Path) : Prop :=
  ∃ steps found, fault.path = { path with steps := path.steps ++ steps } ∧
    follow? steps value = some found ∧ fault.HoldsAt found

variable {fault : Fault} {value : Value} {members : Members} {path : Path} {tag : String}

/-- A fault of a value itself is below it, no step away. Its path is then that of the value. -/
theorem Fault.HoldsAt.below (holds : fault.HoldsAt value) (here : fault.path = path) :
    fault.HoldsBelow value path := by
  refine ⟨[], value, ?_, rfl, holds⟩
  rw [here, List.append_nil]

/-- A fault below what a step leads to is below the value from which it does. The step is put in
front of the others. -/
theorem Fault.HoldsBelow.child {step : Step} {child : Value}
    (below : fault.HoldsBelow child (path.child step))
    (entered : step.follow? value = some child) : fault.HoldsBelow value path := by
  obtain ⟨steps, found, located, reached, holds⟩ := below
  refine ⟨step :: steps, found, ?_, (follow?_cons steps entered).trans reached, holds⟩
  rw [located, Path.child, List.append_assoc, List.singleton_append]

/-- A rule is fit for nodes with a tag: what it requires, it requires of their kind, and
the field is not one that may be left out. -/
def Rule.Fits (rule : Rule) (tag : String) : Prop :=
  ∀ kind, rule.need = .required kind → kind.tag = tag ∧ rule.field.isOptional = false

/-- The faults of a field hold at their object. The cases are those of the rule: the field is
required and missing, it may be left out, or what it holds does not meet what is expected. -/
theorem Rule.holdsAt_of_mem_faults {rule : Rule}
    (tagged : lookup "type" members = some (.string tag)) (fits : rule.Fits tag)
    (listed : fault ∈ rule.faults members path) :
    fault.path = path ∧ fault.HoldsAt (.object members) := by
  unfold Rule.faults at listed
  split at listed
  · rename_i kind required absent
    obtain ⟨rfl, _⟩ := fits kind required
    obtain rfl := List.mem_singleton.mp listed
    exact ⟨rfl, members, rfl, tagged, (Json.lookup_eq_none_iff _ _).mp absent⟩
  · contradiction
  · contradiction
  · rename_i held found notNull
    split at listed
    · rename_i expectation unmet
      obtain rfl := List.mem_singleton.mp listed
      refine ⟨rfl, members, held, rfl, found, not_metBy_of_unmet? unmet, ?_⟩
      intro optional null
      cases need : rule.need with
      | optional => exact notNull need null
      | required kind =>
        rw [(fits kind need).2] at optional
        contradiction
    · contradiction

/-- The faults of fields hold at their object, since each of them is one of some field. -/
theorem holdsAt_of_mem_allFaults {rules : List Rule}
    (tagged : lookup "type" members = some (.string tag))
    (fits : ∀ rule ∈ rules, rule.Fits tag) (listed : fault ∈ allFaults rules members path) :
    fault.path = path ∧ fault.HoldsAt (.object members) := by
  obtain ⟨rule, among, ofRule⟩ := List.mem_flatMap.mp listed
  exact rule.holdsAt_of_mem_faults tagged (fits rule among) ofRule

/-- A field that holds nodes is fit for nodes with a tag: they are of the kind that must
have it, its step leads to it, and `null` is only a fault in it if it must be there. -/
structure Branch.Fits (branch : Branch) (tag : String) : Prop where
  /-- The field is required of nodes of that tag. -/
  kind : branch.kind.tag = tag
  /-- The step leads to the field. -/
  step : ∀ members, branch.step.follow? (.object members) = lookup branch.field.key members
  /-- Nothing is expected of a field that may be left out elsewhere. -/
  expected : branch.field.isOptional = true → branch.expected = []

/-- What a kind asks for is fit for nodes with the tag of the kind. -/
structure Shape.Fits (shape : Shape) (tag : String) : Prop where
  /-- The fields before the one that holds nodes are fit. -/
  before : ∀ rule ∈ shape.before, rule.Fits tag
  /-- The field that holds nodes is fit. -/
  branch : ∀ branch, shape.branch = some branch → branch.Fits tag
  /-- The fields behind it are fit. -/
  behind : ∀ rule ∈ shape.behind, rule.Fits tag

/-- The rules of the header are fit for all nodes, because they require nothing. -/
theorem headerRules_fits (tag : String) : ∀ rule ∈ headerRules, rule.Fits tag := by
  simp [headerRules, Rule.Fits]

/-- Every tag asks for what is fit for it. Once the place and the kind are known, this can be read
off the table. -/
theorem Shape.of_fits (place : Place) (tag : String) : (Shape.of place tag).Fits tag := by
  cases known : Kind.ofTag? tag with
  | none => constructor <;> simp [Shape.of, known]
  | some kind =>
    obtain rfl := (Kind.ofTag?_eq_some_iff tag kind).mp known
    cases place <;> cases kind <;> constructor <;>
      simp [Shape.of, known, Rule.Fits, Field.isOptional]
    all_goals exact ⟨rfl, fun _ => rfl, by simp [Field.isOptional]⟩

/-- A fault of elements is one of an element, whose position its path goes on with. The induction is
on the elements, the position moving with them. -/
theorem mem_faultsOfEach {place : Place} {elements : List Value} {position : Nat}
    (listed : fault ∈ faultsOfEach place elements position path) :
    ∃ index element, elements[index]? = some element ∧
      fault ∈ faults place element (path.child (.index (position + index))) := by
  induction elements generalizing position with
  | nil => simp [faultsOfEach] at listed
  | cons element others inOthers =>
    rw [faultsOfEach, List.mem_append] at listed
    rcases listed with ofFirst | ofOthers
    · exact ⟨0, element, rfl, ofFirst⟩
    · obtain ⟨index, other, at_index, ofOther⟩ := inOthers ofOthers
      refine ⟨index + 1, other, at_index, ?_⟩
      rwa [Nat.add_assoc, Nat.add_comm 1 index] at ofOther

/-- A fault of the field that holds nodes holds at its object, or it is one of what the field holds.
Which of the two it is depends on whether the field is there and meets what is expected. -/
theorem Branch.holdsAt_or_mem_faults {branch : Branch}
    (tagged : lookup "type" members = some (.string tag)) (fits : branch.Fits tag)
    (listed : fault ∈ branchFaults (some branch) members path) :
    (fault.path = path ∧ fault.HoldsAt (.object members)) ∨
      ∃ child, lookup branch.field.key members = some child ∧
        fault ∈ faults branch.place child (path.child branch.step) := by
  cases found : lookup branch.field.key members with
  | none =>
    rw [branchFaults_of_none path found] at listed
    obtain rfl := List.mem_singleton.mp listed
    have kind : lookup "type" members = some (.string branch.kind.tag) := by
      rw [tagged, fits.kind]
    exact .inl ⟨rfl, members, rfl, kind, (Json.lookup_eq_none_iff _ _).mp found⟩
  | some child =>
    rw [branchFaults_of_some path found] at listed
    cases unmet : unmet? branch.expected child with
    | none =>
      rw [unmet] at listed
      exact .inr ⟨child, rfl, listed⟩
    | some expectation =>
      rw [unmet] at listed
      obtain rfl := List.mem_singleton.mp listed
      refine .inl ⟨rfl, members, child, rfl, found, not_metBy_of_unmet? unmet, ?_⟩
      intro optional
      rw [fits.expected optional] at unmet
      contradiction

/-- Every fault that is listed for a value holds below it. The recursion is on the value:
a fault is one of the value itself, or it is listed for an element of it or for what its
field holds. -/
theorem holdsBelow_of_mem_faults (place : Place) (value : Value) (path : Path) :
    fault ∈ faults place value path → fault.HoldsBelow value path := by
  cases value with
  | array elements =>
    intro listed
    rw [faults] at listed
    obtain ⟨index, element, found, ofElement⟩ := mem_faultsOfEach listed
    rw [Nat.zero_add] at ofElement
    have smaller : sizeOf element < sizeOf elements :=
      List.sizeOf_lt_of_mem (List.mem_of_getElem? found)
    have below := holdsBelow_of_mem_faults place element (path.child (.index index)) ofElement
    exact below.child found
  | object members =>
    intro listed
    by_cases untagged : ∀ tag, lookup "type" members ≠ some (.string tag)
    · rw [faults_of_untagged path untagged] at listed
      obtain rfl := List.mem_singleton.mp listed
      have holds : Fault.HoldsAt (.missingType path) (.object members) := ⟨members, rfl, untagged⟩
      exact holds.below rfl
    obtain ⟨tag, tagged⟩ := Classical.not_forall_not.mp untagged
    have fits := Shape.of_fits place tag
    rw [faults_of_tag path tagged, allFaults_append] at listed
    simp only [List.mem_append] at listed
    rcases listed with ((ofHeader | ofFront) | ofBranch) | ofBack
    · obtain ⟨here, holds⟩ := holdsAt_of_mem_allFaults tagged (headerRules_fits tag) ofHeader
      exact holds.below here
    · obtain ⟨here, holds⟩ := holdsAt_of_mem_allFaults tagged fits.before ofFront
      exact holds.below here
    · cases branched : (Shape.of place tag).branch with
      | none => simp [branched, branchFaults] at ofBranch
      | some branch =>
        rw [branched] at ofBranch
        have branchFits := fits.branch branch branched
        rcases branch.holdsAt_or_mem_faults tagged branchFits ofBranch with
          ⟨here, holds⟩ | ⟨child, found, ofChild⟩
        · exact holds.below here
        · have smaller : sizeOf child < sizeOf members := Json.sizeOf_lookup found
          have below := holdsBelow_of_mem_faults branch.place child (path.child branch.step) ofChild
          exact below.child ((branchFits.step members).trans found)
    · obtain ⟨here, holds⟩ := holdsAt_of_mem_allFaults tagged fits.behind ofBack
      exact holds.below here
  | null | boolean _ | number _ | string _ =>
    intro listed
    rw [faults_of_other path (by simp [Value.kind]) (by simp [Value.kind])] at listed
    obtain rfl := List.mem_singleton.mp listed
    exact Fault.HoldsAt.below ⟨rfl, by simp [Value.kind], by simp [Value.kind]⟩ rfl
termination_by sizeOf value

/-- A value that is refused has a fault at the end of its path. The text of the path
tells the steps that lead there from the value, and no others have that text.

Proof: the fault is one of the list, and in the list each stands at the end of the steps that the
recursion took. Two renderings are told apart step by step, by the brackets and the dots that begin
them. -/
theorem refused_at_unique_site (value : Value) (fault : Fault)
    (refused : Load.root value = .error fault) :
    ∃ steps, (∀ others : List Step,
        fault.path.render = "$" ++ String.join (others.map Step.render) ↔ others = steps) ∧
      ∃ found, follow? steps value = some found ∧ fault.HoldsAt found := by
  have present : value ≠ .null := by
    rintro rfl
    simp [Load.root] at refused
  have reported := Load.root_reports present
  rw [refused] at reported
  have listed : fault ∈ faults .node value {} := List.mem_of_head? reported
  obtain ⟨steps, found, located, reached, holds⟩ := holdsBelow_of_mem_faults .node value {} listed
  refine ⟨steps, fun others => ?_, found, reached, holds⟩
  rw [located, eq_comm]
  exact Path.render_eq_iff "$" others steps

/-- A number among the values of a list, below the operand of a cast in the arguments of
a command. -/
def strayNumber : Value :=
  .array [.object [("type", .string "command"), ("args", .array [
    .object [("type", .string "inlineCast"), ("castType", .string "keyword"),
      ("value", .object [("type", .string "list"), ("values", .array [
        .object [("type", .string "unknown")], .number (.ofUInt32 7)])])]])]]

/-- Loading the stray number ends with a fault that only its own steps lead to. They go through an
array, a command, a cast and a list. -/
theorem strayNumber_at_unique_site :
    Load.root strayNumber = .error (.notANode
        { steps := [.index 0, .args, .index 0, .value, .values, .index 1] } .number) ∧
      ∃ steps, (∀ others : List Step,
          Path.render { steps := [.index 0, .args, .index 0, .value, .values, .index 1] } =
            "$" ++ String.join (others.map Step.render) ↔ others = steps) ∧
        ∃ found, follow? steps strayNumber = some found ∧
          Fault.HoldsAt (.notANode
            { steps := [.index 0, .args, .index 0, .value, .values, .index 1] } .number) found := by
  have refused : Load.root strayNumber = .error (.notANode
      { steps := [.index 0, .args, .index 0, .value, .values, .index 1] } .number) := by
    cbv
  exact ⟨refused, refused_at_unique_site strayNumber _ refused⟩

end EsqlTree
