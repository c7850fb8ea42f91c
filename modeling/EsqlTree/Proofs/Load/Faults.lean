import EsqlTree.Json.Value
import EsqlTree.Proofs.Tree.Places
import EsqlTree.Tree.Fault

/-!
# Every fault of a value

What a node needs is laid down in a table: the fields of each kind in the order in
which they are looked at, what each has to hold, and which of them holds nodes. The
faults of a value are all deviations from that table, collected without stopping.
The faults of a child stand where the field that holds it is looked at.

Nothing here loads anything. Each field has at most one fault: it is missing, or the
first expectation that it does not meet is named.
-/

namespace EsqlTree

open Json (Value Members lookup)

/-- True of an integer that 32 bits hold without a sign. -/
def isOffset : Option Value → Bool
  | some (.number (.integer n)) => decide (0 ≤ n.val ∧ n.val < 4294967296)
  | _ => false

/-- True of the values that meet an expectation. -/
def Expectation.admits : Expectation → Value → Bool
  | .string, .string _ => true
  | .boolean, .boolean _ => true
  | .array, .array _ => true
  | .integer, .number (.integer n) => decide (n.val < 9223372036854775808)
  | .scalar, .array _ => false
  | .scalar, .object _ => false
  | .scalar, _ => true
  | .strings, .array elements => elements.all fun element => decide (element.kind = .string)
  | .location, .object ends => isOffset (lookup "min" ends) && isOffset (lookup "max" ends)
  | .callForm, .string s => CallForm.all.any fun form => decide (form.tag = s)
  | .sourceType, .string s => SourceType.all.any fun type => decide (type.tag = s)
  | .literalType, .string s => LiteralType.all.any fun type => decide (type.tag = s)
  | .paramKind, .string s => ParamKind.all.any fun kind => decide (kind.tag = s)
  | _, _ => false

/-- `null` is a value for a literal, and meets no other expectation. So a field that may not be left
out is at fault if it is `null`. -/
theorem Expectation.admits_null_iff (expectation : Expectation) :
    expectation.admits .null = true ↔ expectation = .scalar := by
  cases expectation <;> simp [admits]

/-- Whether a field has to be there. -/
inductive Need where
  /-- It may be left out or `null`. -/
  | optional
  /-- It must be there in nodes of a kind. -/
  | required (kind : Kind)

/-- What is asked of a field. -/
structure Rule where
  /-- Whether it has to be there. -/
  need : Need
  /-- The field. -/
  field : Field
  /-- What its value has to be, in the order in which that is looked at. -/
  expected : List Expectation

/-- The first expectation that a value does not meet. -/
def unmet? (expected : List Expectation) (value : Value) : Option Expectation :=
  expected.find? fun expectation => !expectation.admits value

/-- The faults of a field that holds no nodes; there is at most one. -/
def Rule.faults (rule : Rule) (members : Members) (path : Path) : List Fault :=
  match rule.need, lookup rule.field.key members with
  | .required kind, none => [.missingField path kind rule.field]
  | .optional, none => []
  | .optional, some .null => []
  | _, some value =>
    match unmet? rule.expected value with
    | some expectation => [.invalidField path rule.field expectation]
    | none => []

/-- The faults of fields, one after another. -/
def allFaults (rules : List Rule) (members : Members) (path : Path) : List Fault :=
  rules.flatMap fun rule => rule.faults members path

@[simp] theorem allFaults_nil (members : Members) (path : Path) :
    allFaults [] members path = [] := rfl

@[simp] theorem allFaults_cons (rule : Rule) (rules : List Rule) (members : Members)
    (path : Path) :
    allFaults (rule :: rules) members path =
      rule.faults members path ++ allFaults rules members path := rfl

@[simp] theorem allFaults_append (front back : List Rule) (members : Members) (path : Path) :
    allFaults (front ++ back) members path =
      allFaults front members path ++ allFaults back members path := by
  simp only [allFaults, List.flatMap_append]

/-- A field that holds nodes. -/
structure Branch where
  /-- The kind of the nodes that must have the field. -/
  kind : Kind
  /-- The field. -/
  field : Field
  /-- What its value has to be before it is entered. -/
  expected : List Expectation
  /-- The step to its value. -/
  step : Step
  /-- The sort of place that it offers. -/
  place : Place

/-- What a kind asks of its nodes behind their header. -/
structure Shape where
  /-- The fields before the one that holds nodes, if any does. -/
  before : List Rule := []
  /-- The field that holds nodes. -/
  branch : Option Branch := none
  /-- The fields behind it. -/
  behind : List Rule := []

/-- What is asked of every node. -/
def headerRules : List Rule :=
  [⟨.optional, .name, [.string]⟩, ⟨.optional, .text, [.string]⟩,
    ⟨.optional, .location, [.location]⟩, ⟨.optional, .incomplete, [.boolean]⟩]

/-- What is asked of a node with a tag in a place. Nothing is asked of a command in a
slot, nor of a tag that no kind has. -/
def Shape.of (place : Place) (tag : String) : Shape :=
  match place, Kind.ofTag? tag with
  | .node, some .command =>
    { branch := some ⟨.command, .args, [.array], .args, .node⟩ }
  | _, some .function =>
    { before := [⟨.optional, .subtype, [.string, .callForm]⟩]
      branch := some ⟨.function, .args, [.array], .args, .slot⟩ }
  | _, some .option =>
    { branch := some ⟨.option, .args, [.array], .args, .slot⟩ }
  | _, some .list =>
    { branch := some ⟨.list, .values, [.array], .values, .slot⟩ }
  | _, some .inlineCast =>
    { branch := some ⟨.inlineCast, .value, [], .value, .slot⟩
      behind := [⟨.required .inlineCast, .castType, [.string]⟩] }
  | _, some .source =>
    { before := [⟨.optional, .sourceType, [.string, .sourceType]⟩,
        ⟨.optional, .cluster, [.string]⟩, ⟨.optional, .index, [.string]⟩] }
  | _, some .column =>
    { before := [⟨.optional, .parts, [.strings]⟩, ⟨.optional, .quoted, [.boolean]⟩] }
  | _, some .literal =>
    { before := [⟨.required .literal, .literalType, [.string, .literalType]⟩,
        ⟨.optional, .value, [.scalar]⟩, ⟨.optional, .paramType, [.string, .paramKind]⟩] }
  | _, some .timeInterval =>
    { before := [⟨.required .timeInterval, .quantity, [.integer]⟩,
        ⟨.required .timeInterval, .unit, [.string]⟩] }
  | _, some .command | _, some .mode | _, some .unknown | _, none => {}

mutual

/-- Every fault of a value that stands in a place. -/
def faults (place : Place) (value : Value) (path : Path) : List Fault :=
  match value with
  | .array elements => faultsOfEach place elements 0 path
  | .object members =>
    match lookup "type" members with
    | some (.string tag) =>
      let shape := Shape.of place tag
      allFaults (headerRules ++ shape.before) members path ++
        branchFaults shape.branch members path ++ allFaults shape.behind members path
    | _ => [.missingType path]
  | other => [.notANode path other.kind]
termination_by sizeOf value

/-- Every fault of the field that holds nodes, and of the nodes that it holds. -/
def branchFaults (branch : Option Branch) (members : Members) (path : Path) : List Fault :=
  match branch with
  | none => []
  | some branch =>
    match _found : lookup branch.field.key members with
    | none => [.missingField path branch.kind branch.field]
    | some value =>
      match unmet? branch.expected value with
      | some expectation => [.invalidField path branch.field expectation]
      | none => faults branch.place value (path.child branch.step)
termination_by sizeOf members
decreasing_by exact Json.sizeOf_lookup _found

/-- Every fault of elements in turn, the first of them having a position in its
array. -/
def faultsOfEach (place : Place) (elements : List Value) (position : Nat) (path : Path) :
    List Fault :=
  match elements with
  | [] => []
  | element :: others =>
    faults place element (path.child (.index position)) ++
      faultsOfEach place others (position + 1) path
termination_by sizeOf elements

end

/-- The faults of an object with a tag are those of the fields that its tag asks for, in the order
in which the fields are looked at. -/
theorem faults_of_tag {place : Place} {members : Members} {tag : String} (path : Path)
    (tagged : lookup "type" members = some (.string tag)) :
    faults place (.object members) path =
      allFaults (headerRules ++ (Shape.of place tag).before) members path ++
        branchFaults (Shape.of place tag).branch members path ++
        allFaults (Shape.of place tag).behind members path := by
  rw [faults, tagged]

/-- The fault of an object without a tag is that it has none, and there is no other, because nothing
is known to be asked of it. -/
theorem faults_of_untagged {place : Place} {members : Members} (path : Path)
    (untagged : ∀ tag, lookup "type" members ≠ some (.string tag)) :
    faults place (.object members) path = [.missingType path] := by
  rw [faults]
  split
  · rename_i tag found
    exact absurd found (untagged tag)
  · rfl

/-- The fault of a value that is neither an array nor an object is that it is none. It is named
together with what the value is instead. -/
theorem faults_of_other {place : Place} {value : Value} (path : Path)
    (noArray : value.kind ≠ .array) (noObject : value.kind ≠ .object) :
    faults place value path = [.notANode path value.kind] := by
  cases value with
  | array elements => exact absurd rfl noArray
  | object members => exact absurd rfl noObject
  | _ => simp [faults]

/-- The field that holds nodes is at fault by itself if it is missing, and then there is nothing
below it. -/
theorem branchFaults_of_none {branch : Branch} {members : Members} (path : Path)
    (absent : lookup branch.field.key members = none) :
    branchFaults (some branch) members path = [.missingField path branch.kind branch.field] := by
  rw [branchFaults]
  split <;> simp_all

/-- The field that holds nodes is at fault by itself if its value does not meet what is
expected, and otherwise by the nodes in it. -/
theorem branchFaults_of_some {branch : Branch} {members : Members} (path : Path) {value : Value}
    (found : lookup branch.field.key members = some value) :
    branchFaults (some branch) members path =
      match unmet? branch.expected value with
      | some expectation => [.invalidField path branch.field expectation]
      | none => faults branch.place value (path.child branch.step) := by
  rw [branchFaults]
  split <;> simp_all

end EsqlTree
