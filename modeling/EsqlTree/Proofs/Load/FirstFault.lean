import EsqlTree.Proofs.Load.Faults
import EsqlTree.Proofs.Load.Fields

/-!
# Loading stops at the first fault

A value is loaded exactly if it has no fault, and otherwise the fault that loading
ends with is the first of all that there are. Each reader is related to the rule of
its field by itself; a sequence of readers then reports the faults of its rules one
after another, because the second reader is asked only where the first found none.
-/

namespace EsqlTree.Load

open Json (Value Members lookup)

/-- A result reports faults: it is a success if there are none, and otherwise the first
of them. -/
def Reports {α : Type} (result : Except Fault α) (faults : List Fault) : Prop :=
  match result with
  | .ok _ => faults = []
  | .error fault => faults.head? = some fault

section

variable {α β : Type}

@[simp] theorem reports_ok (value : α) (faults : List Fault) :
    Reports (.ok value) faults ↔ faults = [] := Iff.rfl

@[simp] theorem reports_error (fault : Fault) (faults : List Fault) :
    Reports (.error fault : Except Fault α) faults ↔ faults.head? = some fault := Iff.rfl

/-- Two steps report the faults of both. The second step is asked only if the first
reports none. -/
theorem Reports.bind {first : Except Fault α} {next : α → Except Fault β}
    {early late : List Fault} (reported : Reports first early)
    (continued : ∀ value, first = .ok value → Reports (next value) late) :
    Reports (first >>= next) (early ++ late) := by
  cases first with
  | ok value =>
    have none : early = [] := reported
    simpa [none] using continued value rfl
  | error fault =>
    have head : early.head? = some fault := reported
    simp [List.head?_append, head]

/-- A second step that cannot fail reports nothing more. With this the end of a reader, which only
puts its results together, is passed over. -/
theorem Reports.total {first : Except Fault α} {next : α → Except Fault β} {faults : List Fault}
    (reported : Reports first faults) (total : ∀ value, ∃ result, next value = .ok result) :
    Reports (first >>= next) faults := by
  cases first with
  | ok value =>
    obtain ⟨result, done⟩ := total value
    rw [ok_bind, done]
    exact reported
  | error fault => exact reported

end

variable {members : Members} {field : Field} {kind : Kind} {path : Path}

/-- An offset is read exactly if it is one. What is found is followed down to an integer, and then
both sides check the same bounds. -/
theorem isSome_offset? (key : String) (members : Members) :
    (offset? key members).isSome = isOffset (lookup key members) := by
  cases found : lookup key members with
  | none => simp [offset?, isOffset, found]
  | some value =>
    cases value with
    | number n =>
      cases n with
      | integer n =>
        by_cases bound : 0 ≤ n.val ∧ n.val < 4294967296 <;>
          simp [offset?, isOffset, found, Json.Integer.toUInt32?, bound]
      | float x => simp [offset?, isOffset, found]
    | _ => simp [offset?, isOffset, found]

/-- Strings are read exactly if all elements are some. By induction on the elements, where one that
is no string ends both. -/
theorem isSome_strings? (elements : List Value) :
    (strings? elements).isSome = elements.all fun element => decide (element.kind = .string) := by
  induction elements with
  | nil => rfl
  | cons element others inOthers => cases element <;> simp [strings?, Value.kind, inOthers]

/-- An optional string reports what its rule does: nothing if it is absent, `null` or a string. -/
theorem optionalString_reports :
    Reports (optionalString members field path)
      (Rule.faults ⟨.optional, field, [.string]⟩ members path) := by
  unfold optionalString
  split <;> simp_all [Rule.faults, unmet?, Expectation.admits]

/-- An optional truth value reports what its rule does: nothing if it is absent, `null` or a truth
value. -/
theorem optionalBoolean_reports :
    Reports (optionalBoolean members field path)
      (Rule.faults ⟨.optional, field, [.boolean]⟩ members path) := by
  unfold optionalBoolean
  split <;> simp_all [Rule.faults, unmet?, Expectation.admits]

/-- An optional tag reports what its rule does: first that it is no string, and then that
it is none of the tags. -/
theorem optionalTag_reports {α : Type} {ofTag? : String → Option α} {expected : Expectation}
    (known : ∀ tag, expected.admits (.string tag) = (ofTag? tag).isSome) :
    Reports (optionalTag ofTag? expected members field path)
      (Rule.faults ⟨.optional, field, [.string, expected]⟩ members path) := by
  cases found : lookup field.key members with
  | none => simp [optionalTag, optionalString, found, Rule.faults]
  | some value =>
    cases value with
    | string tag =>
      have string : Expectation.string.admits (.string tag) = true := rfl
      cases meaning : ofTag? tag <;>
        simp [optionalTag, optionalString, found, Rule.faults, unmet?, string, known, meaning]
    | _ => simp [optionalTag, optionalString, found, Rule.faults, unmet?, Expectation.admits]

/-- A required string reports what its rule does. That it is missing is reported by the field, any
other value by the expectation. -/
theorem requiredString_reports :
    Reports (requiredString members field kind path)
      (Rule.faults ⟨.required kind, field, [.string]⟩ members path) := by
  cases found : lookup field.key members with
  | none => simp [requiredString, required_eq_error found, Rule.faults, found]
  | some value =>
    cases value <;>
      simp [requiredString, required_eq_ok found, Rule.faults, found, unmet?, Expectation.admits]

/-- A location reports what its rule does. Both offsets have to be read, and nothing else in the
object is looked at. -/
theorem location_reports :
    Reports (Load.location members path)
      (Rule.faults ⟨.optional, .location, [.location]⟩ members path) := by
  cases found : lookup Field.location.key members with
  | none => simp [Load.location, found, Rule.faults]
  | some value =>
    cases value with
    | object ends =>
      have min := isSome_offset? "min" ends
      have max := isSome_offset? "max" ends
      cases first : offset? "min" ends <;> cases last : offset? "max" ends <;>
        simp_all [Load.location, Rule.faults, unmet?, Expectation.admits]
    | _ => simp [Load.location, found, Rule.faults, unmet?, Expectation.admits]

/-- The path segments of a column report what their rule does: that they are no array of strings,
whichever of its elements is at fault. -/
theorem parts_reports :
    Reports (Load.parts members path)
      (Rule.faults ⟨.optional, .parts, [.strings]⟩ members path) := by
  cases found : lookup Field.parts.key members with
  | none => simp [Load.parts, found, Rule.faults]
  | some value =>
    cases value with
    | array elements =>
      have strings := isSome_strings? elements
      cases parts : strings? elements <;>
        simp_all [Load.parts, Rule.faults, unmet?, Expectation.admits]
    | _ => simp [Load.parts, found, Rule.faults, unmet?, Expectation.admits]

/-- The type of a literal reports what its rule does: that it is missing, that it is no string, or
that it is none of the types. -/
theorem literalType_reports :
    Reports (Load.literalType members path)
      (Rule.faults ⟨.required .literal, .literalType, [.string, .literalType]⟩ members path) := by
  cases found : lookup Field.literalType.key members with
  | none => simp [Load.literalType, requiredString, required_eq_error found, Rule.faults, found]
  | some value =>
    cases value with
    | string tag =>
      have string : Expectation.string.admits (.string tag) = true := rfl
      have known : Expectation.literalType.admits (.string tag) = (LiteralType.ofTag? tag).isSome :=
        List.isSome_find?.symm
      cases type : LiteralType.ofTag? tag <;>
        simp [Load.literalType, requiredString_eq_ok found, Rule.faults, found, unmet?, string,
          known, type]
    | _ =>
      simp [Load.literalType, requiredString, required_eq_ok found, Rule.faults, found, unmet?,
        Expectation.admits]

/-- The value of a literal reports what its rule does. Only an array and an object are refused, so
neither its type nor its text matters. -/
theorem scalar_reports {type : LiteralType} {text : String} :
    Reports (Load.scalar type text members path)
      (Rule.faults ⟨.optional, .value, [.scalar]⟩ members path) := by
  cases found : lookup Field.value.key members with
  | none => simp [Load.scalar, found, Rule.faults]
  | some value =>
    cases value <;> simp [Load.scalar, found, Rule.faults, unmet?, Expectation.admits]

/-- The number of units of a time span reports what its rule does. An integer that only an unsigned
number could hold is refused as a float is. -/
theorem quantity_reports :
    Reports (Load.quantity members path)
      (Rule.faults ⟨.required .timeInterval, .quantity, [.integer]⟩ members path) := by
  cases found : lookup Field.quantity.key members with
  | none => simp [Load.quantity, required_eq_error found, Rule.faults, found]
  | some value =>
    cases value with
    | number n =>
      cases n with
      | integer n =>
        by_cases bound : n.val < 9223372036854775808 <;>
          simp [Load.quantity, required_eq_ok found, Json.Integer.toInt64?, bound, Rule.faults,
            found, unmet?, Expectation.admits]
      | float x =>
        simp [Load.quantity, required_eq_ok found, Rule.faults, found, unmet?, Expectation.admits]
    | _ =>
      simp [Load.quantity, required_eq_ok found, Rule.faults, found, unmet?, Expectation.admits]

/-- The way a placeholder refers to its value reports what its rule does. What is derived from the
text where none is given cannot fail. -/
theorem paramKind_reports {type : LiteralType} {text : String} :
    Reports (Load.paramKind type text members path)
      (Rule.faults ⟨.optional, .paramType, [.string, .paramKind]⟩ members path) := by
  have known (tag : String) :
      Expectation.paramKind.admits (.string tag) = (ParamKind.ofTag? tag).isSome :=
    List.isSome_find?.symm
  refine (optionalTag_reports known).total fun given => ?_
  cases given <;> exact ⟨_, rfl⟩

/-- The header of a node reports what its rules do, one after another in the order in which the
fields are read. -/
theorem header_reports :
    Reports (Load.header members path) (allFaults headerRules members path) := by
  refine optionalString_reports.bind fun name _ => ?_
  refine optionalString_reports.bind fun text _ => ?_
  refine location_reports.bind fun location _ => ?_
  exact optionalBoolean_reports.bind fun incomplete _ => rfl

/-- A source reports what its rules do: its type first, and then the two names. -/
theorem source_reports {header : Header} :
    Reports (Load.source header members path)
      (allFaults (Shape.of .slot Kind.source.tag).before members path) := by
  have known (tag : String) :
      Expectation.sourceType.admits (.string tag) = (SourceType.ofTag? tag).isSome :=
    List.isSome_find?.symm
  refine (optionalTag_reports known).bind fun type _ => ?_
  refine optionalString_reports.bind fun cluster _ => ?_
  exact optionalString_reports.bind fun index _ => rfl

/-- A column reports what its rules do: its segments first, and then whether it is quoted. -/
theorem column_reports {header : Header} :
    Reports (Load.column header members path)
      (allFaults (Shape.of .slot Kind.column.tag).before members path) := by
  refine parts_reports.bind fun parts _ => ?_
  exact optionalBoolean_reports.bind fun quoted _ => rfl

/-- A literal reports what its rules do. The value is read after the type, as it needs it, and the
rules stand in that order. -/
theorem literal_reports {header : Header} :
    Reports (Load.literal header members path)
      (allFaults (Shape.of .slot Kind.literal.tag).before members path) := by
  refine literalType_reports.bind fun type _ => ?_
  refine scalar_reports.bind fun value _ => ?_
  exact paramKind_reports.bind fun kind _ => rfl

/-- A time span reports what its rules do: its number of units first, and then the unit. -/
theorem timeInterval_reports {header : Header} :
    Reports (Load.timeInterval header members path)
      (allFaults (Shape.of .slot Kind.timeInterval.tag).before members path) := by
  refine quantity_reports.bind fun quantity _ => ?_
  exact requiredString_reports.bind fun unit _ => rfl

/-- A field that holds an array of nodes reports that it is missing or no array, and otherwise what
its elements do. What the elements report is a hypothesis, since the readers of fields know nothing
of nodes. -/
theorem requiredArray_reports {α : Type} {step : Step} {place : Place}
    {next : { elements : List Value // sizeOf elements < sizeOf members } → Except Fault α}
    (entered : ∀ elements (smaller : sizeOf elements < sizeOf members),
      Reports (next ⟨elements, smaller⟩) (faultsOfEach place elements 0 (path.child step))) :
    Reports (requiredArray members field kind path >>= next)
      (branchFaults (some ⟨kind, field, [.array], step, place⟩) members path) := by
  cases found : lookup field.key members with
  | none =>
    rw [branchFaults_of_none path found]
    simp [requiredArray, required_eq_error found]
  | some value =>
    rw [branchFaults_of_some path found]
    cases value with
    | array elements =>
      obtain ⟨smaller, read⟩ := requiredArray_eq_ok kind path found
      have elementFaults := entered elements smaller
      rw [read, ok_bind]
      simpa [unmet?, Expectation.admits, faults] using elementFaults
    | _ => simp [requiredArray, required_eq_ok found, unmet?, Expectation.admits]

/-- A field that holds a node reports that it is missing, and otherwise what its node does; further
faults follow. This is the operand of a cast, behind which the type is still to be read. -/
theorem required_reports {α : Type} {step : Step} {place : Place} {late : List Fault}
    {next : { value : Value // sizeOf value < sizeOf members } → Except Fault α}
    (entered : ∀ value (smaller : sizeOf value < sizeOf members),
      Reports (next ⟨value, smaller⟩) (faults place value (path.child step) ++ late)) :
    Reports (required members field kind path >>= next)
      (branchFaults (some ⟨kind, field, [], step, place⟩) members path ++ late) := by
  cases found : lookup field.key members with
  | none =>
    rw [branchFaults_of_none path found]
    simp [required_eq_error found]
  | some value =>
    rw [branchFaults_of_some path found, required_eq_ok found, ok_bind]
    exact entered value (Json.sizeOf_lookup found)

mutual

/-- An item reports its faults as one that stands in a slot. Its header comes first; then the kind
that its tag names decides which fields are read, and the table lists their rules in the same order.
-/
theorem item_reports (tag : String) (members : Members) (path : Path) :
    Reports (Load.item tag members path)
      (allFaults (headerRules ++ (Shape.of .slot tag).before) members path ++
        branchFaults (Shape.of .slot tag).branch members path ++
        allFaults (Shape.of .slot tag).behind members path) := by
  rw [Load.item, allFaults_append, List.append_assoc, List.append_assoc]
  refine header_reports.bind fun header _ => ?_
  cases known : Kind.ofTag? tag with
  | none => simp [Shape.of, known, branchFaults]
  | some kind =>
    obtain rfl := (Kind.ofTag?_eq_some_iff tag kind).mp known
    cases kind with
    | function =>
      have knownForm (tag : String) :
          Expectation.callForm.admits (.string tag) = (CallForm.ofTag? tag).isSome :=
        List.isSome_find?.symm
      simp only [Shape.of, known, allFaults_cons, allFaults_nil, List.append_nil]
      refine (optionalTag_reports knownForm).bind fun form _ => ?_
      refine requiredArray_reports fun elements smaller => ?_
      exact (slots_reports elements 0 (path.child .args)).total fun args => ⟨_, rfl⟩
    | option =>
      simp only [Shape.of, known, allFaults_nil, List.append_nil, List.nil_append]
      refine requiredArray_reports fun elements smaller => ?_
      exact (slots_reports elements 0 (path.child .args)).total fun args => ⟨_, rfl⟩
    | list =>
      simp only [Shape.of, known, allFaults_nil, List.append_nil, List.nil_append]
      refine requiredArray_reports fun elements smaller => ?_
      exact (slots_reports elements 0 (path.child .values)).total fun values => ⟨_, rfl⟩
    | inlineCast =>
      simp only [Shape.of, known, allFaults_cons, allFaults_nil, List.append_nil, List.nil_append]
      refine required_reports fun operand smaller => ?_
      refine (slot_reports operand (path.child .value)).bind fun value _ => ?_
      exact requiredString_reports.total fun castType => ⟨_, rfl⟩
    | source =>
      simp only [Shape.of, known, branchFaults, allFaults_nil, List.append_nil]
      exact source_reports.total fun node => ⟨_, rfl⟩
    | column =>
      simp only [Shape.of, known, branchFaults, allFaults_nil, List.append_nil]
      exact column_reports.total fun node => ⟨_, rfl⟩
    | literal =>
      simp only [Shape.of, known, branchFaults, allFaults_nil, List.append_nil]
      exact literal_reports.total fun node => ⟨_, rfl⟩
    | timeInterval =>
      simp only [Shape.of, known, branchFaults, allFaults_nil, List.append_nil]
      exact timeInterval_reports.total fun node => ⟨_, rfl⟩
    | command | mode | unknown => simp [Shape.of, known, branchFaults]
termination_by sizeOf members

/-- A slot reports its faults: those of its elements or of its item, that it has no tag, or that it
is no node at all. -/
theorem slot_reports (value : Value) (path : Path) :
    Reports (Load.slot value path) (faults .slot value path) := by
  cases value with
  | array elements =>
    rw [Load.slot, faults]
    exact (slots_reports elements 0 path).total fun slots => ⟨_, rfl⟩
  | object members =>
    rw [Load.slot]
    cases found : lookup "type" members with
    | none => simp [tagOf, faults, found]
    | some value =>
      cases value with
      | string tag =>
        rw [tagOf_eq_ok found, ok_bind, faults_of_tag path found]
        exact (item_reports tag members path).total fun item => ⟨_, rfl⟩
      | _ => simp [tagOf, faults, found]
  | _ => simp [Load.slot, faults]
termination_by sizeOf value

/-- Slots report the faults of each in turn. The positions move with them, as they are part of the
paths. -/
theorem slots_reports (elements : List Value) (position : Nat) (path : Path) :
    Reports (Load.slots elements position path) (faultsOfEach .slot elements position path) := by
  cases elements with
  | nil => simp [Load.slots, faultsOfEach]
  | cons element others =>
    rw [Load.slots, faultsOfEach]
    refine (slot_reports element (path.child (.index position))).bind fun first _ => ?_
    exact (slots_reports others (position + 1) path).total fun rest => ⟨_, rfl⟩
termination_by sizeOf elements

end

/-- Only of a command is something else asked in the place of a node than in a slot. -/
theorem shape_of_node {tag : String} (other : tag ≠ Kind.command.tag) :
    Shape.of .node tag = Shape.of .slot tag := by
  cases known : Kind.ofTag? tag with
  | none => simp [Shape.of, known]
  | some kind =>
    have spelled : kind.tag = tag := (Kind.ofTag?_eq_some_iff tag kind).mp known
    cases kind with
    | command => exact absurd spelled.symm other
    | _ => simp [Shape.of, known]

mutual

/-- A command reports its faults as one that stands in the place of a node. They are those of its
header and of its arguments, which are nodes again. -/
theorem command_reports (members : Members) (path : Path) :
    Reports (Load.command members path)
      (allFaults headerRules members path ++
        branchFaults (some ⟨.command, .args, [.array], .args, .node⟩) members path) := by
  rw [Load.command]
  refine header_reports.bind fun header _ => ?_
  refine requiredArray_reports fun elements smaller => ?_
  exact (nodes_reports elements 0 (path.child .args)).total fun args => ⟨_, rfl⟩
termination_by sizeOf members

/-- A node reports its faults. Where its tag is not that of commands, these are the faults of an
item in a slot. -/
theorem node_reports (value : Value) (path : Path) :
    Reports (Load.node value path) (faults .node value path) := by
  cases value with
  | array elements =>
    rw [Load.node, faults]
    exact (nodes_reports elements 0 path).total fun nodes => ⟨_, rfl⟩
  | object members =>
    rw [Load.node]
    cases found : lookup "type" members with
    | none => simp [tagOf, faults, found]
    | some value =>
      cases value with
      | string tag =>
        rw [tagOf_eq_ok found, ok_bind, faults_of_tag path found]
        by_cases command : tag = Kind.command.tag
        · subst command
          have shape : Shape.of .node Kind.command.tag =
              { branch := some ⟨.command, .args, [.array], .args, .node⟩ } := rfl
          rw [if_pos rfl]
          simpa [shape] using (command_reports members path).total fun node => ⟨_, rfl⟩
        · rw [if_neg command, shape_of_node command]
          exact (item_reports tag members path).total fun item => ⟨_, rfl⟩
      | _ => simp [tagOf, faults, found]
  | _ => simp [Load.node, faults]
termination_by sizeOf value

/-- Nodes report the faults of each in turn. The positions move with them, as they are part of the
paths. -/
theorem nodes_reports (elements : List Value) (position : Nat) (path : Path) :
    Reports (Load.nodes elements position path) (faultsOfEach .node elements position path) := by
  cases elements with
  | nil => simp [Load.nodes, faultsOfEach]
  | cons element others =>
    rw [Load.nodes, faultsOfEach]
    refine (node_reports element (path.child (.index position))).bind fun first _ => ?_
    exact (nodes_reports others (position + 1) path).total fun rest => ⟨_, rfl⟩
termination_by sizeOf elements

end

/-- A value that is there reports its faults in the place of a node, with a path that has no steps
yet. -/
theorem root_reports {value : Value} (present : value ≠ .null) :
    Reports (Load.root value) (faults .node value {}) := by
  have loaded : Load.root value = Load.node value {} >>= fun node => .ok (some node) := by
    cases value <;> first | exact absurd rfl present | rfl
  rw [loaded]
  exact (node_reports value {}).total fun node => ⟨_, rfl⟩

end EsqlTree.Load

namespace EsqlTree

open Json (Value)

/-- A value is loaded exactly if it is `null` or has no fault, and it is refused with a
fault exactly if that is the first of all that it has.

Proof: what loading gives and the list of faults follow the same fields in the same order. Field by
field, a fault is reported exactly if it heads the list, so loading ends at the first and never sees
the others. -/
theorem load_eq_firstFault (value : Value) :
    ((∃ root, Load.root value = .ok root) ↔ value = .null ∨ faults .node value {} = []) ∧
      ∀ fault, Load.root value = .error fault ↔
        value ≠ .null ∧ (faults .node value {}).head? = some fault := by
  by_cases absent : value = .null
  · subst absent
    simp [Load.root]
  have reported : Load.Reports (Load.root value) (faults .node value {}) :=
    Load.root_reports absent
  cases result : Load.root value with
  | ok root =>
    rw [result] at reported
    have none : faults .node value {} = [] := reported
    simp [none]
  | error fault =>
    rw [result] at reported
    have first : (faults .node value {}).head? = some fault := reported
    have some : faults .node value {} ≠ [] := by
      intro none
      simp [none] at first
    simp [absent, first, some]

end EsqlTree
