import EsqlTree.Proofs.Load.Fields
import EsqlTree.Proofs.Tree.Places
import EsqlTree.Tree.Encode

/-!
# Loading what was written

A tree is written without loss, but what is written need not load as the tree it
came from: a tag may be read as a kind, a number as another sort of number, and a
number that is none as `null`. Each loss is that of one atom, so a tree is loaded as
it was written exactly if each of its atoms lasts where it stands.
-/

namespace EsqlTree

open Json (Value Members lookup)

namespace Scalar

/-- What a value is read as once it was written. -/
def reread : Scalar → Scalar
  | .unsigned n =>
    if n.toNat ≤ 9223372036854775807 then .integer (Int64.ofInt n.toNat) else .unsigned n
  | .decimal x => if x.isFinite then .decimal x else .null
  | value => value

/-- A value lasts if it is neither a small unsigned integer nor an infinity or NaN. These are the
values whose JSON form is that of another value. -/
theorem reread_eq_self_iff (value : Scalar) :
    value.reread = value ↔ (∀ n, value = .unsigned n → 9223372036854775807 < n.toNat) ∧
      ∀ x, value = .decimal x → x.isFinite = true := by
  cases value with
  | unsigned n =>
    by_cases small : n.toNat ≤ 9223372036854775807
    · simp [reread, small]
    · simp [reread, small, Nat.lt_of_not_ge small]
  | decimal x => cases finite : x.isFinite <;> simp [reread, finite]
  | _ => simp [reread]

end Scalar

/-- What a literal is read as once it was written. -/
def Literal.reread (node : Literal) : Literal :=
  { node with
    value := node.value.reread
    paramKind := node.paramKind.or
      (if node.literalType = .param then some (.ofPlaceholder node.text) else none) }

/-- A literal lasts if its value does and it is no placeholder that does not say how it refers to
its value. Such a placeholder would be classified by its text. -/
theorem Literal.reread_eq_self_iff (node : Literal) :
    node.reread = node ↔
      node.value.reread = node.value ∧ (node.literalType = .param → node.paramKind ≠ none) := by
  obtain ⟨header, type, value, kind⟩ := node
  cases kind <;> simp [reread]

/-- True of an atom that is read as itself where it stands: a literal lasts by itself,
and an inert item if its tag is inert there. -/
def Atom.Lasts (place : Place) : Atom → Prop
  | .literal node => node.reread = node
  | .inert node => ∀ kind : Kind, kind.tag = node.tag → place = .slot ∧ kind = .command
  | _ => True

/-- True if all atoms last, each in its place. -/
def AllLast (atoms : List (Place × Atom)) : Prop := ∀ entry ∈ atoms, entry.2.Lasts entry.1

@[simp] theorem allLast_nil : AllLast [] := by simp [AllLast]

@[simp] theorem allLast_append (front back : List (Place × Atom)) :
    AllLast (front ++ back) ↔ AllLast front ∧ AllLast back := by
  simp only [AllLast, List.forall_mem_append]

@[simp] theorem allLast_singleton (place : Place) (node : Atom) :
    AllLast [(place, node)] ↔ node.Lasts place := by
  simp [AllLast]

namespace Load

variable {members : Members} {path : Path}

/-- The value of a literal is read back as what its JSON form stands for. An integer that is written
by its number is read by the bounds, and not by how it was stored. -/
theorem scalar_eq_ok {type : LiteralType} {text : String} {value : Scalar}
    (found : lookup Field.value.key members = some value.toJson) :
    scalar type text members path = .ok value.reread := by
  cases value with
  | integer n =>
    have bound : n.toInt ≤ 9223372036854775807 := Int.le_of_lt_add_one n.toInt_lt
    simp only [scalar, found, Scalar.toJson, Json.Number.ofInt64, Scalar.ofNumber, if_pos bound,
      Int64.ofInt_toInt, Scalar.reread]
  | unsigned n =>
    simp only [scalar, found, Scalar.toJson, Json.Number.ofUInt64, Scalar.ofNumber, Scalar.reread]
    by_cases small : n.toNat ≤ 9223372036854775807
    · have bound : (n.toNat : Int) ≤ 9223372036854775807 := by omega
      simp only [if_pos small, if_pos bound]
    · have bound : ¬ (n.toNat : Int) ≤ 9223372036854775807 := by omega
      simp only [if_neg small, if_neg bound, Int.toNat_natCast, UInt64.ofNat_toNat]
  | decimal x =>
    cases finite : x.isFinite <;>
      simp [scalar, found, Scalar.toJson, Json.Number.ofBinary64?, Scalar.ofNumber, Scalar.reread,
        finite]
  | _ => simp only [scalar, found, Scalar.toJson, Scalar.reread]

/-- A field that may be left out is found exactly if it was not, and under its own key alone. -/
@[simp] theorem lookup_optionalMember (key name : String) (value : Option String) :
    lookup key (optionalMember name value) = if name = key then value.map .string else none := by
  cases value <;> simp [optionalMember]

/-- The keys that every written node has. -/
def commonKeys : List String := ["type", "name", "text", "location", "incomplete"]

/-- True of the fields of a kind among which none is of every node. -/
def Apart (own : Members) : Prop := ∀ key ∈ commonKeys, lookup key own = none

/-- The members of a written node hold its tag, its header, and the fields of its kind
as they stand apart. -/
structure Written (tag : String) (header : Header) (own members : Members) : Prop where
  /-- The tag is read back. -/
  tagged : ∀ path, tagOf members path = .ok tag
  /-- The header is read back. -/
  headed : ∀ path, Load.header members path = .ok header
  /-- The other fields are those of the kind. -/
  fields : ∀ key ∉ commonKeys, lookup key members = lookup key own

/-- A node is written with its tag, its header and the fields of its kind, provided
that none of these fields hides one that every node has. -/
theorem written_of_nodeObject {tag : String} {header : Header} {own : Members}
    (apart : Apart own) (object : nodeObject tag header own = .object members) :
    Written tag header own members := by
  simp only [nodeObject, Value.object.injEq] at object
  subst object
  simp only [Apart, commonKeys, List.forall_mem_cons] at apart
  obtain ⟨type, name, text, location, incomplete, _⟩ := apart
  refine ⟨?_, ?_, ?_⟩
  · intro path
    exact tagOf_eq_ok (by simp [type, Header.members])
  · intro path
    exact header_eq_ok (by simp [Field.key, name, Header.members])
      (by simp [Field.key, text, Header.members]) (by simp [Field.key, location, Header.members])
      (by simp [Field.key, incomplete, Header.members])
  · intro key foreign
    simp only [commonKeys, List.mem_cons, not_or] at foreign
    simp [Header.members, Ne.symm foreign.1, Ne.symm foreign.2.1, Ne.symm foreign.2.2.1,
      Ne.symm foreign.2.2.2.1, Ne.symm foreign.2.2.2.2.1]

/-- A source is read back from its fields. Its type is always written, so the default is not needed.
-/
theorem source_eq_ok {node : Source}
    (type : lookup Field.sourceType.key members = some (.string node.sourceType.tag))
    (cluster : lookup Field.cluster.key members = node.cluster.map .string)
    (index : lookup Field.index.key members = node.index.map .string) :
    Load.source node.toHeader members path = .ok node := by
  have readType : optionalTag SourceType.ofTag? .sourceType members .sourceType path =
      .ok (some node.sourceType) :=
    optionalTag_eq_ok SourceType.ofTag?_tag type
  simp only [Load.source, readType, optionalString_eq_ok cluster, optionalString_eq_ok index,
    ok_bind, Option.getD_some]

/-- A column is read back from its fields, its segments one by one. -/
theorem column_eq_ok {node : Column}
    (parts : lookup Field.parts.key members = some (.array (node.parts.map .string)))
    (quoted : lookup Field.quoted.key members = some (.boolean node.quoted)) :
    Load.column node.toHeader members path = .ok node := by
  simp only [Load.column, Load.parts, parts, strings?_map, optionalBoolean_eq_ok quoted, ok_bind]

/-- A literal is read from its fields as `Literal.reread` says. Its value comes back as it lasts,
and its kind of placeholder as it was written or from its text. -/
theorem literal_eq_ok {node : Literal}
    (type : lookup Field.literalType.key members = some (.string node.literalType.tag))
    (value : lookup Field.value.key members = some node.value.toJson)
    (kind : lookup Field.paramType.key members =
      (node.paramKind.map ParamKind.tag).map .string) :
    Load.literal node.toHeader members path = .ok node.reread := by
  have readKind : optionalTag ParamKind.ofTag? .paramKind members .paramType path =
      .ok node.paramKind :=
    optionalTag_eq_ok ParamKind.ofTag?_tag (by rw [kind, Option.map_map]; rfl)
  simp only [Load.literal, Load.literalType, requiredString_eq_ok type, LiteralType.ofTag?_tag,
    scalar_eq_ok value, Load.paramKind, readKind, ok_bind]
  cases given : node.paramKind <;> simp [Literal.reread, given]

/-- A time span is read back from its fields, because its quantity is an integer of 64 bits. -/
theorem timeInterval_eq_ok {node : TimeInterval}
    (quantity : lookup Field.quantity.key members = some (.number (.ofInt64 node.quantity)))
    (unit : lookup Field.unit.key members = some (.string node.unit)) :
    Load.timeInterval node.toHeader members path = .ok node := by
  have bound : node.quantity.toInt < 9223372036854775808 := node.quantity.toInt_lt
  simp only [Load.timeInterval, Load.quantity, required_eq_ok quantity, Json.Number.ofInt64,
    Json.Integer.toInt64?, if_pos bound, Int64.ofInt_toInt, requiredString_eq_ok unit, ok_bind]

/-- An item that was loaded is of the kind of its tag; a command is of none. This goes through the
kinds once, so that it needs not be done again. -/
theorem kind?_of_item_eq_ok {tag : String} {item : Item}
    (loaded : Load.item tag members path = .ok item) :
    item.kind? = (Kind.ofTag? tag).filter (· ≠ .command) := by
  rw [Load.item] at loaded
  obtain ⟨header, _, loaded⟩ := bind_eq_ok_iff.mp loaded
  cases known : Kind.ofTag? tag with
  | none =>
    simp only [known, Except.ok.injEq] at loaded
    exact loaded ▸ rfl
  | some kind =>
    cases kind <;> simp only [known, bind_eq_ok_iff, Except.ok.injEq] at loaded <;>
      grind [Item.kind?, Atom.kind?]

/-- An inert item is read back from a slot exactly if no kind but that of commands has its tag. If
one had, the item would have been read as of that kind. -/
theorem inert_eq_ok_iff (node : Inert) (common : Load.header members path = .ok node.toHeader) :
    Load.item node.tag members path = .ok (.atom (.inert node)) ↔
      (Atom.inert node).Lasts .slot := by
  constructor
  · intro loaded kind same
    have known : Kind.ofTag? node.tag = some kind := (Kind.ofTag?_eq_some_iff _ _).mpr same
    have unkind := kind?_of_item_eq_ok loaded
    simpa [known, Item.kind?, Atom.kind?] using unkind.symm
  · intro lasts
    rw [Load.item, common, ok_bind]
    cases known : Kind.ofTag? node.tag with
    | none => rfl
    | some kind =>
      have same : kind.tag = node.tag := (Kind.ofTag?_eq_some_iff _ _).mp known
      obtain ⟨_, rfl⟩ := lasts kind same
      rfl

section

variable {header : Header} (common : Load.header members path = .ok header)
include common

/-- A literal is read from its fields alone, once its header is read, and holds no other nodes. -/
theorem item_literal_eq :
    Load.item Kind.literal.tag members path =
      (do .ok (.atom (.literal (← Load.literal header members path)))) := by
  rw [Load.item, common]
  simp only [ok_bind, Kind.ofTag?_tag]

/-- A function is read from its fields and its arguments, which are slots at the path of the
arguments. -/
theorem item_function_eq {form : Option CallForm} {elements : List Value}
    (subtype : lookup Field.subtype.key members = (form.map CallForm.tag).map .string)
    (args : lookup Field.args.key members = some (.array elements)) :
    Load.item Kind.function.tag members path =
      (do
        let args ← Load.slots elements 0 (path.child .args)
        .ok (.function { header with form, args })) := by
  have readForm : optionalTag CallForm.ofTag? .callForm members .subtype path = .ok form :=
    optionalTag_eq_ok CallForm.ofTag?_tag (by rw [subtype, Option.map_map]; rfl)
  obtain ⟨_, readArgs⟩ := requiredArray_eq_ok .function path args
  rw [Load.item, common]
  simp only [ok_bind, Kind.ofTag?_tag, readForm, readArgs]

/-- An option is read from its arguments, which are slots at the path of the arguments. -/
theorem item_option_eq {elements : List Value}
    (args : lookup Field.args.key members = some (.array elements)) :
    Load.item Kind.option.tag members path =
      (do
        let args ← Load.slots elements 0 (path.child .args)
        .ok (.option { header with args })) := by
  obtain ⟨_, readArgs⟩ := requiredArray_eq_ok .option path args
  rw [Load.item, common]
  simp only [ok_bind, Kind.ofTag?_tag, readArgs]

/-- A list is read from its values, which are slots at the path of the values. -/
theorem item_list_eq {elements : List Value}
    (values : lookup Field.values.key members = some (.array elements)) :
    Load.item Kind.list.tag members path =
      (do
        let values ← Load.slots elements 0 (path.child .values)
        .ok (.list { header with values })) := by
  obtain ⟨_, readValues⟩ := requiredArray_eq_ok .list path values
  rw [Load.item, common]
  simp only [ok_bind, Kind.ofTag?_tag, readValues]

/-- A cast is read from its operand and its type. The operand comes first, so its faults would be
reported before those of the type. -/
theorem item_inlineCast_eq {operand : Value} {castType : String}
    (value : lookup Field.value.key members = some operand)
    (type : lookup Field.castType.key members = some (.string castType)) :
    Load.item Kind.inlineCast.tag members path =
      (do
        let value ← Load.slot operand (path.child .value)
        .ok (.inlineCast { header with value, castType })) := by
  rw [Load.item, common]
  simp only [ok_bind, Kind.ofTag?_tag, required_eq_ok value, requiredString_eq_ok type]

/-- A command is read from its arguments, which are nodes and not slots. -/
theorem command_eq {elements : List Value}
    (args : lookup Field.args.key members = some (.array elements)) :
    Load.command members path =
      (do
        let args ← Load.nodes elements 0 (path.child .args)
        .ok { header with args }) := by
  obtain ⟨_, readArgs⟩ := requiredArray_eq_ok .command path args
  rw [Load.command, common]
  simp only [ok_bind, readArgs]

end

/-- A written atom is read back from a slot exactly if it lasts there. Only literals and inert items
may fail to, all other kinds have fields that are read as they were written. -/
theorem atom_eq_ok_iff (node : Atom) (object : node.toJson = .object members) :
    Load.item node.tag members path = .ok (.atom node) ↔ node.Lasts .slot := by
  cases node with
  | mode node =>
    have written : Written Kind.mode.tag node.toHeader [] members :=
      written_of_nodeObject (by simp [Apart]) object
    rw [Atom.tag, Load.item, written.headed]
    simp [Kind.ofTag?_tag, Atom.Lasts]
  | source node =>
    have written := written_of_nodeObject (by simp [Apart, commonKeys]) object
    have read : Load.source node.toHeader members path = .ok node := by
      apply source_eq_ok <;> simp [written.fields, commonKeys, Field.key]
    rw [Atom.tag, Load.item, written.headed]
    simp [Kind.ofTag?_tag, Atom.Lasts, read]
  | column node =>
    have written := written_of_nodeObject (by simp [Apart, commonKeys]) object
    have read : Load.column node.toHeader members path = .ok node := by
      apply column_eq_ok <;> simp [written.fields, commonKeys, Field.key]
    rw [Atom.tag, Load.item, written.headed]
    simp [Kind.ofTag?_tag, Atom.Lasts, read]
  | literal node =>
    have written := written_of_nodeObject (by simp [Apart, commonKeys]) object
    have read : Load.literal node.toHeader members path = .ok node.reread := by
      apply literal_eq_ok <;> simp [written.fields, commonKeys, Field.key]
    rw [Atom.tag, Load.item, written.headed]
    simp [Kind.ofTag?_tag, Atom.Lasts, read]
  | timeInterval node =>
    have written := written_of_nodeObject (by simp [Apart, commonKeys]) object
    have read : Load.timeInterval node.toHeader members path = .ok node := by
      apply timeInterval_eq_ok <;> simp [written.fields, commonKeys, Field.key]
    rw [Atom.tag, Load.item, written.headed]
    simp [Kind.ofTag?_tag, Atom.Lasts, read]
  | unclassified node =>
    have written : Written Kind.unknown.tag node.toHeader [] members :=
      written_of_nodeObject (by simp [Apart]) object
    rw [Atom.tag, Load.item, written.headed]
    simp [Kind.ofTag?_tag, Atom.Lasts]
  | inert node =>
    have written : Written node.tag node.toHeader [] members :=
      written_of_nodeObject (by simp [Apart]) object
    exact inert_eq_ok_iff node (written.headed path)

/-- An item is written as an object with its tag, whatever its kind is. -/
theorem item_toJson_eq_object (item : Item) :
    ∃ members, item.toJson = .object members ∧ ∀ path, tagOf members path = .ok item.tag := by
  rcases item with (_ | _ | _ | _ | _ | _ | _) | ⟨_, _, _⟩ | ⟨_, _⟩ | ⟨_, _⟩ | ⟨_, _, _⟩
  all_goals
    refine ⟨_, rfl, ?_⟩
    apply Written.tagged
    exact written_of_nodeObject (by simp [Apart, commonKeys]) rfl

mutual

/-- A written item is read back from a slot exactly if its atoms last. The recursion is on the item,
with the path held general, as it grows on the way down. -/
theorem item_eq_ok_iff (path : Path) :
    (item : Item) → (members : Members) → item.toJson = .object members →
      (Load.item item.tag members path = .ok item ↔ AllLast (item.atoms .slot))
  | .atom node, members, object => by
    rw [Item.tag, atom_eq_ok_iff node object]
    simp [Item.atoms]
  | .function ⟨header, form, args⟩, members, object => by
    have written := written_of_nodeObject (by simp [Apart, commonKeys]) object
    have subtype : lookup Field.subtype.key members = (form.map CallForm.tag).map .string := by
      simp [written.fields, commonKeys, Field.key]
    have arguments : lookup Field.args.key members = some (.array (Slot.toJsons args)) := by
      simp [written.fields, commonKeys, Field.key]
    rw [Item.tag, item_function_eq (written.headed path) subtype arguments]
    simp [bind_eq_ok_iff, Item.atoms, FunctionCall.atoms, slots_eq_ok_iff (path.child .args) args]
  | .option ⟨header, args⟩, members, object => by
    have written := written_of_nodeObject (by simp [Apart, commonKeys]) object
    have arguments : lookup Field.args.key members = some (.array (Slot.toJsons args)) := by
      simp [written.fields, commonKeys, Field.key]
    rw [Item.tag, item_option_eq (written.headed path) arguments]
    simp [bind_eq_ok_iff, Item.atoms, CommandOption.atoms, slots_eq_ok_iff (path.child .args) args]
  | .list ⟨header, values⟩, members, object => by
    have written := written_of_nodeObject (by simp [Apart, commonKeys]) object
    have elements : lookup Field.values.key members = some (.array (Slot.toJsons values)) := by
      simp [written.fields, commonKeys, Field.key]
    rw [Item.tag, item_list_eq (written.headed path) elements]
    simp [bind_eq_ok_iff, Item.atoms, ListLiteral.atoms,
      slots_eq_ok_iff (path.child .values) values]
  | .inlineCast ⟨header, value, castType⟩, members, object => by
    have written := written_of_nodeObject (by simp [Apart, commonKeys]) object
    have operand : lookup Field.value.key members = some value.toJson := by
      simp [written.fields, commonKeys, Field.key]
    have type : lookup Field.castType.key members = some (.string castType) := by
      simp [written.fields, commonKeys, Field.key]
    rw [Item.tag, item_inlineCast_eq (written.headed path) operand type]
    simp [bind_eq_ok_iff, Item.atoms, InlineCast.atoms, slot_eq_ok_iff (path.child .value) value]

/-- A written slot is read back exactly if its atoms last, be it a single item or a sequence. -/
theorem slot_eq_ok_iff (path : Path) :
    (slot : Slot) → (Load.slot slot.toJson path = .ok slot ↔ AllLast slot.atoms)
  | .single item => by
    obtain ⟨members, object, tagged⟩ := item_toJson_eq_object item
    rw [Slot.toJson, object, Load.slot, tagged, ok_bind]
    simp [bind_eq_ok_iff, Slot.atoms, item_eq_ok_iff path item members object]
  | .seq slots => by
    rw [Slot.toJson, Load.slot]
    simp [bind_eq_ok_iff, Slot.atoms, slots_eq_ok_iff path slots]

/-- Written slots are read back exactly if the atoms of each last, at whatever position they begin.
-/
theorem slots_eq_ok_iff (path : Path) :
    (slots : List Slot) → (position : Nat) →
      (Load.slots (Slot.toJsons slots) position path = .ok slots ↔ AllLast (Slot.allAtoms slots))
  | [], position => by simp [Slot.toJsons, Load.slots, Slot.allAtoms]
  | slot :: others, position => by
    rw [Slot.toJsons, Load.slots]
    simp [bind_eq_ok_iff, Slot.allAtoms, slot_eq_ok_iff (path.child (.index position)) slot,
      slots_eq_ok_iff path others]

end

/-- The atoms of an item last where a node may stand exactly if they do in a slot and
the item is not taken for a command. -/
theorem allLast_node_iff (item : Item) :
    AllLast (item.atoms .node) ↔ item.tag ≠ Kind.command.tag ∧ AllLast (item.atoms .slot) := by
  rcases item with (_ | _ | _ | _ | _ | _ | node) | _ | _ | _ | _
  all_goals try simp [Item.atoms, Item.tag, Atom.tag, Kind.tag, Atom.Lasts]
  constructor
  · intro lasts
    refine ⟨?_, fun kind same => absurd same (lasts kind)⟩
    intro command
    exact lasts .command command.symm
  · rintro ⟨other, lasts⟩ kind same
    exact other (by rw [← same, lasts kind same])

mutual

/-- A written command is read back exactly if its atoms last, which are those of its arguments. -/
theorem command_eq_ok_iff (path : Path) :
    (node : Command) → (members : Members) → node.toJson = .object members →
      (Load.command members path = .ok node ↔ AllLast node.atoms)
  | ⟨header, args⟩, members, object => by
    have written := written_of_nodeObject (by simp [Apart, commonKeys]) object
    have arguments : lookup Field.args.key members = some (.array (Node.toJsons args)) := by
      simp [written.fields, commonKeys, Field.key]
    rw [command_eq (written.headed path) arguments]
    simp [bind_eq_ok_iff, Command.atoms, nodes_eq_ok_iff (path.child .args) args]

/-- A written node is read back exactly if its atoms last. An item that has the tag of commands
would be read as a command, and so it must not have it. -/
theorem node_eq_ok_iff (path : Path) :
    (node : Node) → (Load.node node.toJson path = .ok node ↔ AllLast node.atoms)
  | .command ⟨header, args⟩ => by
    have ⟨members, object⟩ : ∃ members, (Command.mk header args).toJson = .object members :=
      ⟨_, rfl⟩
    have written := written_of_nodeObject (by simp [Apart, commonKeys]) object
    rw [Node.toJson, object, Load.node, written.tagged, ok_bind, if_pos rfl]
    simp [bind_eq_ok_iff, Node.atoms, command_eq_ok_iff path ⟨header, args⟩ members object]
  | .single item => by
    obtain ⟨members, object, tagged⟩ := item_toJson_eq_object item
    rw [Node.toJson, object, Load.node, tagged, ok_bind, Node.atoms, allLast_node_iff]
    by_cases command : item.tag = Kind.command.tag
    · simp [command, bind_eq_ok_iff]
    · simp [command, bind_eq_ok_iff, item_eq_ok_iff path item members object]
  | .seq nodes => by
    rw [Node.toJson, Load.node]
    simp [bind_eq_ok_iff, Node.atoms, nodes_eq_ok_iff path nodes]

/-- Written nodes are read back exactly if the atoms of each last, at whatever position they begin.
-/
theorem nodes_eq_ok_iff (path : Path) :
    (nodes : List Node) → (position : Nat) →
      (Load.nodes (Node.toJsons nodes) position path = .ok nodes ↔ AllLast (Node.allAtoms nodes))
  | [], position => by simp [Node.toJsons, Load.nodes, Node.allAtoms]
  | node :: others, position => by
    rw [Node.toJsons, Load.nodes]
    simp [bind_eq_ok_iff, Node.allAtoms, node_eq_ok_iff (path.child (.index position)) node,
      nodes_eq_ok_iff path others]

end

end Load

/-- A node that is loaded is the whole tree. It cannot have been loaded from `null`, which is no
node. -/
theorem Load.root_of_node {value : Value} {node : Node} (read : Load.node value {} = .ok node) :
    Load.root value = .ok (some node) := by
  cases value with
  | null => simp [Load.node] at read
  | _ => simp only [Load.root, read, Load.ok_bind]

/-- No node is written as `null`, which stands for the absent tree. -/
theorem Node.toJson_ne_null (node : Node) : node.toJson ≠ .null := by
  rcases node with ⟨_, _⟩ | item | _
  · simp [Node.toJson, Command.toJson, nodeObject]
  · obtain ⟨members, object, _⟩ := Load.item_toJson_eq_object item
    simp [Node.toJson, object]
  · simp [Node.toJson]

/-- What has to hold everywhere in a tree, the operands of casts included, for it to be
loaded as it was written. -/
structure Root.Reloadable (root : Root) : Prop where
  /-- Where a node may stand, no inert item has the tag of a kind. -/
  inert_of_node : ∀ node, (.node, .inert node) ∈ root.atoms → ∀ kind : Kind, node.tag ≠ kind.tag
  /-- In a slot, no inert item has the tag of a kind other than that of commands. -/
  inert_of_slot : ∀ node, (.slot, .inert node) ∈ root.atoms →
    ∀ kind : Kind, kind ≠ .command → node.tag ≠ kind.tag
  /-- Every placeholder says how it refers to its value. -/
  paramKind : ∀ place node, (place, .literal node) ∈ root.atoms → node.literalType = .param →
    node.paramKind ≠ none
  /-- No decimal is infinite or NaN. -/
  decimal : ∀ place node, (place, .literal node) ∈ root.atoms → ∀ x, node.value = .decimal x →
    x.isFinite = true
  /-- Every unsigned integer exceeds the signed ones. -/
  unsigned : ∀ place node, (place, .literal node) ∈ root.atoms → ∀ n, node.value = .unsigned n →
    9223372036854775807 < n.toNat

/-- The atoms of a tree last exactly if the tree can be reloaded. What lasting means for each sort
of atom is spelled out by the conditions of the tree. -/
theorem Root.allLast_iff (root : Root) : AllLast root.atoms ↔ root.Reloadable := by
  constructor
  · intro lasts
    refine ⟨?_, ?_, ?_, ?_, ?_⟩
    · intro node member kind same
      have inert := lasts _ member kind same.symm
      simp at inert
    · intro node member kind other same
      exact other (lasts _ member kind same.symm).2
    · intro place node member
      exact (node.reread_eq_self_iff.mp (lasts _ member)).2
    · intro place node member
      exact (node.value.reread_eq_self_iff.mp (node.reread_eq_self_iff.mp (lasts _ member)).1).2
    · intro place node member
      exact (node.value.reread_eq_self_iff.mp (node.reread_eq_self_iff.mp (lasts _ member)).1).1
  · rintro ⟨inertOfNode, inertOfSlot, paramKind, decimal, unsigned⟩ ⟨place, atom⟩ member
    cases atom with
    | literal node =>
      exact node.reread_eq_self_iff.mpr ⟨node.value.reread_eq_self_iff.mpr
        ⟨unsigned place node member, decimal place node member⟩, paramKind place node member⟩
    | inert node =>
      intro kind same
      cases place with
      | node => exact absurd same.symm (inertOfNode node member kind)
      | slot =>
        by_cases command : kind = .command
        · exact ⟨rfl, command⟩
        · exact absurd same.symm (inertOfSlot node member kind command)
    | _ => trivial

/-- A tree is loaded as it was written exactly if it can be reloaded. So the conditions are both
enough and all needed.

Proof: a tree is reloaded exactly if each of its leaves is, at the place where it stands. The
containers around the leaves write all that they hold, and so add no condition. -/
theorem load_toJson_eq_ok_iff (root : Root) :
    Load.root root.toJson = .ok root ↔ root.Reloadable := by
  rw [← Root.allLast_iff]
  cases root with
  | none => simp [Root.toJson, Load.root, Root.atoms]
  | some node =>
    have loaded : Load.root node.toJson = (do .ok (some (← Load.node node.toJson {}))) := by
      unfold Load.root
      split
      · rename_i absent
        exact absurd absent node.toJson_ne_null
      · rfl
    rw [Root.toJson, loaded]
    simp [Load.bind_eq_ok_iff, Root.atoms, Load.node_eq_ok_iff {} node]

end EsqlTree
