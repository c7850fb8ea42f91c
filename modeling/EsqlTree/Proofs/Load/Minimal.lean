import EsqlTree.Proofs.Tree.Reload

/-!
# Nodes made by hand and nodes of few fields

A node that is made by hand is given its name and what its kind cannot do without, and has defaults
for all else. An object may be as terse: it needs its tag, its name and the same fields. The two
lead to one tree, of every kind and at every depth, so the defaults of making and of loading
coincide, and so does what either derives from the text of a literal.
-/

namespace EsqlTree

open Json (Value Members lookup)

/-- True of the atoms that are made by hand. -/
inductive Atom.Made : Atom → Prop
  | mode (name : String) : Made (.mode (CommandMode.named name))
  | index (name : String) : Made (.source (Source.named name))
  | policy (name : String) : Made (.source (Source.policy name))
  | column (name : String) : Made (.column (Column.named name))
  | literal {type : LiteralType} (text : String) (noParam : type ≠ .param) :
      Made (.literal (Literal.ofText type text))
  | param (placeholder : String) : Made (.literal (Literal.param placeholder))
  | timeInterval (name : String) (quantity : Int64) (unit : String) :
      Made (.timeInterval (TimeInterval.named name quantity unit))
  | unclassified (name : String) : Made (.unclassified (Unclassified.named name))
  | inert {tag : String} (name : String) (unknown : Kind.ofTag? tag = none) :
      Made (.inert (Inert.named tag name))

mutual

/-- True of the items that are made by hand of such. -/
inductive Item.Made : Item → Prop
  | atom {node : Atom} (made : node.Made) : Item.Made (.atom node)
  | function {args : List Slot} (name : String) (made : Slot.AllMade args) :
      Item.Made (.function (FunctionCall.named name args))
  | option {args : List Slot} (name : String) (made : Slot.AllMade args) :
      Item.Made (.option (CommandOption.named name args))
  | list {values : List Slot} (name : String) (made : Slot.AllMade values) :
      Item.Made (.list (ListLiteral.named name values))
  | inlineCast {value : Slot} (name castType : String) (made : Slot.Made value) :
      Item.Made (.inlineCast (InlineCast.named name value castType))

/-- True of the slots that hold only items made by hand. -/
inductive Slot.Made : Slot → Prop
  | single {item : Item} (made : Item.Made item) : Slot.Made (.single item)
  | seq {slots : List Slot} (made : Slot.AllMade slots) : Slot.Made (.seq slots)

/-- True of slots each of which holds only items made by hand. -/
inductive Slot.AllMade : List Slot → Prop
  | nil : Slot.AllMade []
  | cons {slot : Slot} {others : List Slot} (first : Slot.Made slot)
      (rest : Slot.AllMade others) : Slot.AllMade (slot :: others)

end

mutual

/-- True of the nodes that are made by hand of such. -/
inductive Node.Made : Node → Prop
  | command {args : List Node} (name : String) (made : Node.AllMade args) :
      Node.Made (.command (Command.named name args))
  | single {item : Item} (made : item.Made) : Node.Made (.single item)
  | seq {nodes : List Node} (made : Node.AllMade nodes) : Node.Made (.seq nodes)

/-- True of nodes each of which is made by hand. -/
inductive Node.AllMade : List Node → Prop
  | nil : Node.AllMade []
  | cons {node : Node} {others : List Node} (first : Node.Made node)
      (rest : Node.AllMade others) : Node.AllMade (node :: others)

end

/-- True of the absent tree and of the trees that are made by hand. -/
def Root.Made (root : Root) : Prop := ∀ node, root = some node → node.Made

/-- The fields that an atom cannot do without beside its tag and its name. -/
def Atom.needed : Atom → Members
  | .source node =>
    match node.sourceType with
    | .index => []
    | .policy => [("sourceType", .string SourceType.policy.tag)]
  | .literal node => [("literalType", .string node.literalType.tag)]
  | .timeInterval node =>
    [("quantity", .number (.ofInt64 node.quantity)), ("unit", .string node.unit)]
  | .mode _ | .column _ | .unclassified _ | .inert _ => []

/-- An object of a tag, a name and further fields. -/
def minimalMembers (tag name : String) (needed : Members) : Members :=
  ("type", .string tag) :: ("name", .string name) :: needed

mutual

/-- The fields that an item cannot do without beside its tag and its name. -/
def Item.needed : Item → Members
  | .atom node => node.needed
  | .function ⟨_, _, args⟩ => [("args", .array (Slot.minimals args))]
  | .option ⟨_, args⟩ => [("args", .array (Slot.minimals args))]
  | .list ⟨_, values⟩ => [("values", .array (Slot.minimals values))]
  | .inlineCast ⟨_, value, castType⟩ =>
    [("value", value.minimal), ("castType", .string castType)]

/-- The minimal form of a slot. -/
def Slot.minimal : Slot → Value
  | .single item => .object (minimalMembers item.tag item.header.name item.needed)
  | .seq slots => .array (Slot.minimals slots)

/-- The minimal forms of slots, one by one. -/
def Slot.minimals : List Slot → List Value
  | [] => []
  | slot :: others => slot.minimal :: Slot.minimals others

end

mutual

/-- The minimal form of a node. -/
def Node.minimal : Node → Value
  | .command ⟨header, args⟩ =>
    .object (minimalMembers Kind.command.tag header.name [("args", .array (Node.minimals args))])
  | .single item => .object (minimalMembers item.tag item.header.name item.needed)
  | .seq nodes => .array (Node.minimals nodes)

/-- The minimal forms of nodes, one by one. -/
def Node.minimals : List Node → List Value
  | [] => []
  | node :: others => node.minimal :: Node.minimals others

end

/-- The minimal form of a tree. -/
def Root.minimal : Root → Value
  | none => .null
  | some node => node.minimal

namespace Load

variable {members : Members} {path : Path}

/-- A minimal object has the header of its name, and the fields that it is given. As none of these
is a field of the header, the text is the name and the other two have their defaults. -/
theorem written_minimalMembers {tag name : String} {needed : Members} (apart : Apart needed) :
    Written tag (Header.named name) needed (minimalMembers tag name needed) := by
  simp only [Apart, commonKeys, List.forall_mem_cons] at apart
  obtain ⟨noType, noName, noText, noLocation, noIncomplete, _⟩ := apart
  refine ⟨?_, ?_, ?_⟩
  · intro path
    exact tagOf_eq_ok (by simp [minimalMembers, noType])
  · intro path
    have readName : optionalString (minimalMembers tag name needed) .name path = .ok (some name) :=
      optionalString_eq_ok (by simp [minimalMembers, Field.key, noName])
    have readText : optionalString (minimalMembers tag name needed) .text path = .ok none :=
      optionalString_eq_ok (by simp [minimalMembers, Field.key, noText])
    have readLocation : Load.location (minimalMembers tag name needed) path = .ok {} := by
      simp [Load.location, minimalMembers, Field.key, noLocation]
    have readIncomplete :
        optionalBoolean (minimalMembers tag name needed) .incomplete path = .ok false := by
      simp [optionalBoolean, minimalMembers, Field.key, noIncomplete]
    simp only [Load.header, readName, readText, readLocation, readIncomplete, ok_bind,
      Option.getD_some, Option.getD_none, Header.named]
  · intro key foreign
    simp only [commonKeys, List.mem_cons, not_or] at foreign
    simp [minimalMembers, Ne.symm foreign.1, Ne.symm foreign.2.1]

/-- A source without cluster and index is an index, unless it is said what it is. So a policy needs
its type and an index does not. -/
theorem source_eq_ok_of_absent {header : Header} (type : Option SourceType)
    (found : lookup Field.sourceType.key members = type.map fun type => .string type.tag)
    (cluster : lookup Field.cluster.key members = none)
    (index : lookup Field.index.key members = none) :
    Load.source header members path = .ok { header with sourceType := type.getD .index } := by
  have readType : optionalTag SourceType.ofTag? .sourceType members .sourceType path = .ok type :=
    optionalTag_eq_ok SourceType.ofTag?_tag found
  have readCluster : optionalString members .cluster path = .ok none := optionalString_eq_ok cluster
  have readIndex : optionalString members .index path = .ok none := optionalString_eq_ok index
  simp only [Load.source, readType, readCluster, readIndex, ok_bind]

/-- A column of which nothing is said has no segments and no quotes, as one that is made by hand. -/
theorem column_eq_ok_of_absent {header : Header}
    (parts : lookup Field.parts.key members = none)
    (quoted : lookup Field.quoted.key members = none) :
    Load.column header members path = .ok { header with } := by
  simp only [Load.column, Load.parts, parts, optionalBoolean, quoted, ok_bind]

/-- A literal without value has that which its type makes of its text, and a placeholder is
classified by its text. -/
theorem literal_eq_ok_of_absent {header : Header} {type : LiteralType}
    (found : lookup Field.literalType.key members = some (.string type.tag))
    (value : lookup Field.value.key members = none)
    (kind : lookup Field.paramType.key members = none) :
    Load.literal header members path = .ok { header with
      literalType := type
      value := .ofText type header.text
      paramKind := if type = .param then some (.ofPlaceholder header.text) else none } := by
  have readKind : optionalTag ParamKind.ofTag? .paramKind members .paramType path = .ok none :=
    optionalTag_eq_ok ParamKind.ofTag?_tag kind
  simp only [Load.literal, Load.literalType, requiredString_eq_ok found, LiteralType.ofTag?_tag,
    Load.scalar, value, Load.paramKind, readKind, ok_bind]

/-- No field that an item cannot do without is one that every node has. This can be read off the
fields of each kind. -/
theorem apart_needed (item : Item) : Apart item.needed := by
  rcases item with node | ⟨_, _, _⟩ | ⟨_, _⟩ | ⟨_, _⟩ | ⟨_, _, _⟩
  · cases node with
    | source node =>
      cases type : node.sourceType <;> simp [Item.needed, Atom.needed, type, Apart, commonKeys]
    | _ => simp [Item.needed, Atom.needed, Apart, commonKeys]
  all_goals simp [Item.needed, Apart, commonKeys]

/-- The minimal form of an item has its tag, the header of its name, and the fields that it cannot
do without. -/
theorem written_minimal (item : Item) :
    Written item.tag (Header.named item.header.name) item.needed
      (minimalMembers item.tag item.header.name item.needed) :=
  written_minimalMembers (apart_needed item)

/-- An atom that is made by hand is loaded from its minimal form. The members are generalised first,
so that each reader is met by its law and not by looking the keys up again. -/
theorem item_minimal_of_made {node : Atom} (made : node.Made) :
    Load.item node.tag (minimalMembers node.tag node.header.name node.needed) path =
      .ok (.atom node) := by
  have written : Written node.tag (Header.named node.header.name) node.needed
      (minimalMembers node.tag node.header.name node.needed) := written_minimal (.atom node)
  generalize minimalMembers node.tag node.header.name node.needed = members at written ⊢
  have fields := written.fields
  rw [Load.item, written.headed]
  cases made with
  | mode name | unclassified name =>
    simp only [Atom.tag, Kind.ofTag?_tag, ok_bind]
    rfl
  | index name =>
    have read : Load.source (Header.named name) members path = .ok (Source.named name) := by
      refine source_eq_ok_of_absent none ?_ ?_ ?_
      all_goals simp [fields, commonKeys, Field.key, Atom.needed, Source.named]
    simp only [Atom.tag, Kind.ofTag?_tag, ok_bind]
    exact bind_eq_ok_iff.mpr ⟨_, read, rfl⟩
  | policy name =>
    have read : Load.source (Header.named name) members path = .ok (Source.policy name) := by
      refine source_eq_ok_of_absent (some .policy) ?_ ?_ ?_
      all_goals simp [fields, commonKeys, Field.key, Atom.needed, Source.policy]
    simp only [Atom.tag, Kind.ofTag?_tag, ok_bind]
    exact bind_eq_ok_iff.mpr ⟨_, read, rfl⟩
  | column name =>
    have read : Load.column (Header.named name) members path = .ok (Column.named name) := by
      apply column_eq_ok_of_absent
      all_goals simp [fields, commonKeys, Field.key, Atom.needed]
    simp only [Atom.tag, Kind.ofTag?_tag, ok_bind]
    exact bind_eq_ok_iff.mpr ⟨_, read, rfl⟩
  | @literal type text noParam =>
    have read : Load.literal (Header.named text) members path = .ok (Literal.ofText type text) := by
      rw [literal_eq_ok_of_absent, if_neg noParam]
      · rfl
      all_goals simp [fields, commonKeys, Field.key, Atom.needed, Literal.ofText]
    simp only [Atom.tag, Kind.ofTag?_tag, ok_bind]
    exact bind_eq_ok_iff.mpr ⟨_, read, rfl⟩
  | param placeholder =>
    have read : Load.literal (Header.named placeholder) members path =
        .ok (Literal.param placeholder) := by
      rw [literal_eq_ok_of_absent, if_pos rfl]
      · rfl
      all_goals simp [fields, commonKeys, Field.key, Atom.needed, Literal.param, Literal.ofText]
    simp only [Atom.tag, Kind.ofTag?_tag, ok_bind]
    exact bind_eq_ok_iff.mpr ⟨_, read, rfl⟩
  | timeInterval name quantity unit =>
    have read : Load.timeInterval (TimeInterval.named name quantity unit).toHeader members path =
        .ok (TimeInterval.named name quantity unit) := by
      apply timeInterval_eq_ok
      all_goals simp [fields, commonKeys, Field.key, Atom.needed, TimeInterval.named]
    simp only [Atom.tag, Kind.ofTag?_tag, ok_bind]
    exact bind_eq_ok_iff.mpr ⟨_, read, rfl⟩
  | @inert tag name unknown =>
    have noKind : Kind.ofTag? (Atom.inert (Inert.named tag name)).tag = none := unknown
    simp only [noKind, ok_bind]
    rfl

end Load

section

open Load (commonKeys ok_bind)

-- The induction is on how a tree was made. The members are generalized in each case, so that the
-- laws of loading see a written object and not how it is spelled.
mutual

/-- An item that is made by hand is loaded from its minimal form. What it holds is made by hand too,
and is loaded with the path that leads to it. -/
theorem Item.Made.load_minimal {item : Item} (made : item.Made) (path : Path) :
    Load.item item.tag (minimalMembers item.tag item.header.name item.needed) path = .ok item := by
  have written := Load.written_minimal item
  cases made with
  | atom made => exact Load.item_minimal_of_made made
  | @function args name made =>
    have below := made.load_minimal 0 (path.child .args)
    generalize minimalMembers _ _ _ = members at written ⊢
    have subtype : lookup Field.subtype.key members =
        ((none : Option CallForm).map CallForm.tag).map .string := by
      simp [written.fields, commonKeys, Field.key, Item.needed, FunctionCall.named]
    have found : lookup Field.args.key members = some (.array (Slot.minimals args)) := by
      simp [written.fields, commonKeys, Field.key, Item.needed, FunctionCall.named]
    rw [Item.tag, Load.item_function_eq (written.headed path) subtype found, below]
    rfl
  | @option args name made =>
    have below := made.load_minimal 0 (path.child .args)
    generalize minimalMembers _ _ _ = members at written ⊢
    have found : lookup Field.args.key members = some (.array (Slot.minimals args)) := by
      simp [written.fields, commonKeys, Field.key, Item.needed, CommandOption.named]
    rw [Item.tag, Load.item_option_eq (written.headed path) found, below]
    rfl
  | @list values name made =>
    have below := made.load_minimal 0 (path.child .values)
    generalize minimalMembers _ _ _ = members at written ⊢
    have found : lookup Field.values.key members = some (.array (Slot.minimals values)) := by
      simp [written.fields, commonKeys, Field.key, Item.needed, ListLiteral.named]
    rw [Item.tag, Load.item_list_eq (written.headed path) found, below]
    rfl
  | @inlineCast value name castType made =>
    have below := made.load_minimal (path.child .value)
    generalize minimalMembers _ _ _ = members at written ⊢
    have found : lookup Field.value.key members = some value.minimal := by
      simp [written.fields, commonKeys, Field.key, Item.needed, InlineCast.named]
    have type : lookup Field.castType.key members = some (.string castType) := by
      simp [written.fields, commonKeys, Field.key, Item.needed, InlineCast.named]
    rw [Item.tag, Load.item_inlineCast_eq (written.headed path) found type, below]
    rfl

/-- A slot that is made by hand is loaded from its minimal form, which has the tag of its item or is
an array. -/
theorem Slot.Made.load_minimal {slot : Slot} (made : slot.Made) (path : Path) :
    Load.slot slot.minimal path = .ok slot := by
  cases made with
  | @single item made =>
    have tagged := (Load.written_minimal item).tagged path
    rw [Slot.minimal, Load.slot, tagged, ok_bind, made.load_minimal path, ok_bind]
  | seq made => rw [Slot.minimal, Load.slot, made.load_minimal 0 path, ok_bind]

/-- Slots that are made by hand are loaded from their minimal forms, each with its position in the
path. -/
theorem Slot.AllMade.load_minimal {slots : List Slot} (made : Slot.AllMade slots) (position : Nat)
    (path : Path) : Load.slots (Slot.minimals slots) position path = .ok slots := by
  cases made with
  | nil => simp only [Slot.minimals, Load.slots]
  | cons first rest =>
    rw [Slot.minimals, Load.slots, first.load_minimal, ok_bind, rest.load_minimal, ok_bind]

end

/-- No item that is made by hand has the tag of commands. For inert nodes this is because their tag
names no kind at all. -/
theorem Item.Made.tag_ne {item : Item} (made : item.Made) : item.tag ≠ Kind.command.tag := by
  cases made with
  | atom made =>
    cases made with
    | @inert tag name unknown =>
      intro same
      have command : tag = Kind.command.tag := same
      rw [command, Kind.ofTag?_tag] at unknown
      contradiction
    | _ => simp [Item.tag, Atom.tag, Kind.tag]
  | _ => simp [Item.tag, Kind.tag]

mutual

/-- A node that is made by hand is loaded from its minimal form. An item is not taken for a command,
since it does not have the tag of one. -/
theorem Node.Made.load_minimal {node : Node} (made : node.Made) (path : Path) :
    Load.node node.minimal path = .ok node := by
  cases made with
  | @command args name made =>
    have below := made.load_minimal 0 (path.child .args)
    have apart : Load.Apart [("args", .array (Node.minimals args))] := by
      simp [Load.Apart, commonKeys]
    have written : Load.Written Kind.command.tag (Header.named name) _ _ :=
      Load.written_minimalMembers apart
    have object : (Node.command (Command.named name args)).minimal = .object
        (minimalMembers Kind.command.tag name [("args", .array (Node.minimals args))]) := rfl
    rw [object]
    generalize minimalMembers _ _ _ = members at written ⊢
    have found : lookup Field.args.key members = some (.array (Node.minimals args)) := by
      simp [written.fields, commonKeys, Field.key]
    rw [Load.node, written.tagged, ok_bind, if_pos rfl, Load.command_eq (written.headed path) found,
      below]
    rfl
  | @single item made =>
    have tagged := (Load.written_minimal item).tagged path
    rw [Node.minimal, Load.node, tagged, ok_bind, if_neg made.tag_ne, made.load_minimal path,
      ok_bind]
  | seq made => rw [Node.minimal, Load.node, made.load_minimal 0 path, ok_bind]

/-- Nodes that are made by hand are loaded from their minimal forms, each with its position in the
path. -/
theorem Node.AllMade.load_minimal {nodes : List Node} (made : Node.AllMade nodes) (position : Nat)
    (path : Path) : Load.nodes (Node.minimals nodes) position path = .ok nodes := by
  cases made with
  | nil => simp only [Node.minimals, Load.nodes]
  | cons first rest =>
    rw [Node.minimals, Load.nodes, first.load_minimal, ok_bind, rest.load_minimal, ok_bind]

end

/-- A tree that is made by hand is loaded from its minimal form, bit for bit. Equality of trees is
meant here, so not even the bits of a NaN differ.

Proof: by recursion on what was made. A field that the minimal form leaves out has its default, and
loading puts that in its place. -/
theorem load_minimal_eq_ok (root : Root) (made : root.Made) :
    Load.root root.minimal = .ok root := by
  cases root with
  | none => rfl
  | some node =>
    have nodeMade : node.Made := made node rfl
    exact Load.root_of_node (nodeMade.load_minimal {})

end

/-- A call of a NaN, told by its text, and of a placeholder. -/
def handmadeCall : Item :=
  .function (FunctionCall.named "f" [.single (.atom (.literal (Literal.ofText .decimal "nan"))),
    .single (.atom (.literal (Literal.param "?1")))])

/-- A command on a cast of the call, on a policy, and on a node of an unknown tag. -/
def handmade : Node :=
  .command (Command.named "eval"
    [.seq [.single (.inlineCast (InlineCast.named "f::long" (.seq [.single handmadeCall]) "long"))],
      .single (.atom (.source (Source.policy "hosts"))),
      .single (.atom (.inert (Inert.named "future" "x")))])

/-- The handmade command is loaded from its minimal form, in which neither the NaN nor the kind of
the placeholder is written. -/
theorem load_minimal_handmade :
    Root.Made (some handmade) ∧ Load.root (Root.minimal (some handmade)) = .ok (some handmade) := by
  have call : handmadeCall.Made :=
    .function "f" (.cons (.single (.atom (.literal "nan" (by decide))))
      (.cons (.single (.atom (.param "?1"))) .nil))
  have cast : Node.Made (.seq [.single (.inlineCast
      (InlineCast.named "f::long" (.seq [.single handmadeCall]) "long"))]) :=
    .seq (.cons (.single (.inlineCast "f::long" "long" (.seq (.cons (.single call) .nil)))) .nil)
  have policy : Node.Made (.single (.atom (.source (Source.policy "hosts")))) :=
    .single (.atom (.policy "hosts"))
  have future : Node.Made (.single (.atom (.inert (Inert.named "future" "x")))) :=
    .single (.atom (.inert "x" (by decide)))
  have made : Root.Made (some handmade) := by
    rintro node same
    cases same
    exact .command "eval" (.cons cast (.cons policy (.cons future .nil)))
  exact ⟨made, load_minimal_eq_ok (some handmade) made⟩

/-- The minimal form of the call has neither a value nor a kind of placeholder. -/
example : (Slot.single handmadeCall).minimal =
    .object [("type", .string "function"), ("name", .string "f"), ("args", .array
      [.object [("type", .string "literal"), ("name", .string "nan"),
          ("literalType", .string "decimal")],
        .object [("type", .string "literal"), ("name", .string "?1"),
          ("literalType", .string "param")]])] := rfl

end EsqlTree
