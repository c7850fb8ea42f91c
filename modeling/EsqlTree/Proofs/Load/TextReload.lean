import EsqlTree.Proofs.Json.Layout
import EsqlTree.Proofs.Load.SecondLoad

/-!
# Loading the text of a loaded tree

The text of a loaded tree is loaded as the same tree, provided that the tree holds no
decimal and that the text it came from leaves room for one more container. That room is
needed: a node may be given without a location, and then one is written below it. So a
text that nests as many containers as may be open can be loaded, and what is written of
its tree cannot be read.
-/

namespace EsqlTree

open Json (Value Members lookup depthOfMembers depthOfElements)

/-- What is found under a key nests no more containers than the members do. The last of several
members of one key is found, and it is one of them. -/
theorem Json.depth_lookup_le {key : String} {members : Members} {value : Value}
    (found : lookup key members = some value) : value.depth ≤ depthOfMembers members := by
  induction members with
  | nil => contradiction
  | cons member others inOthers =>
    obtain ⟨name, first⟩ := member
    rw [Json.lookup_cons, Option.or_eq_some_iff] at found
    rw [depthOfMembers]
    rcases found with later | ⟨_, here⟩
    · exact Nat.le_trans (inOthers later) (Nat.le_max_right _ _)
    · split at here
      · cases here
        exact Nat.le_max_left _ _
      · contradiction

/-- What is found under a key nests fewer containers than the object, as the object itself is one
more. -/
theorem Json.depth_lt_object {key : String} {members : Members} {value : Value}
    (found : lookup key members = some value) : value.depth + 1 ≤ (Value.object members).depth := by
  rw [Value.depth]
  exact Nat.add_le_add_right (Json.depth_lookup_le found) 1

/-- A written node nests its location, and what the fields of its kind do. The location is always
written, so there is one container below at least. -/
theorem depth_nodeObject (tag : String) (header : Header) (own : Members) :
    (nodeObject tag header own).depth = max 1 (depthOfMembers own) + 1 := by
  simp [nodeObject, Header.members, Location.toJson, Value.depth, depthOfMembers]

/-- A field that may be left out nests no containers, because it holds a string if anything. -/
theorem depth_optionalMember (key : String) (value : Option String) :
    depthOfMembers (optionalMember key value) = 0 := by
  cases value <;> rfl

/-- Members nest what those in front and those behind do, whichever is more. -/
theorem Json.depthOfMembers_append (front back : Members) :
    depthOfMembers (front ++ back) = max (depthOfMembers front) (depthOfMembers back) := by
  induction front with
  | nil => simp [depthOfMembers]
  | cons member others inOthers =>
    obtain ⟨name, first⟩ := member
    rw [List.cons_append, depthOfMembers, depthOfMembers, inOthers, Nat.max_assoc]

/-- Strings nest no containers, however many there are. -/
theorem Json.depthOfElements_strings (strings : List String) :
    depthOfElements (strings.map .string) = 0 := by
  induction strings with
  | nil => rfl
  | cons s others inOthers => simp [depthOfElements, inOthers, Value.depth]

/-- The value of a literal nests no containers. It is written as a string, a number, a truth value
or `null`. -/
theorem Scalar.depth_toJson (value : Scalar) : value.toJson.depth = 0 := by
  cases value with
  | decimal x =>
    cases finite : x.isFinite <;>
      simp [toJson, Json.Number.ofBinary64?, finite, Value.depth]
  | _ => rfl

/-- A written atom nests two containers, its own and one below. The one below is the location, and
the array of a column's segments goes no deeper. -/
theorem Atom.depth_toJson (node : Atom) : node.toJson.depth = 2 := by
  cases node with
  | source node =>
    simp [toJson, Source.toJson, depth_nodeObject, depthOfMembers, Json.depthOfMembers_append,
      depth_optionalMember, Value.depth]
  | column node =>
    simp [toJson, Column.toJson, depth_nodeObject, depthOfMembers, Json.depthOfElements_strings,
      Value.depth]
  | literal node =>
    simp [toJson, Literal.toJson, depth_nodeObject, depthOfMembers, depth_optionalMember,
      Scalar.depth_toJson, Value.depth]
  | timeInterval node =>
    simp [toJson, TimeInterval.toJson, depth_nodeObject, depthOfMembers, Value.depth]
  | _ => simp [toJson, depth_nodeObject, depthOfMembers]

/-- A node whose field holds an array nests that array, and at least its location, which an array
without elements does not exceed. -/
theorem depth_nodeObject_array (tag key : String) (header : Header) (elements : List Value) :
    (nodeObject tag header [(key, .array elements)]).depth = depthOfElements elements + 2 := by
  simp [depth_nodeObject, depthOfMembers, Value.depth]

mutual

/-- An item is written with at most one more container than its object nests. An item below adds at
most one, and the location of the item itself is not deeper than that. -/
theorem ItemReading.depth_le {members : Members} {item : Item} (own : ItemReading members item) :
    item.toJson.depth ≤ (Value.object members).depth + 1 := by
  cases own with
  | atom own =>
    rw [Item.toJson, Atom.depth_toJson, Value.depth]
    omega
  | function subtype found below =>
    have arguments := below.depth_le
    have inside := Json.depth_lt_object found
    simp only [Value.depth] at inside ⊢
    simp only [Item.toJson, FunctionCall.toJson, depth_nodeObject, Json.depthOfMembers_append,
      depth_optionalMember, depthOfMembers, Value.depth]
    omega
  | option found below =>
    have arguments := below.depth_le
    have inside := Json.depth_lt_object found
    rw [Value.depth] at inside
    rw [Item.toJson, CommandOption.toJson, depth_nodeObject_array]
    omega
  | list found below =>
    have values := below.depth_le
    have inside := Json.depth_lt_object found
    rw [Value.depth] at inside
    rw [Item.toJson, ListLiteral.toJson, depth_nodeObject_array]
    omega
  | inlineCast found below type =>
    have operand := below.depth_le
    have inside := Json.depth_lt_object found
    simp only [Item.toJson, InlineCast.toJson, depth_nodeObject, depthOfMembers]
    simp only [Value.depth] at inside ⊢
    omega

/-- A slot is written with at most one more container than its value nests; brackets are written as
they were. -/
theorem SlotReading.depth_le {value : Value} {slot : Slot} (reading : SlotReading value slot) :
    slot.toJson.depth ≤ value.depth + 1 := by
  cases reading with
  | single tagged headed own => exact own.depth_le
  | seq below =>
    rw [Slot.toJson, Value.depth, Value.depth]
    exact Nat.add_le_add_right below.depth_le 1

/-- Slots are written with at most one more container than their values nest, each slot being
compared with its own value. -/
theorem SlotReadings.depth_le {elements : List Value} {slots : List Slot}
    (readings : SlotReadings elements slots) :
    depthOfElements (Slot.toJsons slots) ≤ depthOfElements elements + 1 := by
  cases readings with
  | nil => exact Nat.zero_le _
  | cons first rest =>
    have front := first.depth_le
    have back := rest.depth_le
    rw [Slot.toJsons, depthOfElements, depthOfElements]
    omega

end

mutual

/-- A node is written with at most one more container than its value nests. A command has its
arguments in an array, as the kinds of items do. -/
theorem NodeReading.depth_le {value : Value} {node : Node} (reading : NodeReading value node) :
    node.toJson.depth ≤ value.depth + 1 := by
  cases reading with
  | command tagged headed found below =>
    have arguments := below.depth_le
    have inside := Json.depth_lt_object found
    rw [Value.depth] at inside
    rw [Node.toJson, Command.toJson, depth_nodeObject_array]
    omega
  | single other tagged headed own => exact own.depth_le
  | seq below =>
    rw [Node.toJson, Value.depth, Value.depth]
    exact Nat.add_le_add_right below.depth_le 1

/-- Nodes are written with at most one more container than their values nest, each node being
compared with its own value. -/
theorem NodeReadings.depth_le {elements : List Value} {nodes : List Node}
    (readings : NodeReadings elements nodes) :
    depthOfElements (Node.toJsons nodes) ≤ depthOfElements elements + 1 := by
  cases readings with
  | nil => exact Nat.zero_le _
  | cons first rest =>
    have front := first.depth_le
    have back := rest.depth_le
    rw [Node.toJsons, depthOfElements, depthOfElements]
    omega

end

/-- A loaded tree is written with at most one more container than its value nests. This one
container is what room has to be left for. -/
theorem RootReading.depth_le {value : Value} {root : Root} (reading : RootReading value root) :
    root.toJson.depth ≤ value.depth + 1 := by
  cases reading with
  | absent => exact Nat.zero_le _
  | present reading => exact reading.depth_le

/-- True if none of the atoms holds a decimal. -/
def NoDecimal (atoms : List (Place × Atom)) : Prop := ∀ entry ∈ atoms, entry.2.decimal? = none

/-- Whether atoms hold a decimal can be decided by going through them. -/
instance (atoms : List (Place × Atom)) : Decidable (NoDecimal atoms) :=
  inferInstanceAs (Decidable (∀ entry ∈ atoms, entry.2.decimal? = none))

/-- None of two lists of atoms holds a decimal if none of each does, and the other way round. -/
theorem noDecimal_append {front back : List (Place × Atom)} :
    NoDecimal (front ++ back) ↔ NoDecimal front ∧ NoDecimal back := by
  simp only [NoDecimal, List.forall_mem_append]

/-- The fields of a written node have no floating-point numbers if those of its kind have none. A
header has no numbers but the ends of its location, and these are integers. -/
theorem floatless_nodeObject {tag : String} {header : Header} {own : Members}
    (floatless : Json.MembersFloatless own) : (nodeObject tag header own).Floatless := by
  simp [nodeObject, Header.members, Location.toJson, Value.Floatless, Json.MembersFloatless,
    Json.Number.ofUInt32, floatless]

/-- A field that may be left out holds no number, for it is left out or a string. -/
theorem floatless_optionalMember (key : String) (value : Option String) :
    Json.MembersFloatless (optionalMember key value) := by
  cases value <;> simp [optionalMember, Json.MembersFloatless, Value.Floatless]

/-- Members have no floating-point numbers if those in front and those behind have none. -/
theorem Json.membersFloatless_append {front back : Members}
    (inFront : Json.MembersFloatless front) (inBack : Json.MembersFloatless back) :
    Json.MembersFloatless (front ++ back) := by
  induction front with
  | nil => exact inBack
  | cons member others inOthers => exact ⟨inFront.1, inOthers inFront.2⟩

/-- Strings are no numbers, and so there is no floating-point number among them. -/
theorem Json.elementsFloatless_strings (strings : List String) :
    Json.ElementsFloatless (strings.map .string) := by
  induction strings with
  | nil => trivial
  | cons s others inOthers => exact ⟨trivial, inOthers⟩

/-- An atom without a decimal is written without a floating-point number. The quantity of a time
span is written as an integer, and so is an integer literal. -/
theorem Atom.floatless_toJson {node : Atom} (none : node.decimal? = none) :
    node.toJson.Floatless := by
  cases node with
  | source node =>
    refine floatless_nodeObject ⟨trivial, ?_⟩
    exact Json.membersFloatless_append (floatless_optionalMember _ _)
      (floatless_optionalMember _ _)
  | column node =>
    refine floatless_nodeObject ⟨Json.elementsFloatless_strings node.parts, trivial, trivial⟩
  | literal node =>
    obtain ⟨header, type, value, kind⟩ := node
    refine floatless_nodeObject ⟨trivial, ?_, floatless_optionalMember _ _⟩
    cases value with
    | decimal x => contradiction
    | _ => trivial
  | timeInterval node => exact floatless_nodeObject ⟨trivial, trivial, trivial⟩
  | _ => exact floatless_nodeObject trivial

mutual

/-- An item without decimals is written without floating-point numbers. The recursion is on the
item, and the atoms of what it holds are among its own. -/
theorem Item.floatless_toJson (place : Place) :
    (item : Item) → NoDecimal (item.atoms place) → item.toJson.Floatless
  | .atom _, whole => Atom.floatless_toJson (whole _ (List.mem_singleton_self _))
  | .function ⟨_, _, args⟩, whole =>
    floatless_nodeObject (Json.membersFloatless_append (floatless_optionalMember _ _)
      ⟨Slot.floatless_toJsons args whole, trivial⟩)
  | .option ⟨_, args⟩, whole =>
    floatless_nodeObject ⟨Slot.floatless_toJsons args whole, trivial⟩
  | .list ⟨_, values⟩, whole =>
    floatless_nodeObject ⟨Slot.floatless_toJsons values whole, trivial⟩
  | .inlineCast ⟨_, value, _⟩, whole =>
    floatless_nodeObject ⟨Slot.floatless_toJson value whole, trivial, trivial⟩

/-- A slot without decimals is written without floating-point numbers, be it a single item or a
sequence. -/
theorem Slot.floatless_toJson : (slot : Slot) → NoDecimal slot.atoms → slot.toJson.Floatless
  | .single item, whole => Item.floatless_toJson .slot item whole
  | .seq slots, whole => Slot.floatless_toJsons slots whole

/-- Slots without decimals are written without floating-point numbers, one by one. -/
theorem Slot.floatless_toJsons :
    (slots : List Slot) → NoDecimal (Slot.allAtoms slots) →
      Json.ElementsFloatless (Slot.toJsons slots)
  | [], _ => trivial
  | slot :: others, whole =>
    have each := noDecimal_append.mp whole
    ⟨Slot.floatless_toJson slot each.1, Slot.floatless_toJsons others each.2⟩

end

mutual

/-- A node without decimals is written without floating-point numbers, be it a command, an item or a
sequence. -/
theorem Node.floatless_toJson : (node : Node) → NoDecimal node.atoms → node.toJson.Floatless
  | .command ⟨_, args⟩, whole =>
    floatless_nodeObject ⟨Node.floatless_toJsons args whole, trivial⟩
  | .single item, whole => Item.floatless_toJson .node item whole
  | .seq nodes, whole => Node.floatless_toJsons nodes whole

/-- Nodes without decimals are written without floating-point numbers, one by one. -/
theorem Node.floatless_toJsons :
    (nodes : List Node) → NoDecimal (Node.allAtoms nodes) →
      Json.ElementsFloatless (Node.toJsons nodes)
  | [], _ => trivial
  | node :: others, whole =>
    have each := noDecimal_append.mp whole
    ⟨Node.floatless_toJson node each.1, Node.floatless_toJsons others each.2⟩

end

/-- A tree without decimals is written without floating-point numbers. So its text is read back
exactly, and no numeral needs to be rounded. -/
theorem Root.floatless_toJson {root : Root} (whole : NoDecimal root.atoms) :
    root.toJson.Floatless := by
  cases root with
  | none => trivial
  | some node => exact node.floatless_toJson whole

/-- A text is loaded as a tree if it is read as a value from which the tree is loaded, and in no
other way. -/
theorem load_eq_ok_iff {text : String} {root : Root} :
    load text = .ok root ↔ ∃ value, Json.read text = .ok value ∧ Load.root value = .ok root := by
  unfold load
  cases read : Json.read text with
  | error error => simp
  | ok value => cases loaded : Load.root value <;> simp [loaded]

/-- The text of a loaded tree without decimals is loaded as that tree if its value leaves room for
one more container. The tree is written with one more at most, and nothing in it is lost. -/
theorem load_compact_of_reading {value : Value} {root : Root} (reading : RootReading value root)
    (room : value.depth < Json.nestingLimit) (whole : NoDecimal root.atoms) :
    load (Json.compact root.toJson) = .ok root := by
  have shallow : root.toJson.depth ≤ Json.nestingLimit := Nat.le_trans reading.depth_le room
  have settled : ∀ entry ∈ root.atoms, entry.2.settled = entry.2 :=
    fun entry listed => Atom.settled_of_decimal?_eq_none (whole entry listed)
  refine load_eq_ok_iff.mpr ⟨root.toJson, ?_, ?_⟩
  · exact (Json.read_compact (Root.floatless_toJson whole)).1 shallow
  · exact Load.root_toJson_of_allLast (reading.allLast settled)

/-- An unclassified node in sequences, one in another. -/
def nested : Nat → Value
  | 0 => .object [("type", .string "unknown")]
  | level + 1 => .array [nested level]

/-- The tree of the nested node. -/
def nestedNode : Nat → Node
  | 0 => .single (.atom (.unclassified {}))
  | level + 1 => .seq [nestedNode level]

/-- The nested node opens a container for each level and one more, its own object. -/
theorem depth_nested (level : Nat) : (nested level).depth = level + 1 := by
  induction level with
  | zero => rfl
  | succ level inLevel => simp [nested, Value.depth, depthOfElements, inLevel]

/-- The tree of the nested node is written with its location, which opens another. So it nests one
container more than what it was loaded from. -/
theorem depth_nestedNode (level : Nat) : (nestedNode level).toJson.depth = level + 2 := by
  induction level with
  | zero => exact Atom.depth_toJson (.unclassified {})
  | succ level inLevel =>
    simp [nestedNode, Node.toJson, Node.toJsons, Value.depth, depthOfElements, inLevel]

/-- The nested node is loaded as its tree, the path growing by a position at each level. -/
theorem node_nested (level : Nat) (path : Path) :
    Load.node (nested level) path = .ok (nestedNode level) := by
  induction level generalizing path with
  | zero => cbv
  | succ level inLevel => simp [nested, nestedNode, Load.node, Load.nodes, inLevel]

/-- The nested node holds no number, so its text is read back as it is. -/
theorem floatless_nested (level : Nat) : (nested level).Floatless := by
  induction level with
  | zero => simp [nested, Value.Floatless, Json.MembersFloatless]
  | succ level inLevel => exact ⟨inLevel, trivial⟩

/-- The tree of the nested node holds no decimal: its only atom is an unclassified node. -/
theorem noDecimal_nestedNode (level : Nat) : NoDecimal (nestedNode level).atoms := by
  induction level with
  | zero =>
    rintro entry listed
    obtain rfl := List.mem_singleton.mp listed
    rfl
  | succ level inLevel =>
    refine noDecimal_append.mpr ⟨inLevel, ?_⟩
    rintro entry ⟨⟩

/-- The text of the nested node is read if all its containers may be open at once, which is one more
than there are levels. -/
theorem read_nested {level : Nat} (room : level < Json.nestingLimit) :
    Json.read (Json.compact (nested level)) = .ok (nested level) := by
  refine (Json.read_compact (floatless_nested level)).1 ?_
  rw [depth_nested]
  exact room

/-- The text of the nested node's tree is refused if there is no room for the location. It is
refused by the reader, before anything is loaded. -/
theorem load_nestedNode_eq_error {level : Nat} (tight : Json.nestingLimit ≤ level + 1) :
    ∃ error, load (Json.compact (nestedNode level).toJson) = .error (.invalidJson error) ∧
      error.reason = .nestedTooDeeply := by
  have floatless := (nestedNode level).floatless_toJson (noDecimal_nestedNode level)
  have deep : Json.nestingLimit < (nestedNode level).toJson.depth := by
    rw [depth_nestedNode]
    exact Nat.lt_succ_of_le tight
  obtain ⟨error, refused, reason⟩ := (Json.read_compact floatless).2 deep
  refine ⟨error, ?_, reason⟩
  rw [load, refused]

/-- The text of a loaded tree without decimals is loaded as that tree if the text from
which it was loaded nests at most 126 containers. One that nests a container more can be
loaded as well, but what is written of its tree is refused for its nesting.

Proof: a written value is read back if it holds no decimal and may be opened. Writing adds one
container at most to the nesting of a value, in the location of a leaf, hence the bound of one less;
a nest of lists around one leaf reaches it. -/
theorem load_compact_eq_ok :
    (∀ text value root, Json.read text = .ok value → value.depth ≤ 126 → load text = .ok root →
      NoDecimal root.atoms → load (Json.compact root.toJson) = .ok root) ∧
    ∃ text value root error, Json.read text = .ok value ∧ value.depth = 127 ∧
      load text = .ok root ∧ NoDecimal root.atoms ∧
      load (Json.compact root.toJson) = .error (.invalidJson error) ∧
      error.reason = .nestedTooDeeply := by
  constructor
  · intro text value root read shallow loaded whole
    obtain ⟨other, readOther, loadedValue⟩ := load_eq_ok_iff.mp loaded
    obtain rfl : other = value := Except.ok.inj (readOther.symm.trans read)
    have room : other.depth < Json.nestingLimit := Nat.lt_succ_of_le shallow
    exact load_compact_of_reading (Load.rootReading_of_ok loadedValue) room whole
  · have read : Json.read (Json.compact (nested 126)) = .ok (nested 126) :=
      read_nested (by decide)
    have loaded : Load.root (nested 126) = .ok (some (nestedNode 126)) :=
      Load.root_of_node (node_nested 126 {})
    obtain ⟨error, refused, reason⟩ := load_nestedNode_eq_error (Nat.le_refl 127)
    exact ⟨Json.compact (nested 126), nested 126, some (nestedNode 126), error, read,
      depth_nested 126, load_eq_ok_iff.mpr ⟨_, read, loaded⟩, noDecimal_nestedNode 126, refused,
      reason⟩

/-- A text with blanks, with a surrogate pair among its escapes and with the least
integer. -/
def escaped : String :=
  "[ \x7b\"type\":\"literal\", \"literalType\":\"keyword\", " ++
    "\"value\":-9223372036854775808, \"name\":\"\\u0001\\\"\\ud83d\\ude00é\"\x7d ]"

/-- The least integer. -/
def leastInteger : Json.Integer := ⟨-9223372036854775808, by decide, by decide⟩

/-- The members that the escaped text denotes. -/
def unescapedMembers : Members :=
  [("type", .string "literal"), ("literalType", .string "keyword"),
    ("value", .number (.integer leastInteger)), ("name", .string "\x01\"😀é")]

/-- The tree of the escaped text. -/
def unescaped : Root :=
  some (.seq [.single (.atom (.literal
    { Header.named "\x01\"😀é" with
      literalType := .keyword, value := .integer (-9223372036854775808) }))])

/-- The characters of the name as they are escaped, and its closing quote. -/
def escapedName (after : List Char) : List Char :=
  '\\' :: 'u' :: (Text.fourHexDigits 0x1 ++ '\\' :: '"' :: '\\' :: 'u' ::
    (Text.fourHexDigits 0xd83d ++ '\\' :: 'u' ::
      (Text.fourHexDigits 0xde00 ++ 'é' :: '"' :: after)))

/-- The members of the escaped text, from inside the first key on. -/
def escapedMembers : List Char :=
  Json.writeCharacters "type".toList (':' :: Json.write (.string "literal") (',' :: ' ' :: '"' ::
    Json.writeCharacters "literalType".toList (':' :: Json.write (.string "keyword") (',' :: ' ' ::
      '"' :: Json.writeCharacters "value".toList (':' ::
        Json.write (.number (.integer leastInteger)) (',' :: ' ' :: '"' ::
          Json.writeCharacters "name".toList (':' :: '"' :: escapedName ['\x7d', ' ', ']'])))))))

/-- The escapes of the name are read one by one, and the letter behind them stands for itself. Two
of them together make the one character of the surrogate pair. -/
theorem readCharacters_escapedName (after : List Char) :
    Json.Yields (Json.readCharacters (escapedName after)) "\x01\"😀é".toList after := by
  have name : "\x01\"😀é".toList = ['\x01', '"', Text.ofSurrogates 0xd83d 0xde00, 'é'] := by decide
  rw [name]
  refine Json.readCharacters_escaped (@Json.readEscape_unit '\x01' (by decide) _) ?_
  refine Json.readCharacters_escaped (@Json.readEscape_letter '"' '"' (by decide) _) ?_
  refine Json.readCharacters_escaped (Json.readEscape_pair (by decide) (by decide) _) ?_
  exact Json.readCharacters_write ['é'] after

/-- The members of the escaped text are read from the last one on. The others end with a comma and a
blank. -/
theorem readMembers_escapedMembers (room : Nat) :
    Json.Fits True (Json.readMembers room escapedMembers) unescapedMembers [' ', ']'] := by
  have ends (rest : List Char) : Json.EndsNumeral (',' :: rest) := by
    rintro c rest ⟨⟩
    decide
  have name := Json.readMembers_last "name"
    (Json.readValue_quote room (readCharacters_escapedName ['\x7d', ' ', ']'])).fits rfl
  have value := Json.readMembers_cons "value"
    (Json.readValue_integer room leastInteger (ends (' ' :: '"' :: _))).fits rfl rfl name
  have literalType := Json.readMembers_cons "literalType"
    (Json.readValue_string room "keyword" (',' :: ' ' :: '"' :: _)).fits rfl rfl value
  have type := Json.readMembers_cons "type"
    (Json.readValue_string room "literal" (',' :: ' ' :: '"' :: _)).fits rfl rfl literalType
  rw [String.ofList_toList] at type
  exact type.of_iff (by simp)

/-- The escaped text is read, with blanks on either side of its only element. -/
theorem read_escaped : Json.read escaped = .ok (.array [.object unescapedMembers]) := by
  have spelled : escaped.toList = '[' :: ' ' :: '\x7b' :: '"' :: escapedMembers := by decide +kernel
  have element (room : Nat) : Json.Fits (0 + 1 ≤ room)
      (Json.readValue room ('\x7b' :: '"' :: escapedMembers)) (.object unescapedMembers)
      [' ', ']'] := by
    refine Json.readValue_object (fun room => ?_) room
    exact (Json.readObject_cons rfl (readMembers_escapedMembers room)).of_iff (by simp)
  have array : Json.Fits (0 + 1 + 1 ≤ Json.nestingLimit)
      (Json.readValue Json.nestingLimit ('[' :: ' ' :: '\x7b' :: '"' :: escapedMembers))
      (.array [.object unescapedMembers]) [] := by
    refine Json.readValue_array (fun room => ?_) Json.nestingLimit
    rw [@Json.readArray_cons _ _ room '\x7b' rfl (by decide)]
    exact Json.readElements_last ((element room).of_skipBlanks rfl) rfl
  obtain ⟨_, whole⟩ := array.yields (by decide)
  rw [Json.read, spelled, Json.readRoot, whole]
  rfl

/-- The text that is written of the tree of the escaped text is loaded as that tree, although
neither the blanks nor the escapes of letters are written again. -/
theorem load_compact_unescaped :
    load escaped = .ok unescaped ∧ NoDecimal unescaped.atoms ∧
      load (Json.compact unescaped.toJson) = .ok unescaped := by
  have tree : Load.root (.array [.object unescapedMembers]) = .ok unescaped := by cbv
  have loaded : load escaped = .ok unescaped := load_eq_ok_iff.mpr ⟨_, read_escaped, tree⟩
  have whole : NoDecimal unescaped.atoms := by decide
  exact ⟨loaded, whole, load_compact_eq_ok.1 _ _ _ read_escaped (by decide) loaded whole⟩

end EsqlTree
