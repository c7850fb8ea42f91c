import EsqlTree.Proofs.Load.Reading

/-!
# The written form of a loaded tree

A tree that was loaded is written as the value that it was loaded from, put into one
form: every node has exactly the keys of its kind, in one order. A table says for each of
these keys where its value comes from. What is given is kept as it is, what is missing
and has a default is supplied, and no other member is kept. The form is told from the
value alone, and arrays keep their elements in order.
-/

namespace EsqlTree

open Json (Value Members lookup given)

/-- Where the value of a written key comes from. -/
inductive Supply where
  /-- It is what is found, which has to be there. -/
  | found
  /-- It is what is given; without that the key is not written. -/
  | ifGiven
  /-- It is what is given, or else a value by default. -/
  | orElse (default : Value)
  /-- It is what is given, or else the name. -/
  | orName
  /-- It is both ends of what is given and nothing else, or else those of the start. -/
  | ends
  /-- It is what is found, also `null`, or else what the type of the literal makes of its
  text. -/
  | orFromText
  /-- It is what is given, or else what the text of a placeholder says; in other literals
  the key is not written then. -/
  | orFromPlaceholder
  /-- It is what is found, put into the written form for a sort of place. -/
  | nodes (place : Place)

/-- The keys of every node, behind its tag. -/
def headerKeys : List (String × Supply) :=
  [("name", .orElse (.string "")), ("text", .orName), ("location", .ends),
    ("incomplete", .orElse (.boolean false))]

/-- The keys that a node with a tag has beside those of every node. A command in a slot
and a node whose tag no kind has have none. -/
def ownKeys (place : Place) (tag : String) : List (String × Supply) :=
  match place, Kind.ofTag? tag with
  | .node, some .command => [("args", .nodes .node)]
  | _, some .function => [("subtype", .ifGiven), ("args", .nodes .slot)]
  | _, some .option => [("args", .nodes .slot)]
  | _, some .list => [("values", .nodes .slot)]
  | _, some .inlineCast => [("value", .nodes .slot), ("castType", .found)]
  | _, some .source =>
    [("sourceType", .orElse (.string "index")), ("cluster", .ifGiven), ("index", .ifGiven)]
  | _, some .column => [("parts", .orElse (.array [])), ("quoted", .orElse (.boolean false))]
  | _, some .literal =>
    [("literalType", .found), ("value", .orFromText), ("paramType", .orFromPlaceholder)]
  | _, some .timeInterval => [("quantity", .found), ("unit", .found)]
  | _, some .command | _, some .mode | _, some .unknown | _, none => []

/-- The type under `literalType`. -/
def literalTypeIn? (members : Members) : Option LiteralType :=
  match lookup "literalType" members with
  | some (.string tag) => LiteralType.ofTag? tag
  | _ => none

/-- The two ends of the location that is given, or of the start of the query. -/
def endsIn (members : Members) : Value :=
  match given "location" members with
  | some (.object ends) =>
    .object (["min", "max"].filterMap fun key => (lookup key ends).map fun value => (key, value))
  | _ => .object [("min", .number (.ofUInt32 0)), ("max", .number (.ofUInt32 0))]

mutual

/-- A value that stands in a place, put into the written form. -/
def canonical (place : Place) (value : Value) : Value :=
  match value with
  | .array elements => .array (canonicalEach place elements)
  | .object members =>
    match lookup "type" members with
    | some (.string tag) =>
      .object (("type", .string tag) :: canonicalMembers (headerKeys ++ ownKeys place tag) members)
    | _ => .object members
  | other => other
termination_by (sizeOf value, 0)

/-- The members that are written for keys. -/
def canonicalMembers (keys : List (String × Supply)) (members : Members) : Members :=
  keys.filterMap fun (key, supply) =>
    (supplied supply key members).map fun value => (key, value)
termination_by (sizeOf members, 2)

/-- The value that is written under a key, if the key is written. -/
def supplied (supply : Supply) (key : String) (members : Members) : Option Value :=
  match supply with
  | .found => lookup key members
  | .ifGiven => given key members
  | .orElse default => some ((given key members).getD default)
  | .orName => some ((given key members).getD (.string (nameIn members)))
  | .ends => some (endsIn members)
  | .orFromText =>
    (lookup key members).or
      ((literalTypeIn? members).map fun type => (Scalar.ofText type (textIn members)).toJson)
  | .orFromPlaceholder =>
    (given key members).or
      (if literalTypeIn? members = some .param then
        some (.string (ParamKind.ofPlaceholder (textIn members)).tag)
      else none)
  | .nodes place =>
    match _found : lookup key members with
    | some value => some (canonical place value)
    | none => none
termination_by (sizeOf members, 1)
decreasing_by
  apply Prod.Lex.left
  exact Json.sizeOf_lookup _found

/-- Values one by one, put into the written form. -/
def canonicalEach (place : Place) (elements : List Value) : List Value :=
  match elements with
  | [] => []
  | element :: others => canonical place element :: canonicalEach place others
termination_by (sizeOf elements, 0)

end

section

variable {members : Members}

@[simp] theorem canonicalMembers_nil : canonicalMembers [] members = [] := by
  rw [canonicalMembers, List.filterMap_nil]

@[simp] theorem canonicalMembers_cons (key : String) (supply : Supply)
    (keys : List (String × Supply)) :
    canonicalMembers ((key, supply) :: keys) members =
      ((supplied supply key members).map fun value => (key, value)).toList ++
        canonicalMembers keys members := by
  rw [canonicalMembers, canonicalMembers, List.filterMap_cons]
  cases value : supplied supply key members <;> simp [value]

@[simp] theorem canonicalMembers_append (front back : List (String × Supply)) :
    canonicalMembers (front ++ back) members =
      canonicalMembers front members ++ canonicalMembers back members := by
  rw [canonicalMembers, canonicalMembers, canonicalMembers, List.filterMap_append]

/-- Elements keep their number and their order. The definition runs along the list for its
termination, and here it is a map. -/
theorem canonicalEach_eq_map (place : Place) (elements : List Value) :
    canonicalEach place elements = elements.map (canonical place) := by
  induction elements with
  | nil => rw [canonicalEach, List.map_nil]
  | cons element others inOthers => rw [canonicalEach, inOthers, List.map_cons]

/-- A header is written from what is given of it. Of a location only the two ends are written, and
the reading has found them under their keys. -/
theorem HeaderReading.members_eq {header : Header} (headed : HeaderReading members header) :
    canonicalMembers headerKeys members = header.members := by
  have ends : endsIn members = header.location.toJson := by
    rcases headed.location with ⟨found, start⟩ | ⟨ends, found, min, max⟩
    · rw [endsIn, found, start, Location.toJson]
    · simp only [endsIn, found, List.filterMap_cons, min, max, List.filterMap_nil,
        Option.map_some, Location.toJson]
  simp only [headerKeys, canonicalMembers_cons, canonicalMembers_nil, supplied, headed.name,
    headed.nameIn_eq, headed.text, ends, headed.incomplete, Option.map_some, Option.toList_some,
    List.append_nil, List.cons_append, List.nil_append, Header.members]

/-- An object is written with its tag, its header and the members of its own keys. So for every kind
only the last of these is left to prove. -/
theorem canonical_object {place : Place} {tag : String} {header : Header} {own : Members}
    (tagged : lookup "type" members = some (.string tag))
    (headed : HeaderReading members header)
    (kept : canonicalMembers (ownKeys place tag) members = own) :
    canonical place (.object members) = nodeObject tag header own := by
  simp only [canonical, tagged, canonicalMembers_append, headed.members_eq, kept, nodeObject,
    List.cons_append]

/-- What has to be there is written as it is found. The definition is by recursion for the nodes
below, and this case is read off once. -/
theorem supplied_found (key : String) : supplied .found key members = lookup key members := by
  rw [supplied]

/-- What has a default is written as it is given, or else by the default, and so it is never left
out. -/
theorem supplied_orElse (default : Value) (key : String) :
    supplied (.orElse default) key members = some ((given key members).getD default) := by
  rw [supplied]

/-- Nodes under a key are written as they are by themselves, in the place that the key offers;
without them the key is not written. -/
theorem supplied_nodes (place : Place) (key : String) :
    supplied (.nodes place) key members = (lookup key members).map (canonical place) := by
  rw [supplied]
  split <;> simp_all

/-- A key whose value may be left out is written if a value is given. A `null` is not given, so it
is not written back. -/
theorem toList_ifGiven {key : String} {value : Option String}
    (given : given key members = value.map .string) :
    ((supplied .ifGiven key members).map fun value => (key, value)).toList =
      optionalMember key value := by
  rw [supplied, given]
  cases value <;> rfl

/-- The type that is found is read off the members, as types and their tags determine each other. -/
theorem literalTypeIn?_eq {type : LiteralType}
    (found : lookup "literalType" members = some (.string type.tag)) :
    literalTypeIn? members = some type := by
  rw [literalTypeIn?, found]
  exact LiteralType.ofTag?_tag type

/-- The value of a literal is written as it is found, or as it is made of the text. A `null` that is
found counts as a value, and the text is not asked then. -/
theorem ScalarReading.supplied_eq {type : LiteralType} {text : String} {value : Scalar}
    (reading : ScalarReading members type text value) (typed : literalTypeIn? members = some type)
    (same : textIn members = text) : supplied .orFromText "value" members = some value.toJson := by
  cases reading with
  | written found lasts => rw [supplied, found, Option.some_or]
  | ofText absent => rw [supplied, absent, Option.none_or, typed, same, Option.map_some]

/-- How a placeholder refers to its value is written as it is given, or as it is told from the text.
Literals of other types have nothing to tell, so there the key is left out. -/
theorem toList_orFromPlaceholder {type : LiteralType} {text : String}
    {kind given? : Option ParamKind}
    (given : given "paramType" members = given?.map fun kind => .string kind.tag)
    (typed : literalTypeIn? members = some type) (same : textIn members = text)
    (read : kind = given?.or (if type = .param then some (.ofPlaceholder text) else none)) :
    ((supplied .orFromPlaceholder "paramType" members).map fun value =>
        ("paramType", value)).toList = optionalMember "paramType" (kind.map ParamKind.tag) := by
  rw [supplied, given, typed, same, read]
  by_cases placeholder : type = .param
  all_goals cases given? <;> simp [placeholder, optionalMember]

/-- A tag that no kind has asks for no keys of its own, nor does that of commands in a slot. These
are the nodes that are read as inert. -/
theorem ownKeys_eq_nil {place : Place} {tag : String}
    (other : ∀ kind : Kind, kind ≠ .command → kind.tag ≠ tag)
    (inSlot : place = .node → tag ≠ Kind.command.tag) : ownKeys place tag = [] := by
  rcases Kind.ofTag?_eq_none_or other with unknown | rfl
  · simp only [ownKeys, unknown]
  · cases place with
    | node => exact absurd rfl (inSlot rfl)
    | slot => simp only [ownKeys, Kind.ofTag?_tag]

/-- An atom is written from the members of its own keys. For each kind the reading says what is
under a key, and the table of keys says what is written for it. -/
theorem AtomReading.canonical_eq {node : Atom} {place : Place} (own : AtomReading members node)
    (inSlot : place = .node → node.tag ≠ Kind.command.tag)
    (tagged : lookup "type" members = some (.string node.tag))
    (headed : HeaderReading members node.header) :
    canonical place (.object members) = node.toJson := by
  cases own with
  | mode node => exact canonical_object tagged headed (by simp [ownKeys, Kind.ofTag?_tag])
  | unclassified node => exact canonical_object tagged headed (by simp [ownKeys, Kind.ofTag?_tag])
  | inert other =>
    refine canonical_object tagged headed ?_
    rw [ownKeys_eq_nil other inSlot, canonicalMembers_nil]
  | @source node type cluster index =>
    refine canonical_object tagged headed ?_
    have byDefault : (given "sourceType" members).getD (.string "index") =
        .string node.sourceType.tag := type
    simp [ownKeys, Kind.ofTag?_tag, supplied_orElse, byDefault, toList_ifGiven cluster,
      toList_ifGiven index]
  | column parts quoted =>
    refine canonical_object tagged headed ?_
    simp [ownKeys, Kind.ofTag?_tag, supplied_orElse, parts, quoted]
  | literal type value paramType kind =>
    refine canonical_object tagged headed ?_
    have typed := literalTypeIn?_eq type
    have own := value.supplied_eq typed headed.textIn_eq
    have kept := toList_orFromPlaceholder paramType typed headed.textIn_eq kind
    simp [ownKeys, Kind.ofTag?_tag, supplied_found, type, own, kept]
  | timeInterval quantity unit =>
    refine canonical_object tagged headed ?_
    simp [ownKeys, Kind.ofTag?_tag, supplied_found, quantity, unit]

end

mutual

/-- An item is written from its object. What it holds is written from the elements that were found,
by the laws for slots below. -/
theorem ItemReading.canonical_eq {members : Members} {item : Item} {place : Place}
    (own : ItemReading members item) (inSlot : place = .node → item.tag ≠ Kind.command.tag)
    (tagged : lookup "type" members = some (.string item.tag))
    (headed : HeaderReading members item.header) :
    canonical place (.object members) = item.toJson := by
  cases own with
  | atom own => exact own.canonical_eq inSlot tagged headed
  | @function _ header form elements args subtype found below =>
    have tag : given "subtype" members = (form.map CallForm.tag).map .string := by
      rw [subtype, Option.map_map]
      rfl
    have kept := toList_ifGiven tag
    refine canonical_object tagged headed ?_
    simp [ownKeys, Kind.ofTag?_tag, kept, supplied_nodes, found, canonical, below.canonical_eq]
  | option found below =>
    refine canonical_object tagged headed ?_
    simp [ownKeys, Kind.ofTag?_tag, supplied_nodes, found, canonical, below.canonical_eq]
  | list found below =>
    refine canonical_object tagged headed ?_
    simp [ownKeys, Kind.ofTag?_tag, supplied_nodes, found, canonical, below.canonical_eq]
  | inlineCast found below type =>
    refine canonical_object tagged headed ?_
    simp [ownKeys, Kind.ofTag?_tag, supplied_nodes, found, below.canonical_eq, supplied_found, type]

/-- A slot is written from its value, be it the object of a single item or an array. -/
theorem SlotReading.canonical_eq {value : Value} {slot : Slot} (reading : SlotReading value slot) :
    canonical .slot value = slot.toJson := by
  cases reading with
  | single tagged headed own => exact own.canonical_eq (by rintro ⟨⟩) tagged headed
  | seq below => rw [canonical, below.canonical_eq, Slot.toJson]

/-- Slots are written from their values one by one, as the readings go along the elements. -/
theorem SlotReadings.canonical_eq {elements : List Value} {slots : List Slot}
    (readings : SlotReadings elements slots) :
    canonicalEach .slot elements = Slot.toJsons slots := by
  cases readings with
  | nil => rw [canonicalEach, Slot.toJsons]
  | cons first rest => rw [canonicalEach, first.canonical_eq, rest.canonical_eq, Slot.toJsons]

end

mutual

/-- A node is written from its value. Commands alone have their arguments in a place for nodes; all
other kinds are written as items are. -/
theorem NodeReading.canonical_eq {value : Value} {node : Node} (reading : NodeReading value node) :
    canonical .node value = node.toJson := by
  cases reading with
  | command tagged headed found below =>
    refine canonical_object tagged headed ?_
    simp [ownKeys, Kind.ofTag?_tag, supplied_nodes, found, canonical, below.canonical_eq]
  | single other tagged headed own => exact own.canonical_eq (fun _ => other) tagged headed
  | seq below => rw [canonical, below.canonical_eq, Node.toJson]

/-- Nodes are written from their values one by one, as the readings go along the elements. -/
theorem NodeReadings.canonical_eq {elements : List Value} {nodes : List Node}
    (readings : NodeReadings elements nodes) :
    canonicalEach .node elements = Node.toJsons nodes := by
  cases readings with
  | nil => rw [canonicalEach, Node.toJsons]
  | cons first rest => rw [canonicalEach, first.canonical_eq, rest.canonical_eq, Node.toJsons]

end

end EsqlTree
