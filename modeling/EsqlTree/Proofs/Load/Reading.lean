import EsqlTree.Proofs.Load.Fields
import EsqlTree.Proofs.Tree.Reload

/-!
# What a value stands for

A tree is a reading of a JSON value if it agrees with it node by node: each node with
an object by its tag, its header and the fields of its kind, and each sequence with an
array by its elements. The relation speaks of keys and of what stands under them, and of
no order in which they are looked at. Loading succeeds with a reading, so whatever holds
of readings holds of every tree that was loaded.
-/

namespace EsqlTree

open Json (Value Members lookup)

/-- What is given under a key. `null` gives nothing. -/
def Json.given (key : String) (members : Members) : Option Value :=
  match lookup key members with
  | some .null => none
  | found => found

open Json (given)

/-- What is given is what is found and is not `null`. So a reader that takes both for absence needs
to look at one option only. -/
theorem Json.given_eq_some_iff {key : String} {members : Members} {value : Value} :
    given key members = some value ↔ lookup key members = some value ∧ value ≠ .null := by
  unfold given
  split
  · simp_all
  · rename_i notNull
    constructor
    · intro found
      refine ⟨found, ?_⟩
      rintro rfl
      exact notNull found
    · exact And.left

/-- Nothing is given where nothing or `null` is found. The two are told apart by no field that may
be left out, the value of a literal excepted. -/
theorem Json.given_eq_none_iff {key : String} {members : Members} :
    given key members = none ↔ lookup key members = none ∨ lookup key members = some .null := by
  unfold given
  split <;> simp_all

/-- A header agrees with the members of an object. -/
structure HeaderReading (members : Members) (header : Header) : Prop where
  /-- The name is the one given, or empty. -/
  name : (given "name" members).getD (.string "") = .string header.name
  /-- The text is the one given, or the name. -/
  text : (given "text" members).getD (.string header.name) = .string header.text
  /-- The location is at the start, or it is the one given by both offsets. -/
  location : (given "location" members = none ∧ header.location = {}) ∨
    ∃ ends, given "location" members = some (.object ends) ∧
      lookup "min" ends = some (.number (.ofUInt32 header.location.min)) ∧
      lookup "max" ends = some (.number (.ofUInt32 header.location.max))
  /-- The mark is the one given, or false. -/
  incomplete : (given "incomplete" members).getD (.boolean false) = .boolean header.incomplete

/-- The string under `name`; it is empty if there is none. -/
def nameIn (members : Members) : String :=
  match lookup "name" members with
  | some (.string name) => name
  | _ => ""

/-- The string under `text`; it is the name if there is none. -/
def textIn (members : Members) : String :=
  match lookup "text" members with
  | some (.string text) => text
  | _ => nameIn members

/-- A name that agrees with the members is the one read off them. Where none is given both are
empty. -/
theorem HeaderReading.nameIn_eq {members : Members} {header : Header}
    (headed : HeaderReading members header) : nameIn members = header.name := by
  have agrees := headed.name
  cases found : given "name" members with
  | none =>
    rw [found] at agrees
    rcases Json.given_eq_none_iff.mp found with absent | null <;> simp_all [nameIn]
  | some value =>
    rw [found, Option.getD_some] at agrees
    obtain ⟨there, _⟩ := Json.given_eq_some_iff.mp found
    simp [nameIn, there, agrees]

/-- A text that agrees with the members is the one read off them. Where none is given both are the
name. -/
theorem HeaderReading.textIn_eq {members : Members} {header : Header}
    (headed : HeaderReading members header) : textIn members = header.text := by
  have agrees := headed.text
  cases found : given "text" members with
  | none =>
    rw [found, Option.getD_none, Value.string.injEq, ← headed.nameIn_eq] at agrees
    rcases Json.given_eq_none_iff.mp found with absent | null <;> simp_all [textIn]
  | some value =>
    rw [found, Option.getD_some] at agrees
    obtain ⟨there, _⟩ := Json.given_eq_some_iff.mp found
    simp [textIn, there, agrees]

/-- The value of a literal agrees with the members of an object: it is the one written
there, or what the type makes of the text. -/
inductive ScalarReading (members : Members) (type : LiteralType) (text : String) :
    Scalar → Prop
  | written {value : Scalar} (found : lookup "value" members = some value.toJson)
      (lasts : value.reread = value) : ScalarReading members type text value
  | ofText (absent : lookup "value" members = none) :
      ScalarReading members type text (.ofText type text)

/-- An atom agrees with the members of an object in the fields of its kind. -/
inductive AtomReading (members : Members) : Atom → Prop
  | mode (node : CommandMode) : AtomReading members (.mode node)
  | source {node : Source}
      (type : (given "sourceType" members).getD (.string SourceType.index.tag) =
        .string node.sourceType.tag)
      (cluster : given "cluster" members = node.cluster.map .string)
      (index : given "index" members = node.index.map .string) :
      AtomReading members (.source node)
  | column {node : Column}
      (parts : (given "parts" members).getD (.array []) = .array (node.parts.map .string))
      (quoted : (given "quoted" members).getD (.boolean false) = .boolean node.quoted) :
      AtomReading members (.column node)
  | literal {node : Literal} {paramKind : Option ParamKind}
      (type : lookup "literalType" members = some (.string node.literalType.tag))
      (value : ScalarReading members node.literalType node.text node.value)
      (paramType : given "paramType" members = paramKind.map fun kind => .string kind.tag)
      (kind : node.paramKind = paramKind.or
        (if node.literalType = .param then some (.ofPlaceholder node.text) else none)) :
      AtomReading members (.literal node)
  | timeInterval {node : TimeInterval}
      (quantity : lookup "quantity" members = some (.number (.ofInt64 node.quantity)))
      (unit : lookup "unit" members = some (.string node.unit)) :
      AtomReading members (.timeInterval node)
  | unclassified (node : Unclassified) : AtomReading members (.unclassified node)
  | inert {node : Inert} (other : ∀ kind : Kind, kind ≠ .command → kind.tag ≠ node.tag) :
      AtomReading members (.inert node)

/-- A tag that no kind but that of commands has is of no kind at all, or that of commands. These are
the tags of inert nodes. -/
theorem Kind.ofTag?_eq_none_or {tag : String}
    (other : ∀ kind : Kind, kind ≠ .command → kind.tag ≠ tag) :
    Kind.ofTag? tag = none ∨ tag = Kind.command.tag := by
  cases known : Kind.ofTag? tag with
  | none => exact .inl rfl
  | some kind =>
    have same : kind.tag = tag := (Kind.ofTag?_eq_some_iff tag kind).mp known
    by_cases command : kind = .command
    · subst command
      exact .inr same.symm
    · exact absurd same (other kind command)

mutual

/-- An item agrees with the members of an object in the fields of its kind. -/
inductive ItemReading : Members → Item → Prop
  | atom {members : Members} {node : Atom} (own : AtomReading members node) :
      ItemReading members (.atom node)
  | function {members : Members} {header : Header} {form : Option CallForm}
      {elements : List Value} {args : List Slot}
      (subtype : given "subtype" members = form.map fun form => .string form.tag)
      (found : lookup "args" members = some (.array elements))
      (below : SlotReadings elements args) :
      ItemReading members (.function ⟨header, form, args⟩)
  | option {members : Members} {header : Header} {elements : List Value} {args : List Slot}
      (found : lookup "args" members = some (.array elements))
      (below : SlotReadings elements args) :
      ItemReading members (.option ⟨header, args⟩)
  | list {members : Members} {header : Header} {elements : List Value} {values : List Slot}
      (found : lookup "values" members = some (.array elements))
      (below : SlotReadings elements values) :
      ItemReading members (.list ⟨header, values⟩)
  | inlineCast {members : Members} {header : Header} {operand : Value} {value : Slot}
      {castType : String} (found : lookup "value" members = some operand)
      (below : SlotReading operand value)
      (type : lookup "castType" members = some (.string castType)) :
      ItemReading members (.inlineCast ⟨header, value, castType⟩)

/-- A slot agrees with a value. -/
inductive SlotReading : Value → Slot → Prop
  | single {members : Members} {item : Item}
      (tagged : lookup "type" members = some (.string item.tag))
      (headed : HeaderReading members item.header) (own : ItemReading members item) :
      SlotReading (.object members) (.single item)
  | seq {elements : List Value} {slots : List Slot} (below : SlotReadings elements slots) :
      SlotReading (.array elements) (.seq slots)

/-- Slots agree with values one by one. -/
inductive SlotReadings : List Value → List Slot → Prop
  | nil : SlotReadings [] []
  | cons {element : Value} {others : List Value} {slot : Slot} {slots : List Slot}
      (first : SlotReading element slot) (rest : SlotReadings others slots) :
      SlotReadings (element :: others) (slot :: slots)

end

mutual

/-- A node agrees with a value. An object tagged as a command is read as one, and as
nothing else. -/
inductive NodeReading : Value → Node → Prop
  | command {members : Members} {header : Header} {elements : List Value} {args : List Node}
      (tagged : lookup "type" members = some (.string Kind.command.tag))
      (headed : HeaderReading members header)
      (found : lookup "args" members = some (.array elements))
      (below : NodeReadings elements args) :
      NodeReading (.object members) (.command ⟨header, args⟩)
  | single {members : Members} {item : Item} (other : item.tag ≠ Kind.command.tag)
      (tagged : lookup "type" members = some (.string item.tag))
      (headed : HeaderReading members item.header) (own : ItemReading members item) :
      NodeReading (.object members) (.single item)
  | seq {elements : List Value} {nodes : List Node} (below : NodeReadings elements nodes) :
      NodeReading (.array elements) (.seq nodes)

/-- Nodes agree with values one by one. -/
inductive NodeReadings : List Value → List Node → Prop
  | nil : NodeReadings [] []
  | cons {element : Value} {others : List Value} {node : Node} {nodes : List Node}
      (first : NodeReading element node) (rest : NodeReadings others nodes) :
      NodeReadings (element :: others) (node :: nodes)

end

/-- A tree agrees with a value: the absent tree with `null`, and no other. -/
inductive RootReading : Value → Root → Prop
  | absent : RootReading .null none
  | present {value : Value} {node : Node} (reading : NodeReading value node) :
      RootReading value (some node)

/-- An integer that is read as one of 32 bits is that number. The bounds were checked before the
conversion, which therefore loses nothing. -/
theorem Json.Integer.ofUInt32_of_toUInt32? {n : Json.Integer} {m : UInt32}
    (read : n.toUInt32? = some m) : Json.Number.ofUInt32 m = .integer n := by
  unfold Json.Integer.toUInt32? at read
  split at read
  · rename_i bound
    cases read
    have whole : ((UInt32.ofNat n.val.toNat).toNat : Int) = n.val :=
      Load.toNat_uint32 bound.1 bound.2
    simp only [Json.Number.ofUInt32, whole]
  · contradiction

/-- An integer that is read as one of 64 bits with a sign is that number. The lower bound is one
that every integer of JSON keeps. -/
theorem Json.Integer.ofInt64_of_toInt64? {n : Json.Integer} {m : Int64}
    (read : n.toInt64? = some m) : Json.Number.ofInt64 m = .integer n := by
  unfold Json.Integer.toInt64? at read
  split at read
  · rename_i bound
    cases read
    have whole : (Int64.ofInt n.val).toInt = n.val := Int64.toInt_ofInt_of_le n.lower bound
    simp only [Json.Number.ofInt64, whole]
  · contradiction

/-- True of a JSON number and of the value that holds it: an integer with a sign if 64 bits hold it
so, and else without one; any other number bit for bit. -/
inductive Scalar.Holds : Json.Number → Scalar → Prop
  | integer {n : Json.Integer} {k : Int64} (small : n.val ≤ 9223372036854775807)
      (same : k.toInt = n.val) : Holds (.integer n) (.integer k)
  | unsigned {n : Json.Integer} {k : UInt64} (large : 9223372036854775807 < n.val)
      (same : (k.toNat : Int) = n.val) : Holds (.integer n) (.unsigned k)
  | decimal (x : FiniteBinary64) : Holds (.float x) (.decimal x.val)

/-- The value of a number holds it. An integer is stored with a sign if it is small enough, and else
without one, and a float with all its bits. -/
theorem Scalar.holds_ofNumber (number : Json.Number) : Holds number (ofNumber number) := by
  cases number with
  | integer n =>
    by_cases small : n.val ≤ 9223372036854775807
    · rw [ofNumber, if_pos small]
      exact .integer small (Int64.toInt_ofInt_of_le n.lower (by omega))
    · rw [ofNumber, if_neg small]
      exact .unsigned (by omega) (Load.toNat_uint64 (by omega) n.upper)
  | float x => exact .decimal x

/-- The value of a number is written as that number, and it lasts. An unsigned integer lasts because
it is above the signed ones, and a float because JSON has only finite ones. -/
theorem Scalar.toJson_ofNumber (n : Json.Number) :
    (Scalar.ofNumber n).toJson = .number n ∧ (Scalar.ofNumber n).reread = Scalar.ofNumber n := by
  have holds := Scalar.holds_ofNumber n
  generalize Scalar.ofNumber n = value at holds ⊢
  cases holds with
  | integer small same => simp [Scalar.toJson, Json.Number.ofInt64, same, Scalar.reread]
  | @unsigned n k large same =>
    have notSmall : ¬ k.toNat ≤ 9223372036854775807 := by omega
    simp only [Scalar.toJson, Json.Number.ofUInt64, same, Scalar.reread, if_neg notSmall, and_self]
  | decimal x => simp [Scalar.toJson, Json.Number.ofBinary64?, Scalar.reread, x.property]

/-- What is found by a tag has that tag. All types with tags look theirs up in this way. -/
theorem tag_eq_of_find? {α : Type} {all : List α} {tag : α → String} (s : String) (value : α)
    (known : (all.find? fun value => tag value = s) = some value) : tag value = s := by
  simpa using List.find?_some known

namespace Load

variable {members : Members} {field : Field} {kind : Kind} {path : Path}

/-- An optional string is the one given. No default comes in here, as the reader returns an option.
-/
theorem given_of_optionalString {value : Option String}
    (read : optionalString members field path = .ok value) :
    given field.key members = value.map .string := by
  unfold optionalString at read
  split at read <;> cases read <;> simp [given, *]

/-- An optional truth value is the one given, or false. The default is part of the reader here. -/
theorem given_of_optionalBoolean {value : Bool}
    (read : optionalBoolean members field path = .ok value) :
    (given field.key members).getD (.boolean false) = .boolean value := by
  unfold optionalBoolean at read
  split at read <;> cases read <;> simp [given, *]

/-- An optional tag is the one given. A string that is no tag would have been refused. -/
theorem given_of_optionalTag {α : Type} {ofTag? : String → Option α} {tag : α → String}
    {expected : Expectation} {value : Option α}
    (inverse : ∀ s a, ofTag? s = some a → tag a = s)
    (read : optionalTag ofTag? expected members field path = .ok value) :
    given field.key members = value.map fun a => .string (tag a) := by
  obtain ⟨string, readString, read⟩ := bind_eq_ok_iff.mp read
  rw [given_of_optionalString readString]
  cases string with
  | none =>
    cases read
    rfl
  | some s =>
    cases known : ofTag? s with
    | none => simp [known] at read
    | some a =>
      simp only [known, Except.ok.injEq] at read
      subst read
      simp [inverse s a known]

/-- The tag is what is found under its key; if it were anything but a string, it would be missing.
-/
theorem lookup_of_tagOf {tag : String} (read : tagOf members path = .ok tag) :
    lookup "type" members = some (.string tag) := by
  unfold tagOf at read
  split at read
  · cases read
    assumption
  · contradiction

/-- A field that must be there is what is found, be it `null`, for only its absence is refused here.
-/
theorem lookup_of_required {value : Value} {smaller : sizeOf value < sizeOf members}
    (read : required members field kind path = .ok ⟨value, smaller⟩) :
    lookup field.key members = some value := by
  unfold required at read
  split at read
  · simp_all
  · contradiction

/-- A string that must be there is what is found, anything else under the key having been refused.
-/
theorem lookup_of_requiredString {value : String}
    (read : requiredString members field kind path = .ok value) :
    lookup field.key members = some (.string value) := by
  obtain ⟨⟨found, smaller⟩, readField, read⟩ := bind_eq_ok_iff.mp read
  rw [lookup_of_required readField]
  cases found <;> simp_all

/-- An array that must be there is what is found, anything else under the key having been refused.
-/
theorem lookup_of_requiredArray {elements : List Value}
    {smaller : sizeOf elements < sizeOf members}
    (read : requiredArray members field kind path = .ok ⟨elements, smaller⟩) :
    lookup field.key members = some (.array elements) := by
  obtain ⟨⟨found, _⟩, readField, read⟩ := bind_eq_ok_iff.mp read
  rw [lookup_of_required readField]
  cases found <;> simp_all

/-- An offset that is read is what is found, as an integer that keeps its value in 32 bits. -/
theorem lookup_of_offset? {key : String} {offset : UInt32}
    (read : offset? key members = some offset) :
    lookup key members = some (.number (.ofUInt32 offset)) := by
  unfold offset? at read
  split at read
  · rename_i n found
    rw [found, Json.Integer.ofUInt32_of_toUInt32? read]
  · contradiction

/-- The header that is read agrees with the members. Its four fields are read one after another, and
each has its default where nothing is given. -/
theorem headerReading_of_ok {header : Header} (read : Load.header members path = .ok header) :
    HeaderReading members header := by
  obtain ⟨name, readName, read⟩ := bind_eq_ok_iff.mp read
  obtain ⟨text, readText, read⟩ := bind_eq_ok_iff.mp read
  obtain ⟨location, readLocation, read⟩ := bind_eq_ok_iff.mp read
  obtain ⟨incomplete, readIncomplete, read⟩ := bind_eq_ok_iff.mp read
  cases read
  refine ⟨?_, ?_, ?_, given_of_optionalBoolean readIncomplete⟩
  · have found : given "name" members = _ := given_of_optionalString readName
    cases name <;> simp [found]
  · have found : given "text" members = _ := given_of_optionalString readText
    cases text <;> simp [found]
  · unfold Load.location at readLocation
    split at readLocation
    · cases readLocation
      exact .inl ⟨by simp_all [given, Field.key], rfl⟩
    · cases readLocation
      exact .inl ⟨by simp_all [given, Field.key], rfl⟩
    · rename_i ends found
      split at readLocation
      · rename_i min max first last
        cases readLocation
        refine .inr ⟨ends, ?_, lookup_of_offset? first, lookup_of_offset? last⟩
        simp_all [given, Field.key]
      · contradiction
    · contradiction

/-- The source that is read agrees with the members. Without a type it is an index, which is the
default that the reading names. -/
theorem atomReading_of_source {header : Header} {node : Source}
    (read : Load.source header members path = .ok node) :
    node.toHeader = header ∧ AtomReading members (.source node) := by
  obtain ⟨type, readType, read⟩ := bind_eq_ok_iff.mp read
  obtain ⟨cluster, readCluster, read⟩ := bind_eq_ok_iff.mp read
  obtain ⟨index, readIndex, read⟩ := bind_eq_ok_iff.mp read
  cases read
  have found : given "sourceType" members = _ := given_of_optionalTag tag_eq_of_find? readType
  refine ⟨rfl, .source ?_ (given_of_optionalString readCluster)
    (given_of_optionalString readIndex)⟩
  cases type <;> simp [found]

/-- Strings that are read are what is found. By induction on the elements, as one that is no string
would have been refused. -/
theorem eq_map_of_strings? {elements : List Value} {parts : List String}
    (read : strings? elements = some parts) : elements = parts.map .string := by
  induction elements generalizing parts with
  | nil =>
    cases read
    rfl
  | cons element others inOthers =>
    cases element with
    | string s =>
      obtain ⟨later, readLater, rfl⟩ := Option.map_eq_some_iff.mp read
      rw [inOthers readLater, List.map_cons]
    | _ => simp [strings?] at read

/-- The column that is read agrees with the members. Its segments are all strings, and they are
empty where none are given. -/
theorem atomReading_of_column {header : Header} {node : Column}
    (read : Load.column header members path = .ok node) :
    node.toHeader = header ∧ AtomReading members (.column node) := by
  obtain ⟨parts, readParts, read⟩ := bind_eq_ok_iff.mp read
  obtain ⟨quoted, readQuoted, read⟩ := bind_eq_ok_iff.mp read
  cases read
  refine ⟨rfl, .column ?_ (given_of_optionalBoolean readQuoted)⟩
  unfold Load.parts at readParts
  split at readParts
  · cases readParts
    simp_all [given, Field.key]
  · cases readParts
    simp_all [given, Field.key]
  · rename_i elements found
    split at readParts
    · rename_i strings known
      cases readParts
      rw [eq_map_of_strings? known] at found
      simp_all [given, Field.key]
    · contradiction
  · contradiction

/-- The value of a literal that is read agrees with the members. Only where nothing is found it is
made of the text; `null` is kept as a value. -/
theorem scalarReading_of_ok {type : LiteralType} {text : String} {value : Scalar}
    (read : Load.scalar type text members path = .ok value) :
    ScalarReading members type text value := by
  unfold Load.scalar at read
  split at read
  · rename_i absent
    cases read
    exact .ofText absent
  · rename_i s found
    cases read
    exact .written found rfl
  · rename_i found
    cases read
    exact .written found rfl
  · rename_i b found
    cases read
    exact .written found rfl
  · rename_i n found
    cases read
    obtain ⟨same, lasts⟩ := Scalar.toJson_ofNumber n
    exact .written (by rw [same]; exact found) lasts
  · contradiction

/-- The literal that is read agrees with the members. The kind of a placeholder is the one given, or
else it is told from the text. -/
theorem atomReading_of_literal {header : Header} {node : Literal}
    (read : Load.literal header members path = .ok node) :
    node.toHeader = header ∧ AtomReading members (.literal node) := by
  obtain ⟨type, readType, read⟩ := bind_eq_ok_iff.mp read
  obtain ⟨value, readValue, read⟩ := bind_eq_ok_iff.mp read
  obtain ⟨kind, readKind, read⟩ := bind_eq_ok_iff.mp read
  cases read
  obtain ⟨tag, readTag, readType⟩ := bind_eq_ok_iff.mp readType
  obtain ⟨given?, readGiven, readKind⟩ := bind_eq_ok_iff.mp readKind
  have paramType : given "paramType" members = _ := given_of_optionalTag tag_eq_of_find? readGiven
  refine ⟨rfl, .literal ?_ (scalarReading_of_ok readValue) paramType ?_⟩
  · cases known : LiteralType.ofTag? tag with
    | none => simp [known] at readType
    | some found =>
      simp only [known, Except.ok.injEq] at readType
      subst readType
      have same : found.tag = tag := tag_eq_of_find? tag found known
      have written : lookup "literalType" members = _ := lookup_of_requiredString readTag
      rw [written, same]
  · cases given? <;> cases readKind <;> rfl

/-- The time span that is read agrees with the members. Its quantity is an integer that 64 bits
hold, so it is the one found. -/
theorem atomReading_of_timeInterval {header : Header} {node : TimeInterval}
    (read : Load.timeInterval header members path = .ok node) :
    node.toHeader = header ∧ AtomReading members (.timeInterval node) := by
  obtain ⟨quantity, readQuantity, read⟩ := bind_eq_ok_iff.mp read
  obtain ⟨unit, readUnit, read⟩ := bind_eq_ok_iff.mp read
  cases read
  refine ⟨rfl, .timeInterval ?_ (lookup_of_requiredString readUnit)⟩
  obtain ⟨⟨value, smaller⟩, readValue, readQuantity⟩ := bind_eq_ok_iff.mp readQuantity
  have found : lookup "quantity" members = some value := lookup_of_required readValue
  rw [found]
  split at readQuantity
  · rename_i n within same
    cases same
    split at readQuantity
    · rename_i m whole
      cases readQuantity
      rw [Json.Integer.ofInt64_of_toInt64? whole]
    · contradiction
  · contradiction

mutual

/-- The item that is read agrees with the members, its tag being the one asked for. The cases are
those of the kinds, in the order in which loading goes through them; a tag of no kind and that of
commands give an inert node. -/
theorem itemReading_of_ok (tag : String) (members : Members) (path : Path) (item : Item)
    (read : Load.item tag members path = .ok item) :
    item.tag = tag ∧ HeaderReading members item.header ∧ ItemReading members item := by
  rw [Load.item] at read
  obtain ⟨header, readHeader, read⟩ := bind_eq_ok_iff.mp read
  have headed := headerReading_of_ok readHeader
  cases known : Kind.ofTag? tag with
  | none =>
    simp only [known, Except.ok.injEq] at read
    subst read
    refine ⟨rfl, headed, .atom (.inert ?_)⟩
    rintro kind - rfl
    simp [Kind.ofTag?_tag] at known
  | some kind =>
    obtain rfl := (Kind.ofTag?_eq_some_iff tag kind).mp known
    cases kind with
    | function =>
      simp only [known] at read
      obtain ⟨form, readForm, read⟩ := bind_eq_ok_iff.mp read
      obtain ⟨⟨elements, smaller⟩, readElements, read⟩ := bind_eq_ok_iff.mp read
      obtain ⟨args, readArgs, read⟩ := bind_eq_ok_iff.mp read
      cases read
      have below := slotReadings_of_ok elements 0 _ args readArgs
      exact ⟨rfl, headed, .function (given_of_optionalTag tag_eq_of_find? readForm)
        (lookup_of_requiredArray readElements) below⟩
    | option =>
      simp only [known] at read
      obtain ⟨⟨elements, smaller⟩, readElements, read⟩ := bind_eq_ok_iff.mp read
      obtain ⟨args, readArgs, read⟩ := bind_eq_ok_iff.mp read
      cases read
      have below := slotReadings_of_ok elements 0 _ args readArgs
      exact ⟨rfl, headed, .option (lookup_of_requiredArray readElements) below⟩
    | list =>
      simp only [known] at read
      obtain ⟨⟨elements, smaller⟩, readElements, read⟩ := bind_eq_ok_iff.mp read
      obtain ⟨values, readValues, read⟩ := bind_eq_ok_iff.mp read
      cases read
      have below := slotReadings_of_ok elements 0 _ values readValues
      exact ⟨rfl, headed, .list (lookup_of_requiredArray readElements) below⟩
    | inlineCast =>
      simp only [known] at read
      obtain ⟨⟨operand, smaller⟩, readOperand, read⟩ := bind_eq_ok_iff.mp read
      obtain ⟨value, readValue, read⟩ := bind_eq_ok_iff.mp read
      obtain ⟨castType, readType, read⟩ := bind_eq_ok_iff.mp read
      cases read
      have below := slotReading_of_ok operand _ value readValue
      exact ⟨rfl, headed, .inlineCast (lookup_of_required readOperand) below
        (lookup_of_requiredString readType)⟩
    | source =>
      simp only [known] at read
      obtain ⟨node, readNode, read⟩ := bind_eq_ok_iff.mp read
      cases read
      obtain ⟨rfl, own⟩ := atomReading_of_source readNode
      exact ⟨rfl, headed, .atom own⟩
    | column =>
      simp only [known] at read
      obtain ⟨node, readNode, read⟩ := bind_eq_ok_iff.mp read
      cases read
      obtain ⟨rfl, own⟩ := atomReading_of_column readNode
      exact ⟨rfl, headed, .atom own⟩
    | literal =>
      simp only [known] at read
      obtain ⟨node, readNode, read⟩ := bind_eq_ok_iff.mp read
      cases read
      obtain ⟨rfl, own⟩ := atomReading_of_literal readNode
      exact ⟨rfl, headed, .atom own⟩
    | timeInterval =>
      simp only [known] at read
      obtain ⟨node, readNode, read⟩ := bind_eq_ok_iff.mp read
      cases read
      obtain ⟨rfl, own⟩ := atomReading_of_timeInterval readNode
      exact ⟨rfl, headed, .atom own⟩
    | mode =>
      simp only [known, Except.ok.injEq] at read
      subst read
      exact ⟨rfl, headed, .atom (.mode _)⟩
    | unknown =>
      simp only [known, Except.ok.injEq] at read
      subst read
      exact ⟨rfl, headed, .atom (.unclassified _)⟩
    | command =>
      simp only [known, Except.ok.injEq] at read
      subst read
      refine ⟨rfl, headed, .atom (.inert ?_)⟩
      intro kind notCommand same
      have found : Kind.ofTag? Kind.command.tag = some kind :=
        (Kind.ofTag?_eq_some_iff _ _).mpr same
      rw [known, Option.some.injEq] at found
      exact notCommand found.symm
termination_by sizeOf members

/-- The slot that is read agrees with the value. Only objects and arrays are read at all. -/
theorem slotReading_of_ok (value : Value) (path : Path) (slot : Slot)
    (read : Load.slot value path = .ok slot) : SlotReading value slot := by
  cases value with
  | array elements =>
    rw [Load.slot] at read
    obtain ⟨slots, readSlots, read⟩ := bind_eq_ok_iff.mp read
    cases read
    exact .seq (slotReadings_of_ok elements 0 path slots readSlots)
  | object members =>
    rw [Load.slot] at read
    obtain ⟨tag, readTag, read⟩ := bind_eq_ok_iff.mp read
    obtain ⟨item, readItem, read⟩ := bind_eq_ok_iff.mp read
    cases read
    obtain ⟨rfl, headed, own⟩ := itemReading_of_ok tag members path item readItem
    exact .single (lookup_of_tagOf readTag) headed own
  | _ => simp [Load.slot] at read
termination_by sizeOf value

/-- The slots that are read agree with the values one by one, the position being of importance for
errors only. -/
theorem slotReadings_of_ok (elements : List Value) (position : Nat) (path : Path)
    (slots : List Slot) (read : Load.slots elements position path = .ok slots) :
    SlotReadings elements slots := by
  cases elements with
  | nil =>
    rw [Load.slots] at read
    cases read
    exact .nil
  | cons element others =>
    rw [Load.slots] at read
    obtain ⟨first, readFirst, read⟩ := bind_eq_ok_iff.mp read
    obtain ⟨rest, readRest, read⟩ := bind_eq_ok_iff.mp read
    cases read
    exact .cons (slotReading_of_ok element _ first readFirst)
      (slotReadings_of_ok others _ path rest readRest)
termination_by sizeOf elements

end

mutual

/-- The command that is read agrees with the members. Its arguments are nodes again, so commands may
stand in them. -/
theorem commandReading_of_ok (members : Members) (path : Path) (node : Command)
    (tagged : lookup "type" members = some (.string Kind.command.tag))
    (read : Load.command members path = .ok node) :
    NodeReading (.object members) (.command node) := by
  rw [Load.command] at read
  obtain ⟨header, readHeader, read⟩ := bind_eq_ok_iff.mp read
  obtain ⟨⟨elements, smaller⟩, readElements, read⟩ := bind_eq_ok_iff.mp read
  obtain ⟨args, readArgs, read⟩ := bind_eq_ok_iff.mp read
  cases read
  have below := nodeReadings_of_ok elements 0 _ args readArgs
  exact .command tagged (headerReading_of_ok readHeader) (lookup_of_requiredArray readElements)
    below
termination_by sizeOf members

/-- The node that is read agrees with the value. An object with the tag of commands becomes a
command, any other object an item. -/
theorem nodeReading_of_ok (value : Value) (path : Path) (node : Node)
    (read : Load.node value path = .ok node) : NodeReading value node := by
  cases value with
  | array elements =>
    rw [Load.node] at read
    obtain ⟨nodes, readNodes, read⟩ := bind_eq_ok_iff.mp read
    cases read
    exact .seq (nodeReadings_of_ok elements 0 path nodes readNodes)
  | object members =>
    rw [Load.node] at read
    obtain ⟨tag, readTag, read⟩ := bind_eq_ok_iff.mp read
    have tagged := lookup_of_tagOf readTag
    split at read
    · rename_i command
      subst command
      obtain ⟨command, readCommand, read⟩ := bind_eq_ok_iff.mp read
      cases read
      exact commandReading_of_ok members path command tagged readCommand
    · rename_i other
      obtain ⟨item, readItem, read⟩ := bind_eq_ok_iff.mp read
      cases read
      obtain ⟨rfl, headed, own⟩ := itemReading_of_ok tag members path item readItem
      exact .single other tagged headed own
  | _ => simp [Load.node] at read
termination_by sizeOf value

/-- The nodes that are read agree with the values one by one, the position being of importance for
errors only. -/
theorem nodeReadings_of_ok (elements : List Value) (position : Nat) (path : Path)
    (nodes : List Node) (read : Load.nodes elements position path = .ok nodes) :
    NodeReadings elements nodes := by
  cases elements with
  | nil =>
    rw [Load.nodes] at read
    cases read
    exact .nil
  | cons element others =>
    rw [Load.nodes] at read
    obtain ⟨first, readFirst, read⟩ := bind_eq_ok_iff.mp read
    obtain ⟨rest, readRest, read⟩ := bind_eq_ok_iff.mp read
    cases read
    exact .cons (nodeReading_of_ok element _ first readFirst)
      (nodeReadings_of_ok others _ path rest readRest)
termination_by sizeOf elements

end

/-- The tree that is loaded agrees with the value. This is how later laws start: they take readings
apart and never look at how loading proceeds. -/
theorem rootReading_of_ok {value : Value} {root : Root} (read : Load.root value = .ok root) :
    RootReading value root := by
  unfold Load.root at read
  split at read
  · cases read
    exact .absent
  · obtain ⟨node, readNode, read⟩ := bind_eq_ok_iff.mp read
    cases read
    exact .present (nodeReading_of_ok value {} node readNode)

end Load

end EsqlTree
