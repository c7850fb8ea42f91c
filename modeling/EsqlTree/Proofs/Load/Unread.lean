import EsqlTree.Proofs.Load.FirstFault
import EsqlTree.Proofs.Load.Reading

/-!
# What is not read does not matter

Two values are alike if they differ only where loading does not look: under keys that are not
read for the tag and the place of their object, under keys of a location other than its ends,
and in whether a field that may be left out is absent or `null`. Such differences may be at any
number of objects at once and at any depth. Alike values are loaded as the same tree, or refused
with the same fault at the same path.

Which fields are read is taken from the table of what is asked of a node. Each reader of a field
sees no more of an object than its field is compared by, so the readers agree one by one.
-/

namespace EsqlTree

open Json (Value Members lookup given)

/-- True of two objects that agree in a field. Where the field may be left out, absence and `null`
agree; of a location that is an object just the ends count. -/
def Field.Agrees (field : Field) (left right : Members) : Prop :=
  match field with
  | .name | .text | .incomplete | .subtype | .sourceType | .cluster | .index | .parts | .quoted
  | .paramType => given field.key left = given field.key right
  | .location =>
    given field.key left = given field.key right ∨
      ∃ leftEnds rightEnds, lookup field.key left = some (.object leftEnds) ∧
        lookup field.key right = some (.object rightEnds) ∧
        lookup "min" leftEnds = lookup "min" rightEnds ∧
        lookup "max" leftEnds = lookup "max" rightEnds
  | .args | .literalType | .value | .values | .quantity | .unit | .castType =>
    lookup field.key left = lookup field.key right

/-- The fields of an object with a tag in a place that are read and hold no nodes. -/
def plainFields (place : Place) (tag : String) : List Field :=
  (headerRules ++ (Shape.of place tag).before ++ (Shape.of place tag).behind).map Rule.field

mutual

/-- True of two values in a place that differ only in what is not read there. -/
inductive Alike : Place → Value → Value → Prop
  | same {place : Place} {value : Value} : Alike place value value
  | array {place : Place} {lefts rights : List Value} (each : AlikeEach place lefts rights) :
      Alike place (.array lefts) (.array rights)
  | untagged {place : Place} {left right : Members}
      (leftTag : ∀ tag, lookup "type" left ≠ some (.string tag))
      (rightTag : ∀ tag, lookup "type" right ≠ some (.string tag)) :
      Alike place (.object left) (.object right)
  | object {place : Place} {tag : String} {left right : Members}
      (leftTag : lookup "type" left = some (.string tag))
      (rightTag : lookup "type" right = some (.string tag))
      (fields : ∀ field ∈ plainFields place tag, field.Agrees left right)
      (child : AlikeChild (Shape.of place tag).branch left right) :
      Alike place (.object left) (.object right)

/-- True of two objects that are alike in the field that holds nodes, if there is one. -/
inductive AlikeChild : Option Branch → Members → Members → Prop
  | leaf {left right : Members} : AlikeChild none left right
  | absent {branch : Branch} {left right : Members} (leftNone : lookup branch.field.key left = none)
      (rightNone : lookup branch.field.key right = none) : AlikeChild (some branch) left right
  | present {branch : Branch} {left right : Members} {leftValue rightValue : Value}
      (leftFound : lookup branch.field.key left = some leftValue)
      (rightFound : lookup branch.field.key right = some rightValue)
      (alike : Alike branch.place leftValue rightValue) : AlikeChild (some branch) left right

/-- True of values that are alike one by one. -/
inductive AlikeEach : Place → List Value → List Value → Prop
  | nil {place : Place} : AlikeEach place [] []
  | cons {place : Place} {left right : Value} {lefts rights : List Value}
      (first : Alike place left right) (rest : AlikeEach place lefts rights) :
      AlikeEach place (left :: lefts) (right :: rights)

end

/-- The keys that are read of an object with a tag in a place. -/
def keysRead (place : Place) (tag : String) : List String :=
  "type" :: (plainFields place tag).map Field.key ++
    (Shape.of place tag).branch.toList.map fun branch => branch.field.key

/-- Objects agree in a field if the same is found under its key. For fields that may be left out
this is more than is asked. -/
theorem Field.agrees_of_lookup_eq {field : Field} {left right : Members}
    (same : lookup field.key left = lookup field.key right) : field.Agrees left right := by
  have sameGiven : given field.key left = given field.key right := by rw [given, given, same]
  cases field with
  | location => exact .inl sameGiven
  | args | literalType | value | values | quantity | unit | castType => exact same
  | _ => exact sameGiven

/-- Objects are alike if the same is found under every key that is read, whatever there is under
others. The order and the number of members do not matter. -/
theorem alike_of_lookup_eq {place : Place} (tag : String) {left right : Members}
    (tagged : lookup "type" left = some (.string tag))
    (same : ∀ key ∈ keysRead place tag, lookup key left = lookup key right) :
    Alike place (.object left) (.object right) := by
  simp only [keysRead, List.mem_append, List.mem_cons, List.mem_map, Option.mem_toList] at same
  have rightTag : lookup "type" right = some (.string tag) := by
    rw [← same "type" (.inl (.inl rfl)), tagged]
  refine .object tagged rightTag (fun field member => ?_) ?_
  · exact Field.agrees_of_lookup_eq (same field.key (.inl (.inr ⟨field, member, rfl⟩)))
  · cases shape : (Shape.of place tag).branch with
    | none => exact .leaf
    | some branch =>
      have sameNodes := same branch.field.key (.inr ⟨branch, shape, rfl⟩)
      cases found : lookup branch.field.key left with
      | none => exact .absent found (sameNodes.symm.trans found)
      | some value => exact .present found (sameNodes.symm.trans found) .same

/-- No arguments are read of a command in a slot. -/
example : keysRead .slot "command" = ["type", "name", "text", "location", "incomplete"] := by decide

namespace Load

variable {left right : Members} {field : Field} {kind : Kind} {path : Path}

/-- A reader that returns one result wherever nothing is given reads alike where the same is
given. -/
theorem congr_of_given {α : Type} (read : Members → α) (default : α)
    (same : given field.key left = given field.key right)
    (found : lookup field.key left = lookup field.key right → read left = read right)
    (absent : ∀ members, lookup field.key members = none ∨ lookup field.key members = some .null →
      read members = default) : read left = read right := by
  cases leftGiven : given field.key left with
  | none =>
    have rightGiven := same.symm.trans leftGiven
    rw [absent left (Json.given_eq_none_iff.mp leftGiven),
      absent right (Json.given_eq_none_iff.mp rightGiven)]
  | some value =>
    obtain ⟨leftFound, _⟩ := Json.given_eq_some_iff.mp leftGiven
    obtain ⟨rightFound, _⟩ := Json.given_eq_some_iff.mp (same.symm.trans leftGiven)
    exact found (leftFound.trans rightFound.symm)

/-- An optional string is read alike where the same is given. Absent and `null` are one case for it.
-/
theorem optionalString_congr (same : given field.key left = given field.key right) :
    optionalString left field path = optionalString right field path := by
  refine congr_of_given (optionalString · field path) (.ok none) same
    (fun found => by simp only [optionalString, found]) ?_
  rintro members (absent | null)
  · simp only [optionalString, absent]
  · simp only [optionalString, null]

/-- An optional truth value is read alike where the same is given. Absent and `null` are one case
for it. -/
theorem optionalBoolean_congr (same : given field.key left = given field.key right) :
    optionalBoolean left field path = optionalBoolean right field path := by
  refine congr_of_given (optionalBoolean · field path) (.ok false) same
    (fun found => by simp only [optionalBoolean, found]) ?_
  rintro members (absent | null)
  · simp only [optionalBoolean, absent]
  · simp only [optionalBoolean, null]

/-- An optional tag is read alike where the same is given, as it is a string first. -/
theorem optionalTag_congr {α : Type} {ofTag? : String → Option α} {expected : Expectation}
    (same : given field.key left = given field.key right) :
    optionalTag ofTag? expected left field path = optionalTag ofTag? expected right field path := by
  rw [optionalTag, optionalTag, optionalString_congr same]

/-- The path segments of a column are read alike where the same are given; without any the column
has none. -/
theorem parts_congr (same : given Field.parts.key left = given Field.parts.key right) :
    Load.parts left path = Load.parts right path := by
  refine congr_of_given (Load.parts · path) (.ok []) same
    (fun found => by simp only [Load.parts, found]) ?_
  rintro members (absent | null)
  · simp only [Load.parts, absent]
  · simp only [Load.parts, null]

/-- A location is read alike where it agrees. Two objects with the same ends are read alike even if
they differ in their other members. -/
theorem location_congr (agrees : Field.location.Agrees left right) :
    Load.location left path = Load.location right path := by
  rcases agrees with same | ⟨leftEnds, rightEnds, leftFound, rightFound, min, max⟩
  · refine congr_of_given (Load.location · path) (.ok {}) same
      (fun found => by simp only [Load.location, found]) ?_
    rintro members (absent | null)
    · simp only [Load.location, absent]
    · simp only [Load.location, null]
  · simp only [Load.location, leftFound, rightFound, offset?, min, max]

/-- Reading what must be there goes on from what is found. That it is smaller than the members is of
no use to what follows, and so it can be forgotten. -/
theorem required_bind {α : Type} (members : Members) (next : Value → Except Fault α) :
    (required members field kind path >>= fun found => next found.val) =
      match lookup field.key members with
      | none => .error (.missingField path kind field)
      | some value => next value := by
  cases found : lookup field.key members with
  | none => rw [required_eq_error found, error_bind]
  | some value => rw [required_eq_ok found, ok_bind]

/-- Reading an array that must be there goes on from its elements. There are two ways of failing,
and neither depends on what follows. -/
theorem requiredArray_bind {α : Type} (members : Members) (next : List Value → Except Fault α) :
    (requiredArray members field kind path >>= fun found => next found.val) =
      match lookup field.key members with
      | none => .error (.missingField path kind field)
      | some (.array elements) => next elements
      | some _ => .error (.invalidField path field .array) := by
  cases found : lookup field.key members with
  | none => simp [requiredArray, required_eq_error found]
  | some value =>
    cases value with
    | array elements =>
      obtain ⟨_, read⟩ := requiredArray_eq_ok kind path found
      rw [read, ok_bind]
    | _ => simp [requiredArray, required_eq_ok found]

/-- A string that must be there is read alike where the same is found, failures included. -/
theorem requiredString_congr (same : lookup field.key left = lookup field.key right) :
    requiredString left field kind path = requiredString right field kind path := by
  rw [requiredString, requiredString]
  cases found : lookup field.key left with
  | none =>
    rw [required_eq_error found, required_eq_error (same.symm.trans found)]
    rfl
  | some value =>
    rw [required_eq_ok found, required_eq_ok (same.symm.trans found)]
    cases value <;> rfl

/-- The number of units of a time span is read alike where the same is found, failures included. -/
theorem quantity_congr (same : lookup Field.quantity.key left = lookup Field.quantity.key right) :
    Load.quantity left path = Load.quantity right path := by
  rw [Load.quantity, Load.quantity]
  cases found : lookup Field.quantity.key left with
  | none =>
    rw [required_eq_error found, required_eq_error (same.symm.trans found)]
    rfl
  | some value =>
    rw [required_eq_ok found, required_eq_ok (same.symm.trans found)]
    cases value with
    | number n => cases n <;> rfl
    | _ => rfl

/-- The type of a literal is read alike where the same is found, as it is a required string first.
-/
theorem literalType_congr
    (same : lookup Field.literalType.key left = lookup Field.literalType.key right) :
    Load.literalType left path = Load.literalType right path := by
  rw [Load.literalType, Load.literalType, requiredString_congr same]

/-- The value of a literal is read alike where the same is found. Here absent and `null` are told
apart, so it is not enough that the same is given. -/
theorem scalar_congr {type : LiteralType} {text : String}
    (same : lookup Field.value.key left = lookup Field.value.key right) :
    Load.scalar type text left path = Load.scalar type text right path := by
  rw [Load.scalar, Load.scalar, same]

/-- The way a placeholder refers to its value is read alike where the same is given, and the text is
not read again for it. -/
theorem paramKind_congr {type : LiteralType} {text : String}
    (same : given Field.paramType.key left = given Field.paramType.key right) :
    Load.paramKind type text left path = Load.paramKind type text right path := by
  rw [Load.paramKind, Load.paramKind, optionalTag_congr same]

/-- A header is read alike where its fields agree, which are read of an object with any tag. -/
theorem header_congr {place : Place} {tag : String}
    (fields : ∀ field ∈ plainFields place tag, field.Agrees left right) :
    Load.header left path = Load.header right path := by
  simp only [plainFields, headerRules, List.cons_append, List.map_cons, List.forall_mem_cons,
    Field.Agrees] at fields
  obtain ⟨name, text, location, incomplete, _⟩ := fields
  rw [Load.header, Load.header, optionalString_congr name, optionalString_congr text,
    location_congr location, optionalBoolean_congr incomplete]

section

variable {header : Header}

/-- A source is read alike where its fields agree, all three of which may be left out. -/
theorem source_congr (type : Field.sourceType.Agrees left right)
    (cluster : Field.cluster.Agrees left right) (index : Field.index.Agrees left right) :
    Load.source header left path = Load.source header right path := by
  rw [Load.source, Load.source, optionalTag_congr type, optionalString_congr cluster,
    optionalString_congr index]

/-- A column is read alike where its fields agree, both of which may be left out. -/
theorem column_congr (parts : Field.parts.Agrees left right)
    (quoted : Field.quoted.Agrees left right) :
    Load.column header left path = Load.column header right path := by
  rw [Load.column, Load.column, parts_congr parts, optionalBoolean_congr quoted]

/-- A literal is read alike where its fields agree. The header is the same one on both sides, so
what is made of the text is as well. -/
theorem literal_congr (type : Field.literalType.Agrees left right)
    (value : Field.value.Agrees left right) (kind : Field.paramType.Agrees left right) :
    Load.literal header left path = Load.literal header right path := by
  simp only [Load.literal, literalType_congr type, scalar_congr value, paramKind_congr kind]

/-- A time span is read alike where its fields agree, both of which must be there. -/
theorem timeInterval_congr (quantity : Field.quantity.Agrees left right)
    (unit : Field.unit.Agrees left right) :
    Load.timeInterval header left path = Load.timeInterval header right path := by
  rw [Load.timeInterval, Load.timeInterval, quantity_congr quantity, requiredString_congr unit]

end

/-- An object without a tag is refused for that, before anything else in it is looked at. -/
theorem tagOf_eq_error {members : Members}
    (untagged : ∀ tag, lookup "type" members ≠ some (.string tag)) :
    tagOf members path = .error (.missingType path) := by
  unfold tagOf
  split
  · rename_i tag found
    exact absurd found (untagged tag)
  · rfl

/-- A field that holds an array of nodes is read alike where it is alike, if its elements are. -/
theorem requiredArray_congr {α : Type} {expected : List Expectation} {step : Step} {place : Place}
    (next : List Value → Except Fault α)
    (child : AlikeChild (some ⟨kind, field, expected, step, place⟩) left right)
    (entered : ∀ lefts rights, sizeOf lefts < sizeOf left → AlikeEach place lefts rights →
      next lefts = next rights) :
    (requiredArray left field kind path >>= fun found => next found.val) =
      requiredArray right field kind path >>= fun found => next found.val := by
  rw [requiredArray_bind, requiredArray_bind]
  cases child with
  | absent leftNone rightNone => simp only [leftNone, rightNone]
  | present leftFound rightFound alike =>
    have smaller := Json.sizeOf_lookup leftFound
    simp only [leftFound, rightFound]
    -- An object on one side is one on the other, and no array is read off either.
    cases alike with
    | same => rfl
    | array each =>
      rw [Value.array.sizeOf_spec] at smaller
      exact entered _ _ (by omega) each
    | untagged _ _ => rfl
    | object _ _ _ _ => rfl

/-- A field that holds a node is read alike where it is alike, if its node is. The hypothesis is
only asked of values smaller than the object, on which the recursion is. -/
theorem required_congr {α : Type} {expected : List Expectation} {step : Step} {place : Place}
    (next : Value → Except Fault α)
    (child : AlikeChild (some ⟨kind, field, expected, step, place⟩) left right)
    (entered : ∀ leftValue rightValue, sizeOf leftValue < sizeOf left →
      Alike place leftValue rightValue → next leftValue = next rightValue) :
    (required left field kind path >>= fun found => next found.val) =
      required right field kind path >>= fun found => next found.val := by
  rw [required_bind, required_bind]
  cases child with
  | absent leftNone rightNone => simp only [leftNone, rightNone]
  | present leftFound rightFound alike =>
    simp only [leftFound, rightFound]
    exact entered _ _ (Json.sizeOf_lookup leftFound) alike

-- The recursion goes down the left value. What is found under a key is smaller than the object,
-- and that is known only within the reader of the key.
mutual

/-- An item is read alike from objects that are alike in a slot. The header comes first; then the
kind of the tag says which fields agree and which of them holds nodes. -/
theorem item_congr (tag : String) (left right : Members) (path : Path)
    (fields : ∀ field ∈ plainFields .slot tag, field.Agrees left right)
    (child : AlikeChild (Shape.of .slot tag).branch left right) :
    Load.item tag left path = Load.item tag right path := by
  have own : ∀ field ∈ ((Shape.of .slot tag).before ++ (Shape.of .slot tag).behind).map Rule.field,
      field.Agrees left right := by
    intro field member
    refine fields field ?_
    rw [plainFields, List.append_assoc, List.map_append]
    exact List.mem_append_right _ member
  rw [Load.item, Load.item, header_congr fields]
  congr 1
  funext header
  cases known : Kind.ofTag? tag with
  | none => rfl
  | some kind =>
    simp only [Shape.of, known] at own child
    cases kind with
    | function =>
      simp only [List.append_nil, List.map_cons, List.map_nil, List.forall_mem_singleton] at own
      simp only [optionalTag_congr own]
      congr 1
      funext form
      refine requiredArray_congr (fun elements => do
        let args ← slots elements 0 (path.child .args)
        .ok (Item.function { header with form, args })) child fun lefts rights smaller each => ?_
      rw [slots_congr lefts rights 0 (path.child .args) each]
    | option =>
      dsimp only
      refine requiredArray_congr (fun elements => do
        let args ← slots elements 0 (path.child .args)
        .ok (Item.option { header with args })) child fun lefts rights smaller each => ?_
      rw [slots_congr lefts rights 0 (path.child .args) each]
    | list =>
      dsimp only
      refine requiredArray_congr (fun elements => do
        let values ← slots elements 0 (path.child .values)
        .ok (Item.list { header with values })) child fun lefts rights smaller each => ?_
      rw [slots_congr lefts rights 0 (path.child .values) each]
    | inlineCast =>
      simp only [List.nil_append, List.map_cons, List.map_nil, List.forall_mem_singleton] at own
      simp only [requiredString_congr own]
      refine required_congr (fun operand => do
        let value ← slot operand (path.child .value)
        let castType ← requiredString right .castType .inlineCast path
        .ok (Item.inlineCast { header with value, castType })) child
        fun leftValue rightValue smaller alike => ?_
      rw [slot_congr leftValue rightValue (path.child .value) alike]
    | source =>
      simp only [List.append_nil, List.map_cons, List.map_nil, List.forall_mem_cons] at own
      obtain ⟨type, cluster, index, _⟩ := own
      simp only [source_congr type cluster index]
    | column =>
      simp only [List.append_nil, List.map_cons, List.map_nil, List.forall_mem_cons] at own
      obtain ⟨parts, quoted, _⟩ := own
      simp only [column_congr parts quoted]
    | literal =>
      simp only [List.append_nil, List.map_cons, List.map_nil, List.forall_mem_cons] at own
      obtain ⟨type, value, kind, _⟩ := own
      simp only [literal_congr type value kind]
    | timeInterval =>
      simp only [List.append_nil, List.map_cons, List.map_nil, List.forall_mem_cons] at own
      obtain ⟨quantity, unit, _⟩ := own
      simp only [timeInterval_congr quantity unit]
    | command | mode | unknown => rfl
termination_by sizeOf left

/-- A slot is loaded alike from values that are alike. Two objects without a tag are refused alike,
whatever else they hold. -/
theorem slot_congr (left right : Value) (path : Path) (alike : Alike .slot left right) :
    Load.slot left path = Load.slot right path := by
  cases alike with
  | same => rfl
  | array each =>
    rw [Load.slot, Load.slot, slots_congr _ _ 0 path each]
  | untagged leftTag rightTag =>
    rw [Load.slot, Load.slot, tagOf_eq_error leftTag, tagOf_eq_error rightTag]
    rfl
  | object leftTag rightTag fields child =>
    rw [Load.slot, Load.slot, tagOf_eq_ok leftTag, tagOf_eq_ok rightTag, ok_bind, ok_bind,
      item_congr _ _ _ path fields child]
termination_by sizeOf left

/-- Slots are loaded alike from values that are alike one by one, with the same positions in their
paths. -/
theorem slots_congr (lefts rights : List Value) (position : Nat) (path : Path)
    (each : AlikeEach .slot lefts rights) :
    Load.slots lefts position path = Load.slots rights position path := by
  cases each with
  | nil => rfl
  | cons first rest =>
    rw [Load.slots, Load.slots, slot_congr _ _ (path.child (.index position)) first,
      slots_congr _ _ (position + 1) path rest]
termination_by sizeOf lefts

end

mutual

/-- A command is read alike from objects that are alike in the place of a node, where its arguments
are read. -/
theorem command_congr (left right : Members) (path : Path)
    (fields : ∀ field ∈ plainFields .node Kind.command.tag, field.Agrees left right)
    (child : AlikeChild (Shape.of .node Kind.command.tag).branch left right) :
    Load.command left path = Load.command right path := by
  have shape : (Shape.of .node Kind.command.tag).branch =
      some ⟨.command, .args, [.array], .args, .node⟩ := rfl
  rw [shape] at child
  rw [Load.command, Load.command, header_congr fields]
  congr 1
  funext header
  dsimp only
  refine requiredArray_congr (fun elements => do
    let args ← nodes elements 0 (path.child .args)
    .ok ({ header with args } : Command)) child fun lefts rights smaller each => ?_
  rw [nodes_congr lefts rights 0 (path.child .args) each]
termination_by sizeOf left

/-- A node is loaded alike from values that are alike. Both have the same tag, so both are commands
or both are items. -/
theorem node_congr (left right : Value) (path : Path) (alike : Alike .node left right) :
    Load.node left path = Load.node right path := by
  cases alike with
  | same => rfl
  | array each =>
    rw [Load.node, Load.node, nodes_congr _ _ 0 path each]
  | untagged leftTag rightTag =>
    rw [Load.node, Load.node, tagOf_eq_error leftTag, tagOf_eq_error rightTag]
    rfl
  | @object _ tag left right leftTag rightTag fields child =>
    rw [Load.node, Load.node, tagOf_eq_ok leftTag, tagOf_eq_ok rightTag, ok_bind, ok_bind]
    by_cases command : tag = Kind.command.tag
    · subst command
      rw [if_pos rfl, if_pos rfl, command_congr left right path fields child]
    · rw [plainFields, shape_of_node command] at fields
      rw [shape_of_node command] at child
      rw [if_neg command, if_neg command, item_congr tag left right path fields child]
termination_by sizeOf left

/-- Nodes are loaded alike from values that are alike one by one, with the same positions in their
paths. -/
theorem nodes_congr (lefts rights : List Value) (position : Nat) (path : Path)
    (each : AlikeEach .node lefts rights) :
    Load.nodes lefts position path = Load.nodes rights position path := by
  cases each with
  | nil => rfl
  | cons first rest =>
    rw [Load.nodes, Load.nodes, node_congr _ _ (path.child (.index position)) first,
      nodes_congr _ _ (position + 1) path rest]
termination_by sizeOf lefts

end

end Load

/-- Values that differ only in what is not read, at any number of objects and at any depth, are
loaded as the same tree or refused with the same fault.

Proof: a reader looks up keys, and what is alike has the same under every key that is looked up. By
induction on the likeness, the values below are read alike too. -/
theorem load_eq_of_alike (left right : Value) (alike : Alike .node left right) :
    Load.root left = Load.root right := by
  cases alike with
  | same => rfl
  | array each =>
    exact congrArg (· >>= fun node => .ok (some node)) (Load.node_congr _ _ {} (.array each))
  | untagged leftTag rightTag =>
    exact congrArg (· >>= fun node => .ok (some node))
      (Load.node_congr _ _ {} (.untagged leftTag rightTag))
  | object leftTag rightTag fields child =>
    exact congrArg (· >>= fun node => .ok (some node))
      (Load.node_congr _ _ {} (.object leftTag rightTag fields child))

/-- A call as it is told in few words. -/
def terseCall : Value :=
  .object [("type", .string "function"), ("name", .string "f"),
    ("location", .object [("min", .number (.ofUInt32 1)), ("max", .number (.ofUInt32 2))]),
    ("args", .array [.object [("type", .string "command")], .object [("type", .string "mystery")]])]

/-- The same call in more words, none of which is read: a `null`, a further key of the location,
and arguments where there are none to be read. -/
def wordyCall : Value :=
  .object [("type", .string "function"), ("name", .string "f"), ("subtype", .null),
    ("location", .object [("line", .null), ("min", .number (.ofUInt32 1)),
      ("max", .number (.ofUInt32 2))]),
    ("args", .array [.object [("type", .string "command"), ("args", .boolean false)],
      .object [("type", .string "mystery"), ("args", .array [.null])]])]

/-- A command with one argument, told with further members. -/
def whereCommand (argument : Value) (further : Members) : Value :=
  .object ([("type", .string "command"), ("name", .string "where"), ("args", .array [argument])] ++
    further)

/-- A command is loaded alike with either wording of a call in it, and more words of its own. The
differences are at three depths, in nodes and in slots. -/
theorem load_whereCommand :
    Alike .node (whereCommand terseCall [])
        (whereCommand wordyCall [("text", .null), ("values", .boolean true)]) ∧
      Load.root (whereCommand terseCall []) =
        Load.root (whereCommand wordyCall [("text", .null), ("values", .boolean true)]) ∧
      (Load.root (whereCommand terseCall [])).isOk = true := by
  have ofCommand : plainFields .node "command" = [.name, .text, .location, .incomplete] := by decide
  have ofFunction : plainFields .node "function" =
      [.name, .text, .location, .incomplete, .subtype] := by decide
  have inSlot : keysRead .slot "command" = ["type", "name", "text", "location", "incomplete"] := by
    decide
  have ofMystery : keysRead .slot "mystery" =
      ["type", "name", "text", "location", "incomplete"] := by
    decide
  have command : Alike .slot (.object [("type", .string "command")])
      (.object [("type", .string "command"), ("args", .boolean false)]) :=
    alike_of_lookup_eq "command" (by simp) (by simp [inSlot])
  have mystery : Alike .slot (.object [("type", .string "mystery")])
      (.object [("type", .string "mystery"), ("args", .array [.null])]) :=
    alike_of_lookup_eq "mystery" (by simp) (by simp [ofMystery])
  have call : Alike .node terseCall wordyCall := by
    refine @Alike.object .node "function" _ _ rfl rfl ?_ ?_
    · simp [ofFunction, Field.Agrees, Field.key, given]
    · exact .present rfl rfl (.array (.cons command (.cons mystery .nil)))
  have alike : Alike .node (whereCommand terseCall [])
      (whereCommand wordyCall [("text", .null), ("values", .boolean true)]) := by
    refine @Alike.object .node "command" _ _ rfl rfl ?_ ?_
    · simp [ofCommand, Field.Agrees, Field.key, given]
    · exact .present rfl rfl (.array (.cons call .nil))
  exact ⟨alike, load_eq_of_alike _ _ alike, by decide +kernel⟩

end EsqlTree
