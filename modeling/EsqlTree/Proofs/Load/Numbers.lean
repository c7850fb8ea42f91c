import EsqlTree.Proofs.Load.Integers
import EsqlTree.Proofs.Load.Replaced

/-!
# Numbers are kept

Three fields hold numbers, each within bounds of its own: the value of a literal any number, the
quantity of a time span the integers that 64 bits hold with a sign, and each end of a location those
that 32 bits hold without one. A number within the bounds is stored and written as it is, and one
that is not makes the node be refused. In no field is a number wrapped or rounded.
-/

namespace EsqlTree

open Json (Value Members lookup)

/-- True of a JSON integer that is there and lies between two bounds. -/
def Json.IntegerWithin (lower upper : Int) (found : Option Value) : Prop :=
  ∃ n : Json.Integer, found = some (.number (.integer n)) ∧ lower ≤ n.val ∧ n.val ≤ upper

/-- An offset is an integer of 32 bits without a sign. The check and the bounds say the same of one
number, and anything else is no integer. -/
theorem isOffset_iff_within (found : Option Value) :
    isOffset found = true ↔ Json.IntegerWithin 0 4294967295 found := by
  constructor
  · intro offset
    unfold isOffset at offset
    split at offset
    · rename_i n
      have bounds : 0 ≤ n.val ∧ n.val < 4294967296 := of_decide_eq_true offset
      exact ⟨n, rfl, bounds.1, by omega⟩
    · contradiction
  · rintro ⟨n, rfl, lower, upper⟩
    simp only [isOffset, decide_eq_true_eq]
    omega

/-- A quantity is an integer of 64 bits with a sign. Its lower bound holds of every integer that
JSON has, so only the upper one is checked. -/
theorem admits_integer_iff (value : Value) : Expectation.integer.admits value = true ↔
    Json.IntegerWithin (-9223372036854775808) 9223372036854775807 (some value) := by
  constructor
  · intro admitted
    cases value with
    | number number =>
      cases number with
      | integer n =>
        have bound : n.val < 9223372036854775808 := of_decide_eq_true admitted
        exact ⟨n, rfl, n.lower, by omega⟩
      | float x => simp [Expectation.admits] at admitted
    | _ => simp [Expectation.admits] at admitted
  · rintro ⟨n, same, _, upper⟩
    cases same
    simp only [Expectation.admits, decide_eq_true_eq]
    omega

/-- A value is written under a key of an object. -/
def Json.Writes (json : Value) (key : String) (value : Value) : Prop :=
  ∃ written, json = .object written ∧ lookup key written = some value

/-- An item is written with its location, whatever its kind is, because the members of its header
stand in front of its own. -/
theorem Item.writes_location (item : Item) :
    Json.Writes item.toJson "location" item.header.location.toJson := by
  rcases item with (_ | _ | _ | _ | _ | _ | _) | ⟨_, _, _⟩ | ⟨_, _⟩ | ⟨_, _⟩ | ⟨_, _, _⟩
  all_goals
    refine ⟨_, rfl, ?_⟩
    simp [Header.members, Item.header, Atom.header]

/-- A command is written with its location, which stands in front of its arguments. -/
theorem Command.writes_location (node : Command) :
    Json.Writes node.toJson "location" node.location.toJson := by
  obtain ⟨header, args⟩ := node
  refine ⟨_, rfl, ?_⟩
  simp [Header.members]

/-- A literal is written with its value, under a key that no header has. -/
theorem Literal.writes_value (node : Literal) :
    Json.Writes node.toJson "value" node.value.toJson := by
  refine ⟨_, rfl, ?_⟩
  simp [Header.members]

/-- A time span is written with its quantity, under a key that no header has. -/
theorem TimeInterval.writes_quantity (node : TimeInterval) :
    Json.Writes node.toJson "quantity" (.number (.ofInt64 node.quantity)) := by
  refine ⟨_, rfl, ?_⟩
  simp [Header.members]

/-- What the object of a node is loaded as, by its header and by the way in which it is written: an
item, or a command. -/
inductive Load.LoadsAs (members : Members) (path : Path) : Header → Value → Prop
  | item {tag : String} {item : Item} (loaded : Load.item tag members path = .ok item) :
      LoadsAs members path item.header item.toJson
  | command {node : Command} (loaded : Load.command members path = .ok node) :
      LoadsAs members path node.toHeader node.toJson

/-- A header is that of the object, and it is written with its location. For items this is known
from their reading; a command is taken apart into the steps of its loading. -/
theorem Load.LoadsAs.header {members : Members} {path : Path} {header : Header} {json : Value}
    (loads : LoadsAs members path header json) :
    HeaderReading members header ∧ Json.Writes json "location" header.location.toJson := by
  cases loads with
  | item loaded =>
    obtain ⟨_, headed, _⟩ := itemReading_of_ok _ members path _ loaded
    exact ⟨headed, Item.writes_location _⟩
  | command loaded =>
    rw [Load.command] at loaded
    obtain ⟨header, readHeader, loaded⟩ := bind_eq_ok_iff.mp loaded
    obtain ⟨_, _, loaded⟩ := bind_eq_ok_iff.mp loaded
    obtain ⟨args, _, loaded⟩ := bind_eq_ok_iff.mp loaded
    cases loaded
    exact ⟨headerReading_of_ok readHeader, Command.writes_location _⟩

namespace Scalar

/-- The integer that a value is, if it is one. -/
def whole? : Scalar → Option Int
  | .integer k => some k.toInt
  | .unsigned k => some k.toNat
  | _ => none

/-- True of the values that literals have, be they anywhere in a tree that was loaded or made by a
type of a text. -/
inductive Arises : Scalar → Prop
  | loaded {value : Value} {root : Root} {place : Place} {node : Literal}
      (read : Load.root value = .ok root) (listed : (place, .literal node) ∈ root.atoms) :
      Arises node.value
  | made (type : LiteralType) (text : String) : Arises (Literal.ofText type text).value

/-- An unsigned integer arises only above the signed ones. Either it was read from a number, which
would be a signed one below that, or it was made of a text, where signed ones are tried first. -/
theorem Arises.large {value : Scalar} (arises : Arises value) {k : UInt64}
    (unsigned : value = .unsigned k) : 9223372036854775807 < k.toNat := by
  cases arises with
  | loaded read listed =>
    obtain ⟨members, leaf⟩ := (Load.rootReading_of_ok read).exists_leafReading listed
    cases leaf.own with
    | literal type value paramType kind => exact value.large k unsigned
  | made type text => exact large_of_ofText unsigned

/-- Two integers that arise are one value exactly if they are one number. A signed and an unsigned
one cannot be one number, because the unsigned is above all that are signed. -/
theorem Arises.eq_iff {left right : Scalar} (arisesLeft : Arises left) (arisesRight : Arises right)
    {m n : Int} (isLeft : left.whole? = some m) (isRight : right.whole? = some n) :
    left = right ↔ m = n := by
  constructor
  · rintro rfl
    exact Option.some.inj (isLeft.symm.trans isRight)
  · rintro rfl
    cases left with
    | integer j =>
      cases right with
      | integer k =>
        have same : j.toInt = k.toInt := Option.some.inj (isLeft.trans isRight.symm)
        rw [Int64.toInt_inj.mp same]
      | unsigned k =>
        have same : j.toInt = k.toNat := Option.some.inj (isLeft.trans isRight.symm)
        have large := arisesRight.large rfl
        have bound := j.toInt_lt
        omega
      | _ => simp [whole?] at isRight
    | unsigned j =>
      cases right with
      | integer k =>
        have same : (j.toNat : Int) = k.toInt := Option.some.inj (isLeft.trans isRight.symm)
        have large := arisesLeft.large rfl
        have bound := k.toInt_lt
        omega
      | unsigned k =>
        have same : (j.toNat : Int) = k.toNat := Option.some.inj (isLeft.trans isRight.symm)
        rw [UInt64.toNat_inj.mp (Int.ofNat_inj.mp same)]
      | _ => simp [whole?] at isRight
    | _ => simp [whole?] at isLeft

/-- Equality of integers by value is equality. Only for decimals it is something else, as a NaN is
not the same as itself. -/
theorem same_iff_of_whole? {left right : Scalar} {m : Int} (integral : left.whole? = some m) :
    left.same right = true ↔ left = right := by
  cases left with
  | integer j => simp [same]
  | unsigned j => simp [same]
  | _ => simp [whole?] at integral

end Scalar

section

variable {place : Place} {members : Members} {path : Path}

/-- Any number may be given as the value of a literal. Of a value nothing else is asked than that it
is no array and no object. -/
theorem Load.refusal?_value (tagged : lookup "type" members = some (.string Kind.literal.tag))
    (accepted : refusal? place (.object members) path = none) (number : Json.Number) :
    refusal? place (.object (members ++ [("value", .number number)])) path = none :=
  refusal?_append_eq tagged (onlyRule_value place) accepted (by simp)

/-- A quantity that is given is refused unless it is an integer of 64 bits with a sign, whatever
else the object holds. -/
theorem Load.refusal?_quantity
    (tagged : lookup "type" members = some (.string Kind.timeInterval.tag))
    (accepted : refusal? place (.object members) path = none) (quantity : Value) :
    refusal? place (.object (members ++ [("quantity", quantity)])) path =
      if Expectation.integer.admits quantity then none
      else some (.invalidField path .quantity .integer) :=
  refusal?_append_eq tagged (onlyRule_quantity place) accepted (by simp)

/-- A location that is given as an object is refused unless both ends are offsets. Their order does
not matter, nor do further members. -/
theorem Load.refusal?_location {tag : String} (tagged : lookup "type" members = some (.string tag))
    (accepted : refusal? place (.object members) path = none) (ends : Members) :
    refusal? place (.object (members ++ [("location", .object ends)])) path =
      if isOffset (lookup "min" ends) && isOffset (lookup "max" ends) then none
      else some (.invalidField path .location .location) :=
  refusal?_append_eq tagged (onlyRule_location place tag) accepted (by simp)

end

/-- The value of a literal that is given as a number holds it and is written as it. The literal was
read with this value, and what is written of a value read from a number is that number. -/
theorem Load.value_kept {members : Members} {path : Path} {node : Literal} {number : Json.Number}
    (loaded : Load.item Kind.literal.tag members path = .ok (.atom (.literal node)))
    (given : lookup "value" members = some (.number number)) :
    Scalar.Holds number node.value ∧ Json.Writes node.toJson "value" (.number number) := by
  have value : node.value = .ofNumber number := (scalarReading_of_item loaded).eq_ofNumber given
  have writes := node.writes_value
  rw [value, (Scalar.toJson_ofNumber number).1] at writes
  rw [value]
  exact ⟨Scalar.holds_ofNumber number, writes⟩

/-- The quantity of a time span is the integer that is given, and it is written as it. The reading
of the time span has found that integer under its key. -/
theorem Load.quantity_kept {members : Members} {path : Path} {node : TimeInterval}
    (loaded : Load.item Kind.timeInterval.tag members path = .ok (.atom (.timeInterval node))) :
    ∃ n : Json.Integer, lookup "quantity" members = some (.number (.integer n)) ∧
      node.quantity.toInt = n.val ∧
      Json.Writes node.toJson "quantity" (.number (.integer n)) := by
  obtain ⟨_, _, own⟩ := itemReading_of_ok _ members path _ loaded
  cases own with
  | atom own =>
    cases own with
    | timeInterval quantity unit => exact ⟨_, quantity, rfl, node.writes_quantity⟩

/-- The ends of a location are the integers that are given, and they are written as these. The
header agrees with the members, so they were found under their keys. -/
theorem Load.LoadsAs.location_kept {members : Members} {path : Path} {header : Header}
    {json : Value} (loads : LoadsAs members path header json) {ends : Members}
    (given : lookup "location" members = some (.object ends)) :
    ∃ min max : Json.Integer, lookup "min" ends = some (.number (.integer min)) ∧
      lookup "max" ends = some (.number (.integer max)) ∧
      (header.location.min.toNat : Int) = min.val ∧ (header.location.max.toNat : Int) = max.val ∧
      Json.Writes json "location"
        (.object [("min", .number (.integer min)), ("max", .number (.integer max))]) := by
  obtain ⟨headed, writes⟩ := loads.header
  have there : Json.given "location" members = some (.object ends) :=
    Json.given_eq_some_iff.mpr ⟨given, by simp⟩
  rcases headed.location with ⟨absent, _⟩ | ⟨found, same, first, last⟩
  · rw [there] at absent
    contradiction
  · obtain rfl : ends = found := by simpa [there] using same
    exact ⟨_, _, first, last, rfl, rfl, writes⟩

/-- No number is wrapped or rounded on its way through a tree. A literal may have any number as its
value: it holds it, and is written with it. An unsigned integer arises only above the signed ones,
so integers are one value exactly if they are one number. A time span may have the integers of 64
bits with a sign as its quantity, and a node may have offsets of 32 bits without a sign as the ends
of its location, in any order: they are stored and written as they are, and all else is refused, be
it a floating-point number that is whole. -/
theorem numbers_kept :
    (∀ place members path, lookup "type" members = some (.string Kind.literal.tag) →
      Load.refusal? place (.object members) path = none → ∀ number,
        Load.refusal? place (.object (members ++ [("value", .number number)])) path = none) ∧
    (∀ members path node number,
      Load.item Kind.literal.tag members path = .ok (.atom (.literal node)) →
      lookup "value" members = some (.number number) →
        Scalar.Holds number node.value ∧ Json.Writes node.toJson "value" (.number number)) ∧
    (∀ value k, Scalar.Arises value → value = .unsigned k → 9223372036854775807 < k.toNat) ∧
    (∀ left right m n, Scalar.Arises left → Scalar.Arises right → left.whole? = some m →
      right.whole? = some n → ((left = right ↔ m = n) ∧ (left.same right = true ↔ m = n))) ∧
    (∀ place members path, lookup "type" members = some (.string Kind.timeInterval.tag) →
      Load.refusal? place (.object members) path = none → ∀ quantity,
        (Json.IntegerWithin (-9223372036854775808) 9223372036854775807 (some quantity) →
          Load.refusal? place (.object (members ++ [("quantity", quantity)])) path = none) ∧
        (¬ Json.IntegerWithin (-9223372036854775808) 9223372036854775807 (some quantity) →
          Load.refusal? place (.object (members ++ [("quantity", quantity)])) path =
            some (.invalidField path .quantity .integer))) ∧
    (∀ members path node,
      Load.item Kind.timeInterval.tag members path = .ok (.atom (.timeInterval node)) →
        ∃ n : Json.Integer, lookup "quantity" members = some (.number (.integer n)) ∧
          node.quantity.toInt = n.val ∧
          Json.Writes node.toJson "quantity" (.number (.integer n))) ∧
    (∀ place members path tag, lookup "type" members = some (.string tag) →
      Load.refusal? place (.object members) path = none → ∀ ends,
        (Json.IntegerWithin 0 4294967295 (lookup "min" ends) ∧
            Json.IntegerWithin 0 4294967295 (lookup "max" ends) →
          Load.refusal? place (.object (members ++ [("location", .object ends)])) path = none) ∧
        (¬ (Json.IntegerWithin 0 4294967295 (lookup "min" ends) ∧
            Json.IntegerWithin 0 4294967295 (lookup "max" ends)) →
          Load.refusal? place (.object (members ++ [("location", .object ends)])) path =
            some (.invalidField path .location .location))) ∧
    (∀ members path header json ends, Load.LoadsAs members path header json →
      lookup "location" members = some (.object ends) →
        ∃ min max : Json.Integer, lookup "min" ends = some (.number (.integer min)) ∧
          lookup "max" ends = some (.number (.integer max)) ∧
          (header.location.min.toNat : Int) = min.val ∧
          (header.location.max.toNat : Int) = max.val ∧
          Json.Writes json "location"
            (.object [("min", .number (.integer min)), ("max", .number (.integer max))])) := by
  refine ⟨?_, ?_, ?_, ?_, ?_, ?_, ?_, ?_⟩
  · intro place members path tagged accepted number
    exact Load.refusal?_value tagged accepted number
  · intro members path node number loaded given
    exact Load.value_kept loaded given
  · intro value k arises unsigned
    exact arises.large unsigned
  · intro left right m n arisesLeft arisesRight isLeft isRight
    have equal := arisesLeft.eq_iff arisesRight isLeft isRight
    exact ⟨equal, (Scalar.same_iff_of_whole? isLeft).trans equal⟩
  · intro place members path tagged accepted quantity
    rw [Load.refusal?_quantity tagged accepted, ← admits_integer_iff]
    exact ⟨fun within => if_pos within, fun outside => if_neg outside⟩
  · intro members path node loaded
    exact Load.quantity_kept loaded
  · intro place members path tag tagged accepted ends
    rw [Load.refusal?_location tagged accepted, ← isOffset_iff_within, ← isOffset_iff_within,
      ← Bool.and_eq_true]
    exact ⟨fun within => if_pos within, fun outside => if_neg outside⟩
  · intro members path header json ends loads given
    exact loads.location_kept given

/-- The object of a day. -/
def day : Members :=
  [("type", .string "timeInterval"), ("quantity", .number (.ofInt64 1)), ("unit", .string "day")]

/-- A day is accepted with the least quantity, but not with one above the greatest, nor with the
floating-point number one. It is accepted with ends in reverse order, but not with one beyond 32
bits. -/
theorem numbers_kept_day :
    Load.refusal? .slot (.object (day ++ [("quantity", .number (.ofInt64 Int64.minValue))])) {} =
      none ∧
    Load.refusal? .slot
        (.object (day ++ [("quantity", .number (.ofUInt64 9223372036854775808))])) {} =
      some (.invalidField {} .quantity .integer) ∧
    Load.refusal? .slot
        (.object (day ++ [("quantity", .number (.float ⟨Binary64.ofNat 1, by decide⟩))])) {} =
      some (.invalidField {} .quantity .integer) ∧
    Load.refusal? .node (.object (day ++ [("location", .object
        [("min", .number (.ofUInt32 4294967295)), ("max", .number (.ofUInt32 0))])])) {} = none ∧
    Load.refusal? .node (.object (day ++ [("location", .object
        [("min", .number (.ofUInt32 0)), ("max", .number (.ofUInt64 4294967296))])])) {} =
      some (.invalidField {} .location .location) := by
  obtain ⟨_, _, _, _, quantity, _, location, _⟩ := numbers_kept
  have tagged : lookup "type" day = some (.string Kind.timeInterval.tag) := by simp [day, Kind.tag]
  have inSlot : Load.refusal? .slot (.object day) {} = none := by decide +kernel
  have inNode : Load.refusal? .node (.object day) {} = none := by decide +kernel
  refine ⟨?_, ?_, ?_, ?_, ?_⟩
  · exact (quantity .slot day {} tagged inSlot _).1 ⟨_, rfl, by decide, by decide⟩
  · refine (quantity .slot day {} tagged inSlot _).2 ?_
    rintro ⟨n, same, _, upper⟩
    cases same
    exact absurd upper (by decide)
  · refine (quantity .slot day {} tagged inSlot _).2 ?_
    rintro ⟨n, same, _⟩
    cases same
  · exact (location .node day {} _ tagged inNode _).1
      ⟨⟨_, rfl, by decide, by decide⟩, ⟨_, rfl, by decide, by decide⟩⟩
  · refine (location .node day {} _ tagged inNode _).2 ?_
    rintro ⟨_, n, same, _, upper⟩
    cases same
    exact absurd upper (by decide)

end EsqlTree
