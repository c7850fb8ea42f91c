import EsqlTree.Decimal.Binary64

/-!
# JSON values

A value as a JSON text denotes it. Numbers are integers while they fit 64 bits,
with or without sign, and finite floating-point numbers otherwise; a value holds
no other number. The members of an object stand in the order in which they were
written. A key may be written more than once: `lookup` finds the last member with
that key, so the earlier ones have no effect on anything that is read by key.
-/

namespace EsqlTree.Json

/-- An integer that a JSON number keeps exactly. -/
structure Integer where
  /-- The integer. -/
  val : Int
  /-- It is not below the least signed integer of 64 bits. -/
  lower : -9223372036854775808 ≤ val
  /-- It is not above the greatest unsigned integer of 64 bits. -/
  upper : val < 18446744073709551616
deriving DecidableEq

/-- A JSON number. -/
inductive Number where
  /-- An integer that was written without fraction and exponent. -/
  | integer (n : Integer)
  /-- Any other number. -/
  | float (x : FiniteBinary64)
deriving DecidableEq

/-- A JSON value. -/
inductive Value where
  /-- The literal `null`. -/
  | null
  /-- A truth value. -/
  | boolean (b : Bool)
  /-- A number. -/
  | number (n : Number)
  /-- A string. -/
  | string (s : String)
  /-- An array, element by element. -/
  | array (elements : List Value)
  /-- An object, member by member as written. -/
  | object (members : List (String × Value))

/-- The members of an object as written. -/
abbrev Members := List (String × Value)

/-- The value of a key: that of the last member that has it. -/
def lookup (key : String) : Members → Option Value
  | [] => none
  | (name, value) :: later =>
    match lookup key later with
    | some last => some last
    | none => if name = key then some value else none

/-- The keys of an object in ascending order of their characters, each once, with
the values that `lookup` finds. -/
def entries (members : Members) : Members :=
  let keys := (members.map Prod.fst).eraseDups.mergeSort (fun left right => decide (left ≤ right))
  keys.filterMap fun key => (lookup key members).map fun value => (key, value)

/-- The kinds of JSON values. -/
inductive Kind where
  | null
  | boolean
  | number
  | string
  | array
  | object
deriving DecidableEq, Repr

/-- The kind of a value. -/
def Value.kind : Value → Kind
  | .null => .null
  | .boolean _ => .boolean
  | .number _ => .number
  | .string _ => .string
  | .array _ => .array
  | .object _ => .object

/-- A signed integer of 64 bits as a number. -/
def Number.ofInt64 (n : Int64) : Number :=
  .integer ⟨n.toInt, n.le_toInt, Int.lt_trans n.toInt_lt (by decide)⟩

/-- An unsigned integer of 64 bits as a number. -/
def Number.ofUInt64 (n : UInt64) : Number :=
  .integer ⟨n.toNat, by omega, by have := n.toNat_lt; omega⟩

/-- An unsigned integer of 32 bits as a number. -/
def Number.ofUInt32 (n : UInt32) : Number :=
  .integer ⟨n.toNat, by omega, by have := n.toNat_lt; omega⟩

/-- A finite floating-point number as a number; an infinity or NaN is none. -/
def Number.ofBinary64? (x : Binary64) : Option Number :=
  if finite : x.isFinite then some (.float ⟨x, finite⟩) else none

/-- The integer, if it is one that 64 bits hold with a sign. -/
def Integer.toInt64? (n : Integer) : Option Int64 :=
  if n.val < 9223372036854775808 then some (Int64.ofInt n.val) else none

/-- The integer, if it is one that 32 bits hold without a sign. -/
def Integer.toUInt32? (n : Integer) : Option UInt32 :=
  if 0 ≤ n.val ∧ n.val < 4294967296 then some (UInt32.ofNat n.val.toNat) else none

@[simp] theorem lookup_nil (key : String) : lookup key [] = none := rfl

/-- A member is found unless a later one hides it. -/
@[simp] theorem lookup_cons (key name : String) (value : Value) (later : Members) :
    lookup key ((name, value) :: later) =
      (lookup key later).or (if name = key then some value else none) := by
  cases found : lookup key later <;> simp [lookup, found]

/-- Members that are written later hide earlier ones of the same key. -/
@[simp] theorem lookup_append (key : String) (front back : Members) :
    lookup key (front ++ back) = (lookup key back).or (lookup key front) := by
  induction front with
  | nil => simp
  | cons member later inLater =>
    obtain ⟨name, value⟩ := member
    rw [List.cons_append, lookup_cons, inLater, lookup_cons, Option.or_assoc]

/-- A lookup fails exactly for the keys that no member has. -/
theorem lookup_eq_none_iff (key : String) (members : Members) :
    lookup key members = none ↔ key ∉ members.map Prod.fst := by
  induction members with
  | nil => simp
  | cons member later inLater =>
    obtain ⟨name, value⟩ := member
    rw [lookup_cons, Option.or_eq_none_iff, inLater, List.map_cons, List.mem_cons, not_or, and_comm]
    simp [eq_comm]

/-- What a lookup finds is smaller than the members it is found among, which is
why recursion into looked-up members ends. -/
theorem sizeOf_lookup {key : String} {members : Members} {value : Value}
    (found : lookup key members = some value) : sizeOf value < sizeOf members := by
  induction members with
  | nil => simp [lookup] at found
  | cons member later inLater =>
    obtain ⟨name, first⟩ := member
    simp only [lookup] at found
    cases last : lookup key later with
    | some other =>
      simp only [last, Option.some.injEq] at found
      subst found
      have := inLater last
      simp only [List.cons.sizeOf_spec]
      omega
    | none =>
      simp only [last] at found
      split at found
      · simp only [Option.some.injEq] at found
        subst found
        simp only [List.cons.sizeOf_spec, Prod.mk.sizeOf_spec]
        omega
      · simp at found

end EsqlTree.Json
