import EsqlTree.Tree.Load

/-!
# What the fields of a node are read as

Each reader of a field looks up one key, so what it returns depends on what is found
there and on nothing else. The laws below say what a reader returns where the field
is as it should be; an absent field and its value are one case where the reader
allows both.
-/

namespace EsqlTree.Load

open Json (Value Members lookup)

section

variable {ε α β : Type}

@[simp] theorem ok_bind (value : α) (next : α → Except ε β) :
    (Except.ok value >>= next) = next value := rfl

@[simp] theorem error_bind (error : ε) (next : α → Except ε β) :
    ((Except.error error : Except ε α) >>= next) = .error error := rfl

/-- Two steps succeed exactly if the first does and the second does behind it. So a reader that
succeeds can be taken apart into its steps. -/
theorem bind_eq_ok_iff {first : Except ε α} {next : α → Except ε β} {result : β} :
    (first >>= next) = .ok result ↔ ∃ value, first = .ok value ∧ next value = .ok result := by
  cases first <;> simp

end

/-- An integer that 32 bits hold without a sign is kept by them, as it is by the conversion to a
natural number. -/
theorem toNat_uint32 {n : Int} (lower : 0 ≤ n) (upper : n < 4294967296) :
    ((UInt32.ofNat n.toNat).toNat : Int) = n := by
  have small : n.toNat < UInt32.size := by
    rw [UInt32.size]
    omega
  rw [UInt32.toNat_ofNat_of_lt' small]
  omega

/-- An integer that 64 bits hold without a sign is kept by them, as it is by the conversion to a
natural number. -/
theorem toNat_uint64 {n : Int} (lower : 0 ≤ n) (upper : n < 18446744073709551616) :
    ((UInt64.ofNat n.toNat).toNat : Int) = n := by
  have small : n.toNat < UInt64.size := by
    rw [UInt64.size]
    omega
  rw [UInt64.toNat_ofNat_of_lt' small]
  omega

variable {members : Members} {field : Field} {kind : Kind} {path : Path}

/-- A string under `type` is the tag, whether or not some kind has it. -/
theorem tagOf_eq_ok {tag : String} (found : lookup "type" members = some (.string tag)) :
    tagOf members path = .ok tag := by
  simp only [tagOf, found]

/-- An optional string is read as it was written or left out. Both cases are one law, because it is
stated with the option that is read. -/
theorem optionalString_eq_ok {value : Option String}
    (found : lookup field.key members = value.map .string) :
    optionalString members field path = .ok value := by
  cases value <;> simp_all [optionalString]

/-- An optional truth value is read as it was written. It is always written, so being left out is no
case here. -/
theorem optionalBoolean_eq_ok {value : Bool}
    (found : lookup field.key members = some (.boolean value)) :
    optionalBoolean members field path = .ok value := by
  simp only [optionalBoolean, found]

/-- An optional tag is read as what it stands for, if tags are told apart. That they are is a
hypothesis, which every type with tags fulfils. -/
theorem optionalTag_eq_ok {α : Type} {ofTag? : String → Option α} {tag : α → String}
    {expected : Expectation} {value : Option α} (inverse : ∀ a, ofTag? (tag a) = some a)
    (found : lookup field.key members = value.map fun a => .string (tag a)) :
    optionalTag ofTag? expected members field path = .ok value := by
  have written : lookup field.key members = (value.map tag).map .string := by
    rw [found, Option.map_map]
    rfl
  cases value <;> simp [optionalTag, optionalString_eq_ok written, inverse]

/-- A field that is there is read as it is, together with the fact that it is smaller than the
members, on which loading recurs. -/
theorem required_eq_ok {value : Value} (found : lookup field.key members = some value) :
    required members field kind path = .ok ⟨value, Json.sizeOf_lookup found⟩ := by
  unfold required
  split
  · rename_i other present
    cases present.symm.trans found
    rfl
  · simp_all

/-- A field that must be there is missed where it is not, by the kind that needs it. -/
theorem required_eq_error (absent : lookup field.key members = none) :
    required members field kind path = .error (.missingField path kind field) := by
  unfold required
  split
  · simp_all
  · rfl

/-- A string that is there is read as it is. -/
theorem requiredString_eq_ok {value : String}
    (found : lookup field.key members = some (.string value)) :
    requiredString members field kind path = .ok value := by
  simp [requiredString, required_eq_ok found]

/-- An array that is there is read as it is. Its elements are smaller than the members, since the
array is. -/
theorem requiredArray_eq_ok {elements : List Value} (kind : Kind) (path : Path)
    (found : lookup field.key members = some (.array elements)) :
    ∃ smaller, requiredArray members field kind path = .ok ⟨elements, smaller⟩ := by
  have smaller : sizeOf elements < sizeOf members := by
    have whole := Json.sizeOf_lookup found
    simp only [Value.array.sizeOf_spec] at whole
    omega
  exact ⟨smaller, by simp [requiredArray, required_eq_ok found]⟩

/-- An offset is read as it was written, because every number of 32 bits is within the bounds. -/
theorem offset?_eq_some {key : String} {offset : UInt32}
    (found : lookup key members = some (.number (.ofUInt32 offset))) :
    offset? key members = some offset := by
  have bound : 0 ≤ (offset.toNat : Int) ∧ (offset.toNat : Int) < 4294967296 := by
    have below := offset.toNat_lt
    omega
  simp only [offset?, found, Json.Number.ofUInt32, Json.Integer.toUInt32?, if_pos bound,
    Int.toNat_natCast, UInt32.ofNat_toNat]

/-- A location with both offsets is read, whatever else its object holds. -/
theorem location_eq_ok {ends : Members} {min max : UInt32}
    (first : offset? "min" ends = some min) (last : offset? "max" ends = some max)
    (found : lookup Field.location.key members = some (.object ends)) :
    Load.location members path = .ok { min, max } := by
  simp only [Load.location, found, first, last]

/-- A location is read as it was written. Its object has the two offsets under keys that differ. -/
theorem location_toJson_eq_ok {location : Location}
    (found : lookup Field.location.key members = some location.toJson) :
    Load.location members path = .ok location := by
  have first : offset? "min" [("min", .number (.ofUInt32 location.min)),
      ("max", .number (.ofUInt32 location.max))] = some location.min :=
    offset?_eq_some (by simp [lookup])
  have last : offset? "max" [("min", .number (.ofUInt32 location.min)),
      ("max", .number (.ofUInt32 location.max))] = some location.max :=
    offset?_eq_some (by simp [lookup])
  exact location_eq_ok first last found

/-- A header is read from its four fields. Where they are written as they are, no default is needed.
-/
theorem header_eq_ok {header : Header}
    (name : lookup Field.name.key members = some (.string header.name))
    (text : lookup Field.text.key members = some (.string header.text))
    (location : lookup Field.location.key members = some header.location.toJson)
    (incomplete : lookup Field.incomplete.key members = some (.boolean header.incomplete)) :
    Load.header members path = .ok header := by
  have readName : optionalString members .name path = .ok (some header.name) :=
    optionalString_eq_ok name
  have readText : optionalString members .text path = .ok (some header.text) :=
    optionalString_eq_ok text
  simp only [Load.header, readName, readText, location_toJson_eq_ok location,
    optionalBoolean_eq_ok incomplete, ok_bind, Option.getD_some]

/-- The path segments of a column are read as they were written, one by one. -/
theorem strings?_map (parts : List String) : strings? (parts.map .string) = some parts := by
  induction parts with
  | nil => rfl
  | cons part others inOthers => simp [strings?, inOthers]

end EsqlTree.Load
