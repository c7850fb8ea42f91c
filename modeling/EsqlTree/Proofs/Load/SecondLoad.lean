import EsqlTree.Proofs.Load.Leaves
import EsqlTree.Proofs.Tree.AtomMap

/-!
# Loading a loaded tree again

A tree that was loaded is written as a value that loads again. What comes back is the
tree itself but for decimals that are infinite or NaN: these are written as `null` and
come back as that. Such a decimal has one origin, a literal of type decimal that gives no
value and whose text denotes one; a value that is given is always kept.
-/

namespace EsqlTree

open Json (Value Members lookup)

/-- A value as it is once it was written: an infinity or NaN is lost. -/
def Scalar.settled : Scalar → Scalar
  | .decimal x => if x.isFinite then .decimal x else .null
  | value => value

/-- A literal with its value settled, any other atom as it is. -/
def Atom.settled : Atom → Atom
  | .literal node => .literal { node with value := node.value.settled }
  | node => node

/-- The decimal that an atom holds, if it is a literal that holds one. -/
def Atom.decimal? : Atom → Option Binary64
  | .literal { value := .decimal x, .. } => some x
  | _ => none

/-- A settled value is written as the value itself, since an infinity or NaN is written as `null`
anyway. -/
theorem Scalar.toJson_settled (value : Scalar) : value.settled.toJson = value.toJson := by
  cases value with
  | decimal x =>
    cases finite : x.isFinite <;>
      simp [settled, toJson, Json.Number.ofBinary64?, finite]
  | _ => rfl

/-- A settled atom is written as the atom itself. Only a literal has something to settle, and that
is its value. -/
theorem Atom.toJson_settled (node : Atom) : node.settled.toJson = node.toJson := by
  cases node with
  | literal node => simp only [settled, toJson, Literal.toJson, Scalar.toJson_settled]
  | _ => rfl

/-- An atom is settled exactly if it holds no infinity and no NaN, which can be asked of its decimal
alone. -/
theorem Atom.settled_eq_self_iff (node : Atom) :
    node.settled = node ↔ ∀ x, node.decimal? = some x → x.isFinite = true := by
  cases node with
  | literal node =>
    obtain ⟨header, type, value, kind⟩ := node
    cases value with
    | decimal x => cases finite : x.isFinite <;> simp [settled, Scalar.settled, decimal?, finite]
    | _ => simp [settled, Scalar.settled, decimal?]
  | _ => simp [settled, decimal?]

/-- An atom without a decimal is settled, as there is nothing that could be lost. -/
theorem Atom.settled_of_decimal?_eq_none {node : Atom} (none : node.decimal? = none) :
    node.settled = node := by
  rw [settled_eq_self_iff, none]
  rintro x ⟨⟩

/-- A settled value lasts unless it is a small unsigned integer. That one would be written as a
number which is read as a signed integer. -/
theorem Scalar.reread_settled {value : Scalar}
    (large : ∀ n, value = .unsigned n → 9223372036854775807 < n.toNat) :
    value.settled.reread = value.settled := by
  rw [Scalar.reread_eq_self_iff]
  cases value with
  | decimal x => cases finite : x.isFinite <;> simp [settled, finite]
  | _ => simp_all [settled]

/-- A number as an unsigned integer, if 64 bits hold it without a sign. -/
def Scalar.bounded? (magnitude : Nat) : Option UInt64 :=
  if magnitude ≤ 18446744073709551615 then some (UInt64.ofNat magnitude) else none

/-- A bounded number is kept, because the bound is the greatest number that 64 bits hold. -/
theorem Scalar.toNat_of_bounded? {magnitude : Nat} {n : UInt64}
    (bounded : bounded? magnitude = some n) : n.toNat = magnitude := by
  unfold bounded? at bounded
  split at bounded
  · cases bounded
    have small : magnitude < UInt64.size := by
      rw [UInt64.size]
      omega
    exact UInt64.toNat_ofNat_of_lt' small
  · contradiction

/-- Behind a plus, an unsigned integer is a bounded number, whose digits may begin with zeros. -/
theorem Scalar.uint64?_plus (rest : List Char) :
    uint64? ('+' :: rest) = (Text.natural? rest).bind bounded? := by
  unfold uint64?
  cases read : Text.natural? rest <;> simp [read, bounded?]

/-- Without a plus, an unsigned integer is a bounded number as well. A minus is no exception, as it
is no digit. -/
theorem Scalar.uint64?_plain {text : List Char} (noPlus : ∀ rest, text ≠ '+' :: rest) :
    uint64? text = (Text.natural? text).bind bounded? := by
  unfold uint64?
  split
  · rename_i rest
    exact absurd rfl (noPlus rest)
  · cases read : Text.natural? text <;> simp [read, bounded?]

/-- A numeral that is read as an unsigned integer has digits behind no minus. So signed integers,
which look for a sign first, are read of the same digits. -/
theorem Scalar.natural?_of_uint64? {text : List Char} {n : UInt64} (read : uint64? text = some n) :
    ∃ digits, Decimal.takeSign text = (false, digits) ∧ Text.natural? digits = some n.toNat := by
  unfold Decimal.takeSign
  split
  · rename_i rest
    have none : Text.natural? ('-' :: rest) = none := rfl
    rw [uint64?_plain (by simp), none] at read
    contradiction
  · rename_i rest
    rw [uint64?_plus] at read
    obtain ⟨magnitude, denoted, bounded⟩ := Option.bind_eq_some_iff.mp read
    exact ⟨rest, rfl, by rw [denoted, toNat_of_bounded? bounded]⟩
  · rename_i noMinus noPlus
    rw [uint64?_plain noPlus] at read
    obtain ⟨magnitude, denoted, bounded⟩ := Option.bind_eq_some_iff.mp read
    exact ⟨text, rfl, by rw [denoted, toNat_of_bounded? bounded]⟩

/-- A text that is read as an unsigned integer, and not as a signed one, denotes one that exceeds
the signed ones. Were it small, the same digits would have been read as a signed one. -/
theorem Scalar.large_of_uint64? {text : List Char} {n : UInt64} (read : uint64? text = some n)
    (unsigned : int64? text = none) : 9223372036854775807 < n.toNat := by
  obtain ⟨digits, sign, denoted⟩ := natural?_of_uint64? read
  by_cases small : n.toNat ≤ 9223372036854775807
  · have bound : -9223372036854775808 ≤ (n.toNat : Int) ∧
        (n.toNat : Int) ≤ 9223372036854775807 := by
      omega
    simp [int64?, sign, denoted, bound] at unsigned
  · omega

/-- A type makes an unsigned integer of a text only above the signed ones. Only the type integer
makes any, and it tries the signed ones first. -/
theorem Scalar.large_of_ofText {type : LiteralType} {text : String} {n : UInt64}
    (made : ofText type text = .unsigned n) : 9223372036854775807 < n.toNat := by
  cases type with
  | integer =>
    cases signed : int64? text.toList with
    | some m => simp [ofText, signed] at made
    | none =>
      cases read : uint64? text.toList with
      | none => simp [ofText, signed, read] at made
      | some m =>
        simp only [ofText, signed, read, Scalar.unsigned.injEq] at made
        exact made ▸ large_of_uint64? read signed
  | decimal => cases read : Decimal.read? text <;> simp [ofText, read] at made
  | boolean => cases read : truth? text <;> simp [ofText, read] at made
  | _ => simp [ofText] at made

/-- Only the decimal type makes a decimal of a text, namely the one that the text denotes. The other
types make their own sort of value, or leave a string. -/
theorem Scalar.ofText_eq_decimal_iff {type : LiteralType} {text : String} {x : Binary64} :
    ofText type text = .decimal x ↔ type = .decimal ∧ Decimal.read? text = some x := by
  cases type with
  | integer =>
    cases signed : int64? text.toList with
    | some m => simp [ofText, signed]
    | none => cases read : uint64? text.toList <;> simp [ofText, signed, read]
  | decimal => cases read : Decimal.read? text <;> simp [ofText, read]
  | boolean => cases read : truth? text <;> simp [ofText, read]
  | _ => simp [ofText]

section

variable {members : Members}

/-- An unsigned integer that is read exceeds the signed ones, be it found as a number or made of the
text. -/
theorem ScalarReading.large {type : LiteralType} {text : String} {value : Scalar}
    (reading : ScalarReading members type text value) :
    ∀ n, value = .unsigned n → 9223372036854775807 < n.toNat := by
  cases reading with
  | written found lasts => exact (value.reread_eq_self_iff.mp lasts).1
  | ofText absent => exact fun n made => Scalar.large_of_ofText made

/-- An atom that is read from a leaf lasts once it is settled. A placeholder has been given its kind
already, and an inert node has no tag by which it would be read as something else. -/
theorem LeafReading.settled_lasts {entry : Place × Atom} (leaf : LeafReading members entry) :
    entry.2.settled.Lasts entry.1 := by
  obtain ⟨place, atom⟩ := entry
  obtain ⟨tagged, headed, own, inSlot⟩ := leaf
  cases own with
  | literal type value paramType kind =>
    refine (Literal.reread_eq_self_iff _).mpr ⟨Scalar.reread_settled value.large, ?_⟩
    intro placeholder
    simp only at placeholder
    rw [kind, placeholder, if_pos rfl]
    simp
  | inert other =>
    intro kind same
    by_cases command : kind = .command
    · subst command
      cases place with
      | node => exact absurd same.symm (inSlot rfl)
      | slot => exact ⟨rfl, rfl⟩
    · exact absurd same (other kind command)
  | _ => trivial

/-- An infinity or NaN is read exactly if no value is written and the type makes it of the text. A
value that is written lasts, which neither of them does. -/
theorem ScalarReading.eq_decimal_iff {type : LiteralType} {text : String} {value : Scalar}
    (reading : ScalarReading members type text value) {x : Binary64} (lost : x.isFinite = false) :
    value = .decimal x ↔
      type = .decimal ∧ lookup "value" members = none ∧ Decimal.read? text = some x := by
  cases reading with
  | written found lasts =>
    constructor
    · rintro rfl
      have finite := (Scalar.reread_eq_self_iff _).mp lasts
      rw [finite.2 x rfl] at lost
      contradiction
    · rintro ⟨_, absent, _⟩
      rw [found] at absent
      contradiction
  | ofText absent => rw [Scalar.ofText_eq_decimal_iff, absent, eq_self, true_and]

/-- The members are those of a literal of type decimal that gives no value and whose text
denotes a number. -/
structure DecimalText (members : Members) (x : Binary64) : Prop where
  /-- It is tagged as a literal. -/
  tagged : lookup "type" members = some (.string "literal")
  /-- It is said to be a decimal. -/
  typed : lookup "literalType" members = some (.string "decimal")
  /-- No value is written, not even `null`. -/
  absent : lookup "value" members = none
  /-- The text, or the name without one, denotes the number. -/
  denoted : Decimal.read? (textIn members) = some x

/-- An infinity or NaN is read from a leaf exactly if the text of a decimal denotes it. Of the atoms
only a literal can hold one, and only a literal has that tag. -/
theorem LeafReading.decimal?_eq_some_iff {entry : Place × Atom}
    (leaf : LeafReading members entry) {x : Binary64} (lost : x.isFinite = false) :
    entry.2.decimal? = some x ↔ DecimalText members x := by
  obtain ⟨place, atom⟩ := entry
  obtain ⟨tagged, headed, own, inSlot⟩ := leaf
  cases own with
  | @literal node given? type value paramType kind =>
    have held : (Atom.literal node).decimal? = some x ↔ node.value = .decimal x := by
      obtain ⟨header, literalType, scalar, paramKind⟩ := node
      cases scalar <;> simp [Atom.decimal?]
    have text : textIn members = node.text := headed.textIn_eq
    rw [held, value.eq_decimal_iff lost]
    constructor
    · rintro ⟨decimal, absent, denoted⟩
      exact ⟨tagged, by rw [type, decimal, LiteralType.tag], absent, by rw [text, denoted]⟩
    · rintro ⟨_, typed, absent, denoted⟩
      have decimal : node.literalType = .decimal := by
        rw [type] at typed
        cases same : node.literalType <;> simp [same, LiteralType.tag] at typed
        rfl
      exact ⟨decimal, absent, text ▸ denoted⟩
  | inert other =>
    constructor
    · intro held
      contradiction
    · rintro ⟨literal, _⟩
      rw [tagged, Option.some.injEq, Value.string.injEq] at literal
      exact absurd literal.symm (other .literal (by decide))
  | _ =>
    constructor
    · intro held
      contradiction
    · rintro ⟨literal, _⟩
      simp [tagged, Atom.tag, Kind.tag] at literal

end

/-- A tree whose atoms last is loaded as it was written. The absent tree is `null` in both
directions. -/
theorem Load.root_toJson_of_allLast {root : Root} (lasts : AllLast root.atoms) :
    Load.root root.toJson = .ok root := by
  cases root with
  | none => rfl
  | some node => exact Load.root_of_node ((Load.node_eq_ok_iff {} node).mpr lasts)

/-- The atoms of a tree that agrees with a value last once they are settled, since each of them
comes from a leaf. -/
theorem RootReading.allLast_settled {value : Value} {root : Root}
    (reading : RootReading value root) : AllLast (root.mapAtoms Atom.settled).atoms := by
  rw [Root.atoms_mapAtoms]
  rintro entry listed
  obtain ⟨source, member, rfl⟩ := List.mem_map.mp listed
  obtain ⟨members, leaf⟩ := reading.exists_leafReading member
  exact leaf.settled_lasts

/-- An atom of a tree that agrees with a value lasts if it is settled already, and need not be
changed for that. -/
theorem RootReading.lasts {value : Value} {root : Root} (reading : RootReading value root)
    {entry : Place × Atom} (listed : entry ∈ root.atoms)
    (settled : entry.2.settled = entry.2) : entry.2.Lasts entry.1 := by
  obtain ⟨members, leaf⟩ := reading.exists_leafReading listed
  have lasts := leaf.settled_lasts
  rwa [settled] at lasts

/-- The atoms of a tree that agrees with a value last if all are settled already. So the tree as it
stands is loaded from what is written of it. -/
theorem RootReading.allLast {value : Value} {root : Root} (reading : RootReading value root)
    (settled : ∀ entry ∈ root.atoms, entry.2.settled = entry.2) : AllLast root.atoms :=
  fun entry listed => reading.lasts listed (settled entry listed)

/-- The atoms of a tree that stays itself once they are settled are settled already. The atoms are
listed in order before and after, and the two lists are compared entry by entry. -/
theorem Root.settled_of_mapAtoms_eq_self {root : Root} (same : root.mapAtoms Atom.settled = root) :
    ∀ entry ∈ root.atoms, entry.2.settled = entry.2 := by
  have replaced := root.atoms_mapAtoms Atom.settled
  rw [same] at replaced
  have each := List.map_inj_left.mp ((List.map_id root.atoms).trans replaced)
  intro entry listed
  exact (congrArg Prod.snd (each entry listed)).symm

/-- A loaded tree loads again as itself, but for infinities and NaN, which are lost. It is
therefore the same tree exactly if it holds none. Each of these comes from a leaf of the
value, by the text of a decimal and in no other way.

Proof: a tree is written as its settled tree is, and the settled tree is loaded as it was written.
Whether settling changes anything is asked leaf by leaf, and the leaves of value and tree stand in
one order. -/
theorem second_load_eq_settled (value : Value) (root : Root) (loaded : Load.root value = .ok root) :
    Load.root root.toJson = .ok (root.mapAtoms Atom.settled) ∧
      (Load.root root.toJson = .ok root ↔
        ∀ entry ∈ root.atoms, ∀ x, entry.2.decimal? = some x → x.isFinite = true) ∧
      List.Forall₂
        (fun members entry => ∀ x, x.isFinite = false →
          (entry.2.decimal? = some x ↔ DecimalText members x))
        (leaves .node value) root.atoms := by
  have reading := Load.rootReading_of_ok loaded
  have again : Load.root root.toJson = .ok (root.mapAtoms Atom.settled) := by
    rw [← Root.toJson_mapAtoms Atom.toJson_settled root]
    exact Load.root_toJson_of_allLast reading.allLast_settled
  refine ⟨again, ?_, ?_⟩
  · simp only [← Atom.settled_eq_self_iff]
    constructor
    · intro same
      rw [again] at same
      exact Root.settled_of_mapAtoms_eq_self (Except.ok.inj same)
    · intro settled
      exact Load.root_toJson_of_allLast (reading.allLast settled)
  · refine reading.leafReadings.imp ?_
    intro members entry leaf x lost
    exact leaf.decimal?_eq_some_iff lost

/-- A cast whose operand is a decimal beyond the greatest number, told by its name alone. -/
def overflowing : Value :=
  .object [("type", .string "inlineCast"), ("castType", .string "double"),
    ("value", .object [("type", .string "literal"), ("literalType", .string "decimal"),
      ("name", .string "1e999")])]

/-- The overflowing cast is loaded with an infinity, which is lost when it is loaded again: the text
of the literal is kept, but `null` stands as its value now. -/
theorem second_load_overflowing :
    ∃ root, Load.root overflowing = .ok root ∧
      root.atoms.map (fun entry => entry.2.decimal?) = [some (Binary64.infinity false)] ∧
      Load.root root.toJson = .ok (root.mapAtoms Atom.settled) ∧
      Load.root root.toJson ≠ .ok root := by
  have infinite : (Load.root overflowing).map
      (fun root => root.atoms.map fun entry => entry.2.decimal?) =
        .ok [some (Binary64.infinity false)] := by
    decide +kernel
  cases loaded : Load.root overflowing with
  | error fault =>
    rw [loaded] at infinite
    contradiction
  | ok root =>
    rw [loaded] at infinite
    have held : root.atoms.map (fun entry => entry.2.decimal?) =
        [some (Binary64.infinity false)] := Except.ok.inj infinite
    obtain ⟨again, same, _⟩ := second_load_eq_settled overflowing root loaded
    refine ⟨root, rfl, held, again, ?_⟩
    intro equal
    have listed : some (Binary64.infinity false) ∈
        root.atoms.map fun entry => entry.2.decimal? := by
      rw [held]
      exact List.mem_singleton_self _
    obtain ⟨entry, member, decimal⟩ := List.mem_map.mp listed
    have finite : (Binary64.infinity false).isFinite = true := same.mp equal entry member _ decimal
    exact absurd finite (by decide)

end EsqlTree
