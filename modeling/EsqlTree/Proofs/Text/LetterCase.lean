import EsqlTree.Text.Ascii
import Mathlib.Data.List.Forall2

/-!
# Texts that differ in letter case alone

Two texts are equal up to case if they agree character by character, where a letter of ASCII
agrees with its capital. Any other character agrees with itself alone. Such texts are those
that are the same in lower case.
-/

namespace EsqlTree.Text

/-- True of a capital of ASCII and its small letter. -/
def IsCapitalOf (capital small : Char) : Prop :=
  'A' ≤ capital ∧ capital ≤ 'Z' ∧ small.toNat = capital.toNat + 32

/-- True of a character and itself, and of the two cases of a letter of ASCII. -/
def SameLetter (left right : Char) : Prop :=
  left = right ∨ IsCapitalOf left right ∨ IsCapitalOf right left

/-- True of texts that agree character by character, up to the case of ASCII letters. -/
def EqualUpToCase (left right : String) : Prop :=
  List.Forall₂ SameLetter left.toList right.toList

/-- The capitals of ASCII are those with code points from 65 to 90. Stated so, they can be reasoned
about as numbers. -/
theorem isCapital_iff (c : Char) : ('A' ≤ c ∧ c ≤ 'Z') ↔ 65 ≤ c.toNat ∧ c.toNat ≤ 90 := by
  simp only [Char.le_def, UInt32.le_iff_toNat_le]
  exact Iff.rfl

/-- A capital goes up by 32 code points, and nothing else moves. The code point that it goes to is a
valid one. -/
theorem toNat_lowerChar (c : Char) :
    (lowerChar c).toNat = if 65 ≤ c.toNat ∧ c.toNat ≤ 90 then c.toNat + 32 else c.toNat := by
  simp only [lowerChar, isCapital_iff]
  split
  · rename_i capital
    have valid : (c.toNat + 32).isValidChar := .inl (by omega)
    rw [Char.ofNat, dif_pos valid]
    rfl
  · rfl

/-- Two characters have one lower case exactly if they are the same letter. All of this is
arithmetic of code points. -/
theorem lowerChar_eq_iff (left right : Char) :
    lowerChar left = lowerChar right ↔ SameLetter left right := by
  simp only [SameLetter, IsCapitalOf, ← and_assoc, isCapital_iff, ← Char.toNat_inj,
    toNat_lowerChar]
  split <;> split <;> omega

/-- Two texts are the same in lower case exactly if they are equal up to case. Lower case is formed
character by character, and so is the comparison. -/
theorem lower_eq_iff (left right : String) :
    lower left = lower right ↔ EqualUpToCase left right := by
  simp only [lower, EqualUpToCase, String.ofList_inj, ← List.forall₂_eq_eq_eq,
    List.forall₂_map_left_iff, List.forall₂_map_right_iff, lowerChar_eq_iff]

instance (left right : String) : Decidable (EqualUpToCase left right) :=
  decidable_of_iff _ (lower_eq_iff left right)

end EsqlTree.Text
