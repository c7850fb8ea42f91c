/-!
# Letter case of ASCII

The case of the letters `A` to `Z` and `a` to `z`. Every other character, the
letters beyond ASCII included, is left as it is and compared exactly.
-/

namespace EsqlTree.Text

/-- The lower-case letter of an ASCII capital, and any other character itself. -/
def lowerChar (c : Char) : Char :=
  if 'A' ≤ c ∧ c ≤ 'Z' then Char.ofNat (c.toNat + 32) else c

/-- A text with its ASCII capitals in lower case. -/
def lower (text : String) : String := String.ofList (text.toList.map lowerChar)

end EsqlTree.Text
