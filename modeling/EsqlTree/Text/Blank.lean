import EsqlTree.Text.Ranges

/-!
# Blanks

The twenty-five characters that Unicode calls white space. Line ends are among them,
and so is the no-break space; the zero-width space and the byte order mark are not.
-/

namespace EsqlTree.Text

/-- The code points with the property White_Space. -/
def blankRanges : List (Nat × Nat) :=
  [(0x9, 0xd), (0x20, 0x20), (0x85, 0x85), (0xa0, 0xa0), (0x1680, 0x1680), (0x2000, 0x200a),
   (0x2028, 0x2029), (0x202f, 0x202f), (0x205f, 0x205f), (0x3000, 0x3000)]

/-- True of the characters with the property White_Space. -/
def isBlank (c : Char) : Bool := inRanges blankRanges c

end EsqlTree.Text
