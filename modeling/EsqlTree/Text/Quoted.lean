import EsqlTree.Text.Graphic
import EsqlTree.Text.Numeral

/-!
# Quoted text in messages

A message shows a text in quotes so that every character of it can be told: the
quote and the backslash are escaped, a few control characters have letters of their
own, and any other character that does not show by itself is written by its code
point.
-/

namespace EsqlTree.Text

/-- The characters that show one character in a quoted text. -/
def quotedChar (c : Char) : List Char :=
  if c = '"' then ['\\', '"']
  else if c = '\\' then ['\\', '\\']
  else if c = '\x00' then ['\\', '0']
  else if c = '\t' then ['\\', 't']
  else if c = '\n' then ['\\', 'n']
  else if c = '\r' then ['\\', 'r']
  else if isGraphic c then [c]
  else '\\' :: 'u' :: '\x7b' :: hexadecimal c.toNat ++ ['\x7d']

/-- A text in quotes. -/
def quoted (text : String) : String :=
  String.ofList ('"' :: text.toList.flatMap quotedChar ++ ['"'])

end EsqlTree.Text
