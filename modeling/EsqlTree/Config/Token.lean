import EsqlTree.Config.Refusal
import EsqlTree.Text.Alphanumeric
import EsqlTree.Text.Blank
import EsqlTree.Text.Step
import EsqlTree.Text.Surrogate

/-!
# Tokens of a configuration text

The text is JSON with comments, with strings in either quote, with numbers that may
have a plus or be hexadecimal, and with words that need no quotes as keys. Blanks are
those of Unicode. A string may hold line ends and control characters as they are.

`next` finds the token that a text begins with, after blanks and comments. A number
ends where no further character fits, whatever follows; a word goes on to a blank or a
colon and must consist of letters, digits, hyphens and underscores.
-/

namespace EsqlTree.Config

open Text (Step Part)

/-- A token. -/
inductive Token where
  | openBrace
  | closeBrace
  | openBracket
  | closeBracket
  | comma
  | colon
  | null
  | boolean (b : Bool)
  /-- A string, without quotes and escapes. -/
  | string (s : String)
  /-- A number as written. -/
  | number (numeral : List Char)
  /-- A word as written. -/
  | word (letters : List Char)
deriving DecidableEq

/-- A token and where it stands. -/
structure Lexeme where
  /-- The token. -/
  token : Token
  /-- The text from the token's first character on. -/
  start : List Char

/-- Four hexadecimal digits: the unit they denote, and the digits themselves. -/
def hexUnit? (text : List Char) : Option (Step text (Nat × String)) :=
  match text with
  | a :: b :: c :: d :: rest =>
    match Text.hexValue? a, Text.hexValue? b, Text.hexValue? c, Text.hexValue? d with
    | some high, some upper, some lower, some low =>
      let unit := ((high * 16 + upper) * 16 + lower) * 16 + low
      some ((((Step.char (unit, String.ofList [a, b, c, d]) d rest).cons c).cons b).cons a)
    | _, _, _, _ => none
  | _ => none

/-- The low surrogate of a pair whose high one has the digits given, from the backslash
of its escape on. -/
def lowSurrogate (digits : String) (text : List Char) : Except Reason (Step text Nat) :=
  match text with
  | '\\' :: 'u' :: second =>
    match hexUnit? second with
    | none => .error .expectedHexDigits
    | some low =>
      if Text.isLowSurrogate low.value.1 then .ok (((low.map Prod.fst).cons 'u').cons '\\')
      else .error (.surrogate digits .mispairedHigh)
  | _ => .error (.surrogate digits .unpairedHigh)

/-- The character of an escape by code, after the letter `u`. -/
def codeEscape (text : List Char) : Except Reason (Step text Char) :=
  match hexUnit? text with
  | none => .error .expectedHexDigits
  | some unit =>
    if Text.isLowSurrogate unit.value.1 then .error (.surrogate unit.value.2 .unpairedLow)
    else if Text.isHighSurrogate unit.value.1 then do
      let low ← lowSurrogate unit.value.2 unit.rest
      .ok (unit.andThen low fun high low => Text.ofSurrogates high.1 low)
    else .ok (unit.map fun unit => Char.ofNat unit.1)

/-- The character of an escape, after its backslash. A quote of the other kind may not
be escaped. -/
def escape (quote letter : Char) (rest : List Char) :
    Except Reason (Step (letter :: rest) Char) :=
  let plain (c : Char) := Step.char c letter rest
  if letter = '"' then if quote = '"' then .ok (plain '"') else .error .doubleQuoteEscape
  else if letter = '\'' then if quote = '\'' then .ok (plain '\'') else .error .singleQuoteEscape
  else if letter = '\\' then .ok (plain '\\')
  else if letter = '/' then .ok (plain '/')
  else if letter = 'b' then .ok (plain '\x08')
  else if letter = 'f' then .ok (plain '\x0c')
  else if letter = 'n' then .ok (plain '\n')
  else if letter = 'r' then .ok (plain '\r')
  else if letter = 't' then .ok (plain '\t')
  else if letter = 'u' then do .ok ((← codeEscape rest).cons letter)
  else .error .invalidEscape

/-- The characters of a string after its opening quote, with the position of that
quote for the case that the string does not end. -/
def stringRest (quote : Char) (opening text : List Char) :
    Except Refusal (Step text (List Char)) :=
  match text with
  | [] => .error (.at .unterminatedString opening)
  | c :: rest =>
    if c = quote then .ok (.char [] c rest)
    else if c = '\\' then
      match rest with
      | [] => .error (.at .unterminatedString opening)
      | letter :: others =>
        match escape quote letter others with
        | .error reason => .error (.at reason (c :: letter :: others))
        | .ok escaped => do
          have : escaped.rest.length < others.length + 1 := escaped.shorter
          let characters ← stringRest quote opening escaped.rest
          .ok ((escaped.andThen characters List.cons).cons c)
    else do
      let characters ← stringRest quote opening rest
      .ok ((characters.map (c :: ·)).cons c)
termination_by text.length
decreasing_by all_goals simp only [List.length_cons]; omega

/-- A run of digits of which there must be one. -/
def digits (holds : Char → Bool) (reason : Reason) (text : List Char) :
    Except Refusal (Part text (List Char)) :=
  let run := Text.takeRun holds text
  if run.value.isEmpty then .error (.at reason text) else .ok run

/-- A point and the digits after it, if a point stands here. -/
def fraction (text : List Char) : Except Refusal (Part text (List Char)) :=
  match text with
  | [] => .ok (.nothing [] [])
  | c :: rest =>
    if c = '.' then do
      .ok (((← digits Text.isDigit .expectedDigit rest).map (c :: ·)).cons c).toPart
    else .ok (.nothing [] (c :: rest))

/-- The sign and the digits of an exponent, after its mark. -/
def signedDigits (text : List Char) : Except Refusal (Part text (List Char)) :=
  match text with
  | [] => .error (.at .expectedExponent [])
  | c :: rest =>
    if c = '+' ∨ c = '-' then do
      .ok (((← digits Text.isDigit .expectedDigit rest).map (c :: ·)).cons c).toPart
    else digits Text.isDigit .expectedExponent (c :: rest)

/-- An exponent, if its mark stands here. -/
def exponent (text : List Char) : Except Refusal (Part text (List Char)) :=
  match text with
  | [] => .ok (.nothing [] [])
  | c :: rest =>
    if c = 'e' ∨ c = 'E' then do .ok (((← signedDigits rest).map (c :: ·)).cons c).toPart
    else .ok (.nothing [] (c :: rest))

/-- A fraction and an exponent, each if it stands here. -/
def afterWhole (text : List Char) : Except Refusal (Part text (List Char)) := do
  let fraction ← fraction text
  let exponent ← exponent fraction.rest
  .ok (fraction.andThen exponent List.append)

/-- The digits of a hexadecimal number with the mark before them, if the mark stands
here. -/
def hexDigits? (text : List Char) : Option (Except Refusal (Part text (List Char))) :=
  match text with
  | [] => none
  | c :: rest =>
    if c = 'x' ∨ c = 'X' then
      some do .ok (((← digits Text.isHexDigit .expectedDigit rest).map (c :: ·)).cons c).toPart
    else none

/-- A number from its first digit on: hexadecimal, or decimal with no zero in front of
other digits. -/
def numberFrom (first : Char) (text : List Char) :
    Except Refusal (Step (first :: text) (List Char)) :=
  if first = '0' then
    match hexDigits? text with
    | some digits => do .ok (((← digits).map (first :: ·)).cons first)
    | none => do .ok (((← afterWhole text).map (first :: ·)).cons first)
  else do
    let run := Text.takeRun Text.isDigit text
    let others ← afterWhole run.rest
    .ok ((run.andThen others fun whole others => first :: whole ++ others).cons first)

/-- A number after its sign. -/
def numberAfterSign (text : List Char) : Except Refusal (Step text (List Char)) :=
  match text with
  | [] => .error (.at .expectedDigitAfterSign [])
  | first :: rest =>
    if Text.isDigit first then numberFrom first rest
    else .error (.at .expectedDigitAfterSign (first :: rest))

/-- The text after a word that it begins with, unless the word goes on there. -/
def afterWord? : (word text : List Char) → Option (Part text Unit)
  | [], [] => some (.nothing () [])
  | [], c :: rest => if Text.isAlphanumeric c then none else some (.nothing () (c :: rest))
  | _ :: _, [] => none
  | letter :: letters, c :: rest =>
    if c = letter then (afterWord? letters rest).map fun part => (part.cons c).toPart
    else none

/-- True of the characters that a word may have. -/
def isWordChar (c : Char) : Bool := Text.isAlphanumeric c || c == '-' || c == '_'

/-- The letters of a word, to a blank or a colon. -/
def takeWord : (text : List Char) → Option (Part text (List Char))
  | [] => some (.nothing [] [])
  | c :: rest =>
    if Text.isBlank c || c == ':' then some (.nothing [] (c :: rest))
    else if isWordChar c then
      (takeWord rest).map fun word => ((word.map (c :: ·)).cons c).toPart
    else none

/-- The rest of a comment block, from inside it on. -/
def commentBlock? (text : List Char) : Option (Step text Unit) :=
  match text with
  | [] => none
  | c :: rest =>
    match c, rest with
    | '*', '/' :: after => some ((Step.char () '/' after).cons '*')
    | c, rest => (commentBlock? rest).map (Step.cons c)

/-- A comment, from its first slash on. -/
def comment (text : List Char) : Except Refusal (Step text Unit) :=
  match text with
  | '/' :: '/' :: rest =>
    .ok ((((Text.takeRun (fun c => c != '\n') rest).map fun _ => ()).cons '/').cons '/')
  | '/' :: '*' :: rest =>
    match commentBlock? rest with
    | some block => .ok ((block.cons '*').cons '/')
    | none => .error (.at .unterminatedComment ('/' :: '*' :: rest))
  | other => .error (.at .unexpectedToken other)

/-- A literal name, given by its first letter and the others, and the token it stands
for. -/
def named? (first : Char) (others : List Char) (token : Token) (c : Char) (rest : List Char) :
    Option (Step (c :: rest) Token) :=
  if c = first then (afterWord? others rest).map fun part => (part.map fun _ => token).cons c
  else none

/-- A literal name or a word, from its first character on. -/
def wordToken (c : Char) (rest : List Char) : Except Refusal (Step (c :: rest) Token) :=
  match named? 't' ['r', 'u', 'e'] (.boolean true) c rest,
      named? 'f' ['a', 'l', 's', 'e'] (.boolean false) c rest,
      named? 'n' ['u', 'l', 'l'] .null c rest with
  | some token, _, _ => .ok token
  | _, some token, _ => .ok token
  | _, _, some token => .ok token
  | none, none, none =>
    if isWordChar c then
      match takeWord rest with
      | some word => .ok ((word.map fun letters => .word (c :: letters)).cons c)
      | none => .error (.at .unexpectedToken (c :: rest))
    else .error (.at .unexpectedToken (c :: rest))

/-- A token, from its first character on. -/
def tokenAt (c : Char) (rest : List Char) : Except Refusal (Step (c :: rest) Token) :=
  let single (token : Token) : Except Refusal (Step (c :: rest) Token) :=
    .ok (.char token c rest)
  if c = '\x7b' then single .openBrace
  else if c = '\x7d' then single .closeBrace
  else if c = '[' then single .openBracket
  else if c = ']' then single .closeBracket
  else if c = ',' then single .comma
  else if c = ':' then single .colon
  else if c = '"' ∨ c = '\'' then do
    let characters ← stringRest c (c :: rest) rest
    .ok ((characters.map fun characters => .string (String.ofList characters)).cons c)
  else if c = '-' ∨ c = '+' then do
    .ok (((← numberAfterSign rest).map fun numeral => .number (c :: numeral)).cons c)
  else if Text.isDigit c then do .ok ((← numberFrom c rest).map .number)
  else wordToken c rest

/-- The token that a text begins with after blanks and comments; none at its end. -/
def next (text : List Char) : Except Refusal (Option (Step text Lexeme)) :=
  match text with
  | [] => .ok none
  | c :: rest =>
    if Text.isBlank c then do .ok ((← next rest).map (Step.cons c))
    else if c = '/' then do
      let comment ← comment (c :: rest)
      have : comment.rest.length < rest.length + 1 := comment.shorter
      .ok ((← next comment.rest).map fun step => comment.andThen step fun _ lexeme => lexeme)
    else do
      .ok (some ((← tokenAt c rest).map fun token => ⟨token, c :: rest⟩))
termination_by text.length
decreasing_by all_goals simp only [List.length_cons]; omega

end EsqlTree.Config
