import EsqlTree.Text.Step

/-!
# The words of a command line

What a word is can be seen from its first two characters. A word that starts with two
dashes names one option, and a value may be attached to it after an equals sign; two
dashes alone take their meaning from all words that follow. A word that starts with one
dash holds option letters. Every other word is plain, one dash alone included.
-/

namespace EsqlTree.Cli

/-- What a word of a command line is by its form. -/
inductive Word where
  /-- The mark after which every word is taken as it stands. -/
  | terminator
  /-- An option by its name, with the value that is attached to it. -/
  | long (name : String) (value : Option String)
  /-- Option letters. What follows the letter of an option with a value is its value. -/
  | letters (first : Char) (others : List Char)
  /-- Anything else. -/
  | plain
deriving DecidableEq, Repr

namespace Word

/-- The option that a text without its dashes names. -/
def named (text : List Char) : Word :=
  let name := Text.takeRun (fun c => c ≠ '=') text
  .long (String.ofList name.value) <|
    match name.rest with
    | [] => none
    | _ :: value => some (String.ofList value)

/-- The form of a word. -/
def ofString (word : String) : Word :=
  match word.toList with
  | ['-', '-'] => .terminator
  | '-' :: '-' :: name => named name
  | '-' :: first :: others => .letters first others
  | _ => .plain

end Word

end EsqlTree.Cli
