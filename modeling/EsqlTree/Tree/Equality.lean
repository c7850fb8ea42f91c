import EsqlTree.Tree.Basic

/-!
# Equality of trees by value

Two trees are the same by value if they agree everywhere, decimals being compared
as numbers: a tree that holds a NaN is not the same as itself, and zeros of either
sign are not told apart. Agreement bit for bit is the equality of the types.
-/

namespace EsqlTree

/-- Equality of literals by value. -/
def Literal.same (left right : Literal) : Bool :=
  left.toHeader == right.toHeader && left.literalType == right.literalType
    && left.value.same right.value && left.paramKind == right.paramKind

/-- Equality of atoms by value. -/
def Atom.same : Atom → Atom → Bool
  | .literal left, .literal right => left.same right
  | left, right => left == right

mutual

/-- Equality of functions by value. -/
def FunctionCall.same : FunctionCall → FunctionCall → Bool
  | ⟨header, form, args⟩, ⟨header', form', args'⟩ =>
    header == header' && form == form' && Slot.allSame args args'

/-- Equality of options by value. -/
def CommandOption.same : CommandOption → CommandOption → Bool
  | ⟨header, args⟩, ⟨header', args'⟩ => header == header' && Slot.allSame args args'

/-- Equality of lists by value. -/
def ListLiteral.same : ListLiteral → ListLiteral → Bool
  | ⟨header, values⟩, ⟨header', values'⟩ => header == header' && Slot.allSame values values'

/-- Equality of casts by value. -/
def InlineCast.same : InlineCast → InlineCast → Bool
  | ⟨header, value, castType⟩, ⟨header', value', castType'⟩ =>
    header == header' && value.same value' && castType == castType'

/-- Equality of items by value. -/
def Item.same : Item → Item → Bool
  | .atom left, .atom right => left.same right
  | .function left, .function right => left.same right
  | .option left, .option right => left.same right
  | .list left, .list right => left.same right
  | .inlineCast left, .inlineCast right => left.same right
  | _, _ => false

/-- Equality of slots by value. -/
def Slot.same : Slot → Slot → Bool
  | .single left, .single right => left.same right
  | .seq left, .seq right => Slot.allSame left right
  | _, _ => false

/-- Equality of sequences of slots by value. -/
def Slot.allSame : List Slot → List Slot → Bool
  | [], [] => true
  | left :: lefts, right :: rights => left.same right && Slot.allSame lefts rights
  | _, _ => false

end

mutual

/-- Equality of commands by value. -/
def Command.same : Command → Command → Bool
  | ⟨header, args⟩, ⟨header', args'⟩ => header == header' && Node.allSame args args'

/-- Equality of nodes by value. -/
def Node.same : Node → Node → Bool
  | .command left, .command right => left.same right
  | .single left, .single right => left.same right
  | .seq left, .seq right => Node.allSame left right
  | _, _ => false

/-- Equality of sequences of nodes by value. -/
def Node.allSame : List Node → List Node → Bool
  | [], [] => true
  | left :: lefts, right :: rights => left.same right && Node.allSame lefts rights
  | _, _ => false

end

/-- Equality of roots by value. -/
def Root.same : Root → Root → Bool
  | none, none => true
  | some left, some right => left.same right
  | _, _ => false

end EsqlTree
