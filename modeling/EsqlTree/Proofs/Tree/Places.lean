import EsqlTree.Tree.Basic

/-!
# Where the atoms of a tree stand

What a tree says that its shape does not stands in its atoms. They are listed with
the sort of place in which each stands, because a tag may be inert in one sort and
not in the other. The list goes everywhere, the operands of casts included.
-/

namespace EsqlTree

/-- The sorts of places. A command stands only where a node may. -/
inductive Place where
  /-- The root, an argument of a command, or an element of a sequence there. -/
  | node
  /-- An argument of anything else, or an element of a sequence there. -/
  | slot
deriving DecidableEq, Repr

mutual

/-- The atoms below a function. -/
def FunctionCall.atoms : FunctionCall → List (Place × Atom)
  | ⟨_, _, args⟩ => Slot.allAtoms args

/-- The atoms below an option. -/
def CommandOption.atoms : CommandOption → List (Place × Atom)
  | ⟨_, args⟩ => Slot.allAtoms args

/-- The atoms below a list. -/
def ListLiteral.atoms : ListLiteral → List (Place × Atom)
  | ⟨_, values⟩ => Slot.allAtoms values

/-- The atoms below a cast. -/
def InlineCast.atoms : InlineCast → List (Place × Atom)
  | ⟨_, value, _⟩ => value.atoms

/-- The atoms of an item that stands in a place. -/
def Item.atoms (place : Place) : Item → List (Place × Atom)
  | .atom node => [(place, node)]
  | .function node => node.atoms
  | .option node => node.atoms
  | .list node => node.atoms
  | .inlineCast node => node.atoms

/-- The atoms of a slot. -/
def Slot.atoms : Slot → List (Place × Atom)
  | .single item => item.atoms .slot
  | .seq slots => Slot.allAtoms slots

/-- The atoms of slots, one after another. -/
def Slot.allAtoms : List Slot → List (Place × Atom)
  | [] => []
  | slot :: others => slot.atoms ++ Slot.allAtoms others

end

mutual

/-- The atoms below a command. -/
def Command.atoms : Command → List (Place × Atom)
  | ⟨_, args⟩ => Node.allAtoms args

/-- The atoms of a node. -/
def Node.atoms : Node → List (Place × Atom)
  | .command node => node.atoms
  | .single item => item.atoms .node
  | .seq nodes => Node.allAtoms nodes

/-- The atoms of nodes, one after another. -/
def Node.allAtoms : List Node → List (Place × Atom)
  | [] => []
  | node :: others => node.atoms ++ Node.allAtoms others

end

/-- The atoms of a tree; an absent one has none. -/
def Root.atoms : Root → List (Place × Atom)
  | none => []
  | some node => node.atoms

end EsqlTree
