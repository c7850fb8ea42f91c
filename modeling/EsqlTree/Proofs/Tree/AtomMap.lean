import EsqlTree.Proofs.Tree.Places
import EsqlTree.Tree.Encode

/-!
# Trees with other atoms

A function on atoms is carried through a tree: the result has the same shape, and each
atom is replaced where it stands. Its atoms are therefore the replaced ones in the same
order, and it is written alike if each atom is.
-/

namespace EsqlTree

variable (f : Atom → Atom)

mutual

/-- A function with other atoms below it. -/
def FunctionCall.mapAtoms : FunctionCall → FunctionCall
  | ⟨header, form, args⟩ => ⟨header, form, Slot.mapEachAtoms args⟩

/-- An option with other atoms below it. -/
def CommandOption.mapAtoms : CommandOption → CommandOption
  | ⟨header, args⟩ => ⟨header, Slot.mapEachAtoms args⟩

/-- A list with other atoms below it. -/
def ListLiteral.mapAtoms : ListLiteral → ListLiteral
  | ⟨header, values⟩ => ⟨header, Slot.mapEachAtoms values⟩

/-- A cast with other atoms in its operand. -/
def InlineCast.mapAtoms : InlineCast → InlineCast
  | ⟨header, value, castType⟩ => ⟨header, value.mapAtoms, castType⟩

/-- An item with other atoms. -/
def Item.mapAtoms : Item → Item
  | .atom node => .atom (f node)
  | .function node => .function node.mapAtoms
  | .option node => .option node.mapAtoms
  | .list node => .list node.mapAtoms
  | .inlineCast node => .inlineCast node.mapAtoms

/-- A slot with other atoms. -/
def Slot.mapAtoms : Slot → Slot
  | .single item => .single item.mapAtoms
  | .seq slots => .seq (Slot.mapEachAtoms slots)

/-- Slots with other atoms, one by one. -/
def Slot.mapEachAtoms : List Slot → List Slot
  | [] => []
  | slot :: others => slot.mapAtoms :: Slot.mapEachAtoms others

end

mutual

/-- A command with other atoms below it. -/
def Command.mapAtoms : Command → Command
  | ⟨header, args⟩ => ⟨header, Node.mapEachAtoms args⟩

/-- A node with other atoms. -/
def Node.mapAtoms : Node → Node
  | .command node => .command node.mapAtoms
  | .single item => .single (item.mapAtoms f)
  | .seq nodes => .seq (Node.mapEachAtoms nodes)

/-- Nodes with other atoms, one by one. -/
def Node.mapEachAtoms : List Node → List Node
  | [] => []
  | node :: others => node.mapAtoms :: Node.mapEachAtoms others

end

/-- A tree with other atoms. -/
def Root.mapAtoms (root : Root) : Root := root.map (Node.mapAtoms f)

mutual

/-- The atoms of an item are replaced where they stand. The sort of its place is passed on and not
changed. -/
theorem Item.atoms_mapAtoms (place : Place) : (item : Item) →
    (item.mapAtoms f).atoms place = (item.atoms place).map fun entry => (entry.1, f entry.2)
  | .atom node => by rw [Item.mapAtoms, Item.atoms, Item.atoms, List.map_singleton]
  | .function ⟨header, form, args⟩ => by
    rw [Item.mapAtoms, FunctionCall.mapAtoms, Item.atoms, FunctionCall.atoms, Item.atoms,
      FunctionCall.atoms, Slot.allAtoms_mapEachAtoms args]
  | .option ⟨header, args⟩ => by
    rw [Item.mapAtoms, CommandOption.mapAtoms, Item.atoms, CommandOption.atoms, Item.atoms,
      CommandOption.atoms, Slot.allAtoms_mapEachAtoms args]
  | .list ⟨header, values⟩ => by
    rw [Item.mapAtoms, ListLiteral.mapAtoms, Item.atoms, ListLiteral.atoms, Item.atoms,
      ListLiteral.atoms, Slot.allAtoms_mapEachAtoms values]
  | .inlineCast ⟨header, value, castType⟩ => by
    rw [Item.mapAtoms, InlineCast.mapAtoms, Item.atoms, InlineCast.atoms, Item.atoms,
      InlineCast.atoms, Slot.atoms_mapAtoms value]

/-- The atoms of a slot are replaced where they stand, be it a single item or a sequence. -/
theorem Slot.atoms_mapAtoms : (slot : Slot) →
    (slot.mapAtoms f).atoms = slot.atoms.map fun entry => (entry.1, f entry.2)
  | .single item => by rw [Slot.mapAtoms, Slot.atoms, Slot.atoms, Item.atoms_mapAtoms .slot item]
  | .seq slots => by rw [Slot.mapAtoms, Slot.atoms, Slot.atoms, Slot.allAtoms_mapEachAtoms slots]

/-- The atoms of slots are replaced where they stand, those of each slot in turn. -/
theorem Slot.allAtoms_mapEachAtoms : (slots : List Slot) →
    Slot.allAtoms (Slot.mapEachAtoms f slots) =
      (Slot.allAtoms slots).map fun entry => (entry.1, f entry.2)
  | [] => by rw [Slot.mapEachAtoms, Slot.allAtoms, List.map_nil]
  | slot :: others => by
    rw [Slot.mapEachAtoms, Slot.allAtoms, Slot.allAtoms, List.map_append,
      Slot.atoms_mapAtoms slot, Slot.allAtoms_mapEachAtoms others]

end

mutual

/-- The atoms of a node are replaced where they stand. Items are among nodes, and have been dealt
with above. -/
theorem Node.atoms_mapAtoms : (node : Node) →
    (node.mapAtoms f).atoms = node.atoms.map fun entry => (entry.1, f entry.2)
  | .command ⟨header, args⟩ => by
    rw [Node.mapAtoms, Command.mapAtoms, Node.atoms, Command.atoms, Node.atoms, Command.atoms,
      Node.allAtoms_mapEachAtoms args]
  | .single item => by rw [Node.mapAtoms, Node.atoms, Node.atoms, Item.atoms_mapAtoms]
  | .seq nodes => by rw [Node.mapAtoms, Node.atoms, Node.atoms, Node.allAtoms_mapEachAtoms nodes]

/-- The atoms of nodes are replaced where they stand, those of each node in turn. -/
theorem Node.allAtoms_mapEachAtoms : (nodes : List Node) →
    Node.allAtoms (Node.mapEachAtoms f nodes) =
      (Node.allAtoms nodes).map fun entry => (entry.1, f entry.2)
  | [] => by rw [Node.mapEachAtoms, Node.allAtoms, List.map_nil]
  | node :: others => by
    rw [Node.mapEachAtoms, Node.allAtoms, Node.allAtoms, List.map_append,
      Node.atoms_mapAtoms node, Node.allAtoms_mapEachAtoms others]

end

/-- The atoms of a tree are replaced where they stand. So what is asked of all atoms of the new tree
can be asked of those of the old. -/
theorem Root.atoms_mapAtoms (root : Root) :
    (root.mapAtoms f).atoms = root.atoms.map fun entry => (entry.1, f entry.2) := by
  cases root with
  | none => rfl
  | some node => exact node.atoms_mapAtoms f

variable {f}

mutual

/-- An item is written alike if its atoms are, for nothing else in it has changed. -/
theorem Item.toJson_mapAtoms (alike : ∀ node, (f node).toJson = node.toJson) :
    (item : Item) → (item.mapAtoms f).toJson = item.toJson
  | .atom node => by rw [Item.mapAtoms, Item.toJson, Item.toJson, alike node]
  | .function ⟨header, form, args⟩ => by
    rw [Item.mapAtoms, FunctionCall.mapAtoms, Item.toJson, FunctionCall.toJson, Item.toJson,
      FunctionCall.toJson, Slot.toJsons_mapEachAtoms alike args]
  | .option ⟨header, args⟩ => by
    rw [Item.mapAtoms, CommandOption.mapAtoms, Item.toJson, CommandOption.toJson, Item.toJson,
      CommandOption.toJson, Slot.toJsons_mapEachAtoms alike args]
  | .list ⟨header, values⟩ => by
    rw [Item.mapAtoms, ListLiteral.mapAtoms, Item.toJson, ListLiteral.toJson, Item.toJson,
      ListLiteral.toJson, Slot.toJsons_mapEachAtoms alike values]
  | .inlineCast ⟨header, value, castType⟩ => by
    rw [Item.mapAtoms, InlineCast.mapAtoms, Item.toJson, InlineCast.toJson, Item.toJson,
      InlineCast.toJson, Slot.toJson_mapAtoms alike value]

/-- A slot is written alike if its atoms are, be it a single item or a sequence. -/
theorem Slot.toJson_mapAtoms (alike : ∀ node, (f node).toJson = node.toJson) :
    (slot : Slot) → (slot.mapAtoms f).toJson = slot.toJson
  | .single item => by rw [Slot.mapAtoms, Slot.toJson, Slot.toJson, Item.toJson_mapAtoms alike item]
  | .seq slots => by
    rw [Slot.mapAtoms, Slot.toJson, Slot.toJson, Slot.toJsons_mapEachAtoms alike slots]

/-- Slots are written alike if their atoms are, one by one. -/
theorem Slot.toJsons_mapEachAtoms (alike : ∀ node, (f node).toJson = node.toJson) :
    (slots : List Slot) → Slot.toJsons (Slot.mapEachAtoms f slots) = Slot.toJsons slots
  | [] => by rw [Slot.mapEachAtoms]
  | slot :: others => by
    rw [Slot.mapEachAtoms, Slot.toJsons, Slot.toJsons, Slot.toJson_mapAtoms alike slot,
      Slot.toJsons_mapEachAtoms alike others]

end

mutual

/-- A node is written alike if its atoms are, for nothing else in it has changed. -/
theorem Node.toJson_mapAtoms (alike : ∀ node, (f node).toJson = node.toJson) :
    (node : Node) → (node.mapAtoms f).toJson = node.toJson
  | .command ⟨header, args⟩ => by
    rw [Node.mapAtoms, Command.mapAtoms, Node.toJson, Command.toJson, Node.toJson,
      Command.toJson, Node.toJsons_mapEachAtoms alike args]
  | .single item => by
    rw [Node.mapAtoms, Node.toJson, Node.toJson, Item.toJson_mapAtoms alike item]
  | .seq nodes => by
    rw [Node.mapAtoms, Node.toJson, Node.toJson, Node.toJsons_mapEachAtoms alike nodes]

/-- Nodes are written alike if their atoms are, one by one. -/
theorem Node.toJsons_mapEachAtoms (alike : ∀ node, (f node).toJson = node.toJson) :
    (nodes : List Node) → Node.toJsons (Node.mapEachAtoms f nodes) = Node.toJsons nodes
  | [] => by rw [Node.mapEachAtoms]
  | node :: others => by
    rw [Node.mapEachAtoms, Node.toJsons, Node.toJsons, Node.toJson_mapAtoms alike node,
      Node.toJsons_mapEachAtoms alike others]

end

/-- A tree is written alike if its atoms are. An absent tree has none, and is `null` before and
after. -/
theorem Root.toJson_mapAtoms (alike : ∀ node, (f node).toJson = node.toJson) (root : Root) :
    (root.mapAtoms f).toJson = root.toJson := by
  cases root with
  | none => rfl
  | some node => exact node.toJson_mapAtoms alike

end EsqlTree
