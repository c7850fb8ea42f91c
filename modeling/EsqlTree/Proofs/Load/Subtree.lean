import EsqlTree.Proofs.Load.TextReload
import EsqlTree.Proofs.Json.Layout
import EsqlTree.Proofs.Walk.Reach

/-!
# Functions of a loaded tree

A function that a walk reaches in a loaded tree is a tree of its own. What is below it is below
the tree, and where it holds no decimal its lines are loaded as the function. That it stood in
a slot and is loaded as a node makes no difference: what is below a function stands in slots.
-/

namespace EsqlTree

/-- The atoms of one of some slots are among theirs. By induction on the slots, in front of which
others may stand. -/
theorem Slot.atoms_subset_allAtoms {slot : Slot} {slots : List Slot} (member : slot ∈ slots) :
    slot.atoms ⊆ Slot.allAtoms slots := by
  induction slots with
  | nil => contradiction
  | cons first others inOthers =>
    rw [Slot.allAtoms]
    rcases List.mem_cons.mp member with rfl | later
    · exact List.subset_append_left _ _
    · exact List.subset_append_of_subset_right _ (inOthers later)

/-- The atoms of one of some nodes are among theirs. By induction on the nodes, in front of which
others may stand. -/
theorem Node.atoms_subset_allAtoms {node : Node} {nodes : List Node} (member : node ∈ nodes) :
    node.atoms ⊆ Node.allAtoms nodes := by
  induction nodes with
  | nil => contradiction
  | cons first others inOthers =>
    rw [Node.allAtoms]
    rcases List.mem_cons.mp member with rfl | later
    · exact List.subset_append_left _ _
    · exact List.subset_append_of_subset_right _ (inOthers later)

/-- The atoms of a slot that a walk enters are among those of the item. Only functions, options and
lists have slots that are entered. -/
theorem Item.atoms_subset_of_mem_children {item : Item} {slot : Slot}
    (member : slot ∈ item.children) (place : Place) : slot.atoms ⊆ item.atoms place := by
  cases item with
  | function node =>
    obtain ⟨header, form, args⟩ := node
    exact Slot.atoms_subset_allAtoms member
  | option node =>
    obtain ⟨header, args⟩ := node
    exact Slot.atoms_subset_allAtoms member
  | list node =>
    obtain ⟨header, values⟩ := node
    exact Slot.atoms_subset_allAtoms member
  | _ => simp [children] at member

mutual

/-- The atoms of what an item reaches are among those of the item. Only the place under which they
are listed may be another one: a slot lists its items as standing in a slot, wherever the item
itself stands. -/
theorem Item.Reaches.exists_atoms_subset {item target : Item} (place : Place) :
    item.Reaches target → ∃ within, target.atoms within ⊆ item.atoms place
  | .itself => ⟨place, List.Subset.refl _⟩
  | .child member reached => by
    obtain ⟨within, below⟩ := reached.exists_atoms_subset
    exact ⟨within, List.Subset.trans below (Item.atoms_subset_of_mem_children member place)⟩

/-- The atoms of what a slot reaches are among those of the slot, by the item that it holds or by a
slot of the sequence. -/
theorem Slot.Reaches.exists_atoms_subset {slot : Slot} {target : Item} :
    slot.Reaches target → ∃ within, target.atoms within ⊆ slot.atoms
  | .single reached => reached.exists_atoms_subset .slot
  | .seq member reached => by
    obtain ⟨within, below⟩ := reached.exists_atoms_subset
    exact ⟨within, List.Subset.trans below (Slot.atoms_subset_allAtoms member)⟩

end

/-- The atoms below a function that a tree reaches are among those of the tree. Functions list them
alike in every place, so the place in which this one stands does not matter. -/
theorem Root.Reaches.atoms_subset {root : Root} {node : FunctionCall}
    (reached : root.Reaches (.single (.function node))) : node.atoms ⊆ root.atoms := by
  obtain ⟨whole, rfl, reached⟩ := reached
  generalize within : Node.single (.function node) = target at reached
  induction reached with
  | command => simp at within
  | argument member _ inArgument =>
    exact List.Subset.trans (inArgument within) (Node.atoms_subset_allAtoms member)
  | seq member _ inNode =>
    exact List.Subset.trans (inNode within) (Node.atoms_subset_allAtoms member)
  | single reached =>
    obtain rfl := Node.single.inj within
    obtain ⟨place, below⟩ := reached.exists_atoms_subset .node
    exact below

/-- A literal that a function without decimals reaches holds no decimal, since it is one of the
atoms of the function. -/
theorem FunctionCall.decimal?_eq_none {node : FunctionCall} (whole : NoDecimal node.atoms)
    {literal : Literal} (reached : (Item.function node).Reaches (.atom (.literal literal))) :
    (Atom.literal literal).decimal? = none := by
  obtain ⟨place, below⟩ := reached.exists_atoms_subset .slot
  exact whole _ (below (List.mem_singleton_self (place, Atom.literal literal)))

/-- A function of a loaded tree that holds no decimal is loaded from its value. Its atoms are atoms
of the tree, so they last where they hold nothing that is lost. -/
theorem RootReading.root_function_eq_ok {value : Json.Value} {root : Root}
    (reading : RootReading value root) {node : FunctionCall}
    (reached : root.Reaches (.single (.function node))) (whole : NoDecimal node.atoms) :
    Load.root node.toJson = .ok (some (.single (.function node))) := by
  have lasts : AllLast (Root.atoms (some (.single (.function node)))) := by
    intro entry below
    exact reading.lasts (reached.atoms_subset below)
      (Atom.settled_of_decimal?_eq_none (whole entry below))
  exact Load.root_toJson_of_allLast lasts

/-- A function of a loaded tree that holds no decimal, and nests no more containers than may be
open, is loaded from its lines. The line break behind them is a blank, which the reader passes over.
-/
theorem RootReading.load_pretty_function {value : Json.Value} {root : Root}
    (reading : RootReading value root) {node : FunctionCall}
    (reached : root.Reaches (.single (.function node))) (whole : NoDecimal node.atoms)
    (enough : node.toJson.depth ≤ Json.nestingLimit) :
    load (Json.pretty node.toJson ++ "\n") = .ok (some (.single (.function node))) := by
  have floatless : node.toJson.Floatless := Item.floatless_toJson .node (.function node) whole
  exact load_eq_ok_iff.mpr
    ⟨node.toJson, Json.read_pretty floatless enough, reading.root_function_eq_ok reached whole⟩

end EsqlTree
