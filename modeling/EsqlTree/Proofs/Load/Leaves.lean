import EsqlTree.Proofs.Load.Faults
import EsqlTree.Proofs.Load.Reading
import Mathlib.Data.List.Forall2

/-!
# The leaves of a value

A leaf is an object that is loaded as an atom: its tag asks for no field that holds
nodes. The leaves of a value are listed from the value alone. Where the value is loaded,
the atoms of the tree come from them one by one and in the same order, so that what is
said of an atom can be said of the members of its object.
-/

namespace EsqlTree

open Json (Value Members lookup)

mutual

/-- The members of the leaves of a value that stands in a place, in order. -/
def leaves (place : Place) (value : Value) : List Members :=
  match value with
  | .array elements => leavesOfEach place elements
  | .object members =>
    match lookup "type" members with
    | some (.string tag) =>
      match (Shape.of place tag).branch with
      | some branch => leavesUnder branch members
      | none => [members]
    | _ => []
  | _ => []
termination_by (sizeOf value, 0)

/-- The leaves of the field that holds nodes. -/
def leavesUnder (branch : Branch) (members : Members) : List Members :=
  match _found : lookup branch.field.key members with
  | some value => leaves branch.place value
  | none => []
termination_by (sizeOf members, 1)
decreasing_by
  apply Prod.Lex.left
  exact Json.sizeOf_lookup _found

/-- The leaves of elements, one after another. -/
def leavesOfEach (place : Place) (elements : List Value) : List Members :=
  match elements with
  | [] => []
  | element :: others => leaves place element ++ leavesOfEach place others
termination_by (sizeOf elements, 0)

end

/-- An atom that stands in a place is read from the members of a leaf. -/
structure LeafReading (members : Members) (entry : Place × Atom) : Prop where
  /-- Its tag is the one found. -/
  tagged : lookup "type" members = some (.string entry.2.tag)
  /-- Its header agrees with the members. -/
  headed : HeaderReading members entry.2.header
  /-- The fields of its kind agree with the members. -/
  own : AtomReading members entry.2
  /-- It is not tagged as a command where it would be one. -/
  inSlot : entry.1 = .node → entry.2.tag ≠ Kind.command.tag

section

variable {members : Members}

/-- The leaves of an object whose tag asks for a field that holds nodes are those of that field, and
the object itself is not one. -/
theorem leaves_of_branch {place : Place} {tag : String} {branch : Branch} {value : Value}
    (tagged : lookup "type" members = some (.string tag))
    (shaped : (Shape.of place tag).branch = some branch)
    (found : lookup branch.field.key members = some value) :
    leaves place (.object members) = leaves branch.place value := by
  simp only [leaves, tagged, shaped]
  rw [leavesUnder]
  split <;> simp_all

/-- An object of which no field holds nodes is its only leaf, whatever other objects its members
hold. -/
theorem leaves_of_leaf {place : Place} {tag : String}
    (tagged : lookup "type" members = some (.string tag))
    (shaped : (Shape.of place tag).branch = none) :
    leaves place (.object members) = [members] := by
  simp only [leaves, tagged, shaped]

/-- The tag of an atom asks for no field that holds nodes. An inert node may have the tag of
commands, but only in a slot, where it asks for nothing. -/
theorem AtomReading.branch_eq_none {node : Atom} {place : Place} (own : AtomReading members node)
    (inSlot : place = .node → node.tag ≠ Kind.command.tag) :
    (Shape.of place node.tag).branch = none := by
  cases own with
  | inert other =>
    rcases Kind.ofTag?_eq_none_or other with unknown | command
    · simp only [Shape.of, Atom.tag, unknown]
    · cases place with
      | node => exact absurd command (inSlot rfl)
      | slot => simp only [Shape.of, Atom.tag, command, Kind.ofTag?_tag]
  | _ => simp [Shape.of, Atom.tag, Kind.ofTag?_tag]

end

mutual

/-- The atoms of an item come from the leaves of its object. An atom is the one leaf itself; for
every other kind both sides go on in the field that holds nodes. -/
theorem ItemReading.leafReadings {members : Members} {item : Item} {place : Place}
    (own : ItemReading members item) (inSlot : place = .node → item.tag ≠ Kind.command.tag)
    (tagged : lookup "type" members = some (.string item.tag))
    (headed : HeaderReading members item.header) :
    List.Forall₂ LeafReading (leaves place (.object members)) (item.atoms place) := by
  cases own with
  | atom own =>
    rw [leaves_of_leaf tagged (own.branch_eq_none inSlot), Item.atoms]
    exact .cons ⟨tagged, headed, own, inSlot⟩ .nil
  | function subtype found below =>
    have shaped : (Shape.of place Kind.function.tag).branch =
        some ⟨.function, .args, [.array], .args, .slot⟩ := by
      simp [Shape.of, Kind.ofTag?_tag]
    rw [leaves_of_branch tagged shaped found, leaves]
    exact below.leafReadings
  | option found below =>
    have shaped : (Shape.of place Kind.option.tag).branch =
        some ⟨.option, .args, [.array], .args, .slot⟩ := by
      simp [Shape.of, Kind.ofTag?_tag]
    rw [leaves_of_branch tagged shaped found, leaves]
    exact below.leafReadings
  | list found below =>
    have shaped : (Shape.of place Kind.list.tag).branch =
        some ⟨.list, .values, [.array], .values, .slot⟩ := by
      simp [Shape.of, Kind.ofTag?_tag]
    rw [leaves_of_branch tagged shaped found, leaves]
    exact below.leafReadings
  | inlineCast found below type =>
    have shaped : (Shape.of place Kind.inlineCast.tag).branch =
        some ⟨.inlineCast, .value, [], .value, .slot⟩ := by
      simp [Shape.of, Kind.ofTag?_tag]
    rw [leaves_of_branch tagged shaped found]
    exact below.leafReadings

/-- The atoms of a slot come from the leaves of its value, be it the object of a single item or an
array. -/
theorem SlotReading.leafReadings {value : Value} {slot : Slot} (reading : SlotReading value slot) :
    List.Forall₂ LeafReading (leaves .slot value) slot.atoms := by
  cases reading with
  | single tagged headed own => exact own.leafReadings (by rintro ⟨⟩) tagged headed
  | seq below =>
    rw [leaves]
    exact below.leafReadings

/-- The atoms of slots come from the leaves of their values, those of each behind those of the one
before. -/
theorem SlotReadings.leafReadings {elements : List Value} {slots : List Slot}
    (readings : SlotReadings elements slots) :
    List.Forall₂ LeafReading (leavesOfEach .slot elements) (Slot.allAtoms slots) := by
  cases readings with
  | nil =>
    rw [leavesOfEach]
    exact .nil
  | cons first rest =>
    rw [leavesOfEach, Slot.allAtoms]
    exact List.rel_append first.leafReadings rest.leafReadings

end

mutual

/-- The atoms of a node come from the leaves of its value. The arguments of a command are in a place
for nodes, those of anything else in slots. -/
theorem NodeReading.leafReadings {value : Value} {node : Node} (reading : NodeReading value node) :
    List.Forall₂ LeafReading (leaves .node value) node.atoms := by
  cases reading with
  | command tagged headed found below =>
    have shaped : (Shape.of .node Kind.command.tag).branch =
        some ⟨.command, .args, [.array], .args, .node⟩ := by
      simp [Shape.of, Kind.ofTag?_tag]
    rw [leaves_of_branch tagged shaped found, leaves]
    exact below.leafReadings
  | single other tagged headed own => exact own.leafReadings (fun _ => other) tagged headed
  | seq below =>
    rw [leaves]
    exact below.leafReadings

/-- The atoms of nodes come from the leaves of their values, those of each behind those of the one
before. -/
theorem NodeReadings.leafReadings {elements : List Value} {nodes : List Node}
    (readings : NodeReadings elements nodes) :
    List.Forall₂ LeafReading (leavesOfEach .node elements) (Node.allAtoms nodes) := by
  cases readings with
  | nil =>
    rw [leavesOfEach]
    exact .nil
  | cons first rest =>
    rw [leavesOfEach, Node.allAtoms]
    exact List.rel_append first.leafReadings rest.leafReadings

end

/-- The atoms of a tree come from the leaves of its value. An absent tree has no atoms, and `null`
has no leaves. -/
theorem RootReading.leafReadings {value : Value} {root : Root} (reading : RootReading value root) :
    List.Forall₂ LeafReading (leaves .node value) root.atoms := by
  cases reading with
  | absent =>
    rw [leaves]
    · exact .nil
    · rintro elements ⟨⟩
    · rintro members ⟨⟩
  | present reading => exact reading.leafReadings

/-- Every atom of a tree comes from some leaf. Atoms and leaves are as many, so the atom has a
partner. -/
theorem RootReading.exists_leafReading {value : Value} {root : Root}
    (reading : RootReading value root) {entry : Place × Atom} (listed : entry ∈ root.atoms) :
    ∃ members, LeafReading members entry := by
  have related := reading.leafReadings
  generalize leaves .node value = found, root.atoms = atoms at related listed
  induction related with
  | nil => contradiction
  | cons first rest inRest =>
    rcases List.mem_cons.mp listed with rfl | later
    · exact ⟨_, first⟩
    · exact inRest later

end EsqlTree
