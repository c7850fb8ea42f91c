import EsqlTree.Proofs.Load.Reading
import EsqlTree.Tree.Encode
import EsqlTree.Walk.Walker

/-!
# Slots where nodes may stand

Sequences of slots and sequences of nodes are loaded, walked and written separately, because
a command may stand among nodes only. Where there is none, the two ways agree: a slot put
where a node may stand is loaded from the same values with the same faults, is walked with the
same calls, and has the same JSON form.
-/

namespace EsqlTree

open Json (Value Members lookup)

/-- A value reaches itself through arrays alone, and so an array what its elements reach. -/
inductive Json.Value.HoldsInArrays : Value → Value → Prop where
  | itself {value : Value} : HoldsInArrays value value
  | element {elements : List Value} {element target : Value} (member : element ∈ elements)
      (held : element.HoldsInArrays target) : HoldsInArrays (.array elements) target

/-- True of values in which no object that is reached through arrays alone has the tag of
commands. -/
def Json.Value.HoldsNoCommand (value : Value) : Prop :=
  ∀ members, value.HoldsInArrays (.object members) →
    lookup "type" members ≠ some (.string Kind.command.tag)

/-- An array holds no command exactly if none of its elements does, as each way from the array goes
through one of them. -/
theorem Json.Value.holdsNoCommand_array_iff (elements : List Value) :
    HoldsNoCommand (.array elements) ↔ ∀ element ∈ elements, HoldsNoCommand element := by
  constructor
  · intro none element member members held
    exact none members (.element member held)
  · intro none members held
    cases held with
    | element member held => exact none _ member members held

/-- An object holds no command exactly if it is not tagged as one, as no way goes on through an
object. -/
theorem Json.Value.holdsNoCommand_object_iff (members : Members) :
    HoldsNoCommand (.object members) ↔
      lookup "type" members ≠ some (.string Kind.command.tag) := by
  constructor
  · intro none
    exact none members .itself
  · intro other members held
    cases held
    exact other

mutual

/-- Without a command, a value is loaded as the same slot and node, or refused with the same fault.
Only an object with the tag of commands would be treated in another way. -/
theorem Load.node_eq_map_slot (value : Value) (path : Path) (plain : value.HoldsNoCommand) :
    Load.node value path = (Load.slot value path).map Slot.toNode := by
  cases value with
  | array elements =>
    have each := (Json.Value.holdsNoCommand_array_iff elements).mp plain
    rw [Load.node, Load.slot, Load.nodes_eq_map_slots elements 0 path each]
    cases Load.slots elements 0 path <;> rfl
  | object members =>
    rw [Load.node, Load.slot]
    cases tagged : Load.tagOf members path with
    | error fault => rfl
    | ok tag =>
      have other : tag ≠ Kind.command.tag := by
        rintro rfl
        exact plain members .itself (Load.lookup_of_tagOf tagged)
      rw [Load.ok_bind, Load.ok_bind, if_neg other]
      cases Load.item tag members path <;> rfl
  | _ => simp [Load.node, Load.slot, Except.map]
termination_by sizeOf value

/-- Without a command, values are loaded as the same slots and nodes one by one, or refused with the
same fault. The first that is refused is the same on both sides. -/
theorem Load.nodes_eq_map_slots (elements : List Value) (position : Nat) (path : Path)
    (plain : ∀ element ∈ elements, element.HoldsNoCommand) :
    Load.nodes elements position path =
      (Load.slots elements position path).map Slot.toNodes := by
  cases elements with
  | nil =>
    rw [Load.nodes, Load.slots]
    rfl
  | cons element others =>
    have first := Load.node_eq_map_slot element (path.child (.index position))
      (plain element List.mem_cons_self)
    have rest := Load.nodes_eq_map_slots others (position + 1) path
      fun other member => plain other (List.mem_cons_of_mem _ member)
    rw [Load.nodes, Load.slots, first]
    cases Load.slot element (path.child (.index position)) with
    | error fault => rfl
    | ok slot =>
      rw [Load.ok_bind, rest]
      cases Load.slots others (position + 1) path <;> rfl
termination_by sizeOf elements

end

section

variable {σ : Type}

mutual

/-- A slot is walked like the node that it is where nodes may stand, whatever command walkers there
are, because it holds no command that could have one. -/
theorem Walker.walk_toNode (walker : Walker σ) : (slot : Slot) →
    walker.walk slot.toNode = walker.visitor.walkSlot slot
  | .single _ => rfl
  | .seq slots => Walker.all_walks_toNodes walker slots

/-- Slots are walked like the nodes that they are where nodes may stand, and both end where one of
them ends the walk. -/
theorem Walker.all_walks_toNodes (walker : Walker σ) : (slots : List Slot) →
    .all (walker.walks (Slot.toNodes slots)) = walker.visitor.walkSlots slots
  | [] => rfl
  | slot :: others => by
    rw [Slot.toNodes, walks, Action.all, walker.walk_toNode slot, walker.all_walks_toNodes others,
      Visitor.walkSlots]

end

end

mutual

/-- A slot has the JSON form of the node that it is where nodes may stand. Brackets are written
alike in both. -/
theorem Slot.toJson_toNode : (slot : Slot) → slot.toNode.toJson = slot.toJson
  | .single _ => rfl
  | .seq slots => congrArg Value.array (Slot.toJsons_toNodes slots)

/-- Slots have the JSON forms of the nodes that they are where nodes may stand, one by one. -/
theorem Slot.toJsons_toNodes : (slots : List Slot) →
    Node.toJsons (Slot.toNodes slots) = Slot.toJsons slots
  | [] => rfl
  | slot :: others => by
    rw [toNodes, Node.toJsons, slot.toJson_toNode, Slot.toJsons_toNodes others, toJsons]

end

/-- To put slots where nodes may stand agrees with loading, walking and writing. A value that
reaches no command through arrays alone is loaded as a node exactly as it is loaded as a slot,
at every path and with the same fault if it has one. A visitor is called alike for a slot and
for the node, on equal nodes, with the same state and the same end, whatever command walkers
there are; that goes for a visitor that logs its calls as for any. Both have one JSON form. -/
theorem toNode_of_load_walk_toJson :
    (∀ (value : Value) (path : Path), value.HoldsNoCommand →
        Load.node value path = (Load.slot value path).map Slot.toNode) ∧
      (∀ {σ : Type} (walker : Walker σ) (slot : Slot),
        walker.walk slot.toNode = walker.visitor.walkSlot slot) ∧
      ∀ slot : Slot, slot.toNode.toJson = slot.toJson :=
  ⟨Load.node_eq_map_slot, Walker.walk_toNode, Slot.toJson_toNode⟩

/-- A function with a command among its arguments, and a column that says whether it was
quoted, both in an array of an array. -/
def nestedSlots (quoted : Value) : Value :=
  .array [.array [], .array [
    .object [("type", .string "function"), ("name", .string "f"), ("args", .array [
      .object [("type", .string "command"), ("name", .string "inner")]])],
    .object [("type", .string "column"), ("name", .string "a"), ("quoted", quoted)]]]

/-- The nested slots are loaded alike as slots and as nodes if the column is as it should be,
and are refused alike if it is not. -/
theorem node_nestedSlots :
    (∃ slot, Load.slot (nestedSlots (.boolean true)) {} = .ok slot ∧
        Load.node (nestedSlots (.boolean true)) {} = .ok slot.toNode) ∧
      Load.node (nestedSlots (.string "yes")) ⟨"here", []⟩ =
        .error (.invalidField ⟨"here", [.index 1, .index 1]⟩ .quoted .boolean) := by
  have plain (quoted : Value) : (nestedSlots quoted).HoldsNoCommand := by
    simp [nestedSlots, Json.Value.holdsNoCommand_array_iff, Json.Value.holdsNoCommand_object_iff,
      Kind.tag]
  obtain ⟨loads, _, _⟩ := toNode_of_load_walk_toJson
  refine ⟨?_, ?_⟩
  · have accepted : (Load.slot (nestedSlots (.boolean true)) {}).isOk = true := by cbv
    cases loaded : Load.slot (nestedSlots (.boolean true)) {} with
    | error fault =>
      rw [loaded] at accepted
      contradiction
    | ok slot =>
      have same := loads (nestedSlots (.boolean true)) {} (plain _)
      rw [loaded] at same
      exact ⟨slot, rfl, same⟩
  · have refused : Load.slot (nestedSlots (.string "yes")) ⟨"here", []⟩ =
        .error (.invalidField ⟨"here", [.index 1, .index 1]⟩ .quoted .boolean) := by
      cbv
    rw [loads _ _ (plain _), refused]
    rfl

end EsqlTree
