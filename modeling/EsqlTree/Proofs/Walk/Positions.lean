import EsqlTree.Proofs.Walk.Reach

/-!
# Where nodes stand

The nodes that a walk enters form a tree of their own, in which sequences are nodes like
any other and nothing hangs below a cast. A node stands there at an address: which child to
go down to, step by step from the top. Addresses tell equal nodes in different places apart.
In the lexicographic order of addresses a node comes before what hangs below it, and that
before everything to its right. This is pre-order, and the walk reports nodes in it.
-/

namespace EsqlTree

/-- The nodes right below a node that a walk enters, in order. -/
def Node.children : Node → List Node
  | .command node => node.args
  | .single item => Slot.toNodes item.children
  | .seq nodes => nodes

/-- The command that a node is, if it is one. -/
def Node.command? : Node → Option Command
  | .command node => some node
  | _ => none

/-- Slots are put where nodes may stand one by one, so positions among slots are positions among
nodes. -/
theorem Slot.toNodes_eq_map (slots : List Slot) : Slot.toNodes slots = slots.map Slot.toNode := by
  induction slots with
  | nil => rfl
  | cons slot others inOthers => rw [toNodes, inOthers, List.map_cons]

mutual

/-- A slot is as large as the node that it is where nodes may stand. A recursion into the children
of a node may therefore go on as one over nodes, even below an item. -/
theorem Slot.sizeOf_toNode : (slot : Slot) → sizeOf slot.toNode = sizeOf slot
  | .single item => by simp only [toNode, Node.single.sizeOf_spec, Slot.single.sizeOf_spec]
  | .seq slots => by
    simp only [toNode, Node.seq.sizeOf_spec, Slot.seq.sizeOf_spec, Slot.sizeOf_toNodes slots]

/-- Slots are as large as the nodes that they are where nodes may stand, since this holds of each.
-/
theorem Slot.sizeOf_toNodes : (slots : List Slot) → sizeOf (Slot.toNodes slots) = sizeOf slots
  | [] => rfl
  | slot :: others => by
    simp only [toNodes, List.cons.sizeOf_spec, Slot.sizeOf_toNode slot,
      Slot.sizeOf_toNodes others]

end

/-- The children of a node are smaller than the node, which is why recursion into them ends. The
cases are the nodes that can have children. -/
theorem Node.sizeOf_children_lt (node : Node) : sizeOf node.children < sizeOf node := by
  rcases node with ⟨header, args⟩ | (_ | ⟨_, _, args⟩ | ⟨_, args⟩ | ⟨_, values⟩ | _) | nodes
  all_goals
    simp [children, Item.children, Slot.toNodes, Slot.sizeOf_toNodes]
    try omega

/-- What holds of a node whenever it holds of its children holds of every node. Commands, items and
sequences are then one case each time, and not one for every type of the tree. -/
@[elab_as_elim]
theorem Node.induction_on_children {motive : Node → Prop} (node : Node)
    (step : ∀ node, (∀ child ∈ node.children, motive child) → motive node) : motive node :=
  step node fun child member => by
    have smaller := List.sizeOf_lt_of_mem member
    have below := node.sizeOf_children_lt
    exact Node.induction_on_children child step
termination_by sizeOf node

mutual

/-- The events of a slot are those of the node that it is where nodes may stand. Neither a slot nor
a node has an event for being a sequence. -/
theorem Slot.events_toNode : (slot : Slot) → slot.toNode.events = slot.events
  | .single _ => rfl
  | .seq slots => Slot.allEvents_toNodes slots

/-- The events of slots are those of the nodes that they are where nodes may stand, since this holds
of each. -/
theorem Slot.allEvents_toNodes : (slots : List Slot) →
    Node.allEvents (Slot.toNodes slots) = Slot.allEvents slots
  | [] => rfl
  | slot :: others => by
    rw [toNodes, Node.allEvents, Slot.events_toNode slot, Slot.allEvents_toNodes others, allEvents]

end

/-- The events of a node are its own, and then those of its children. This is pre-order, said once
for every kind of node. -/
theorem Node.events_eq_append (node : Node) :
    node.events = node.ownEvents ++ Node.allEvents node.children := by
  cases node with
  | command node =>
    obtain ⟨header, args⟩ := node
    rfl
  | single item => rw [events, item.events_eq_append, children, Slot.allEvents_toNodes]
  | seq nodes => rfl

/-- The way down from a node: the position of the child to go to, then of a child of that one,
and so on. -/
abbrev Address := List Nat

/-- The node at an address below a node. -/
def Node.nodeAt? : Node → Address → Option Node
  | node, [] => some node
  | node, position :: rest => node.children[position]?.bind fun child => child.nodeAt? rest

/-- The node at an address of a tree; an absent one has no addresses. -/
def Root.nodeAt? (root : Root) (address : Address) : Option Node :=
  root.bind fun node => node.nodeAt? address

/-- A node, and the address at which it stands. -/
structure Spot where
  /-- Where the node stands. -/
  address : Address
  /-- The node. -/
  node : Node

/-- A spot below a child, seen from the parent. -/
def Spot.under (position : Nat) (spot : Spot) : Spot :=
  { spot with address := position :: spot.address }

mutual

/-- The spots of a node and of all nodes below it, in pre-order. -/
def Node.spots (node : Node) : List Spot := ⟨[], node⟩ :: Node.spotsOfEach node.children 0
termination_by sizeOf node
decreasing_by exact node.sizeOf_children_lt

/-- The spots of nodes in turn, the first of them having a position among its siblings. -/
def Node.spotsOfEach (nodes : List Node) (position : Nat) : List Spot :=
  match nodes with
  | [] => []
  | node :: others => node.spots.map (.under position) ++ Node.spotsOfEach others (position + 1)
termination_by sizeOf nodes

end

/-- The spots of a tree; an absent one has none. -/
def Root.spots : Root → List Spot
  | none => []
  | some node => node.spots

/-- The spots of some nodes are those of each, behind its position. The induction is on the nodes;
the positions of the others count from one more. -/
theorem Node.mem_spotsOfEach_iff (nodes : List Node) (first : Nat) (spot : Spot) :
    spot ∈ Node.spotsOfEach nodes first ↔
      ∃ (position : Nat) (node : Node), nodes[position]? = some node ∧
        ∃ below ∈ node.spots, spot = below.under (first + position) := by
  induction nodes generalizing first with
  | nil => simp [spotsOfEach]
  | cons node others inOthers =>
    simp only [spotsOfEach, List.mem_append, List.mem_map, inOthers]
    constructor
    · rintro (⟨below, member, rfl⟩ | ⟨position, child, found, below, member, rfl⟩)
      · exact ⟨0, node, rfl, below, member, rfl⟩
      · exact ⟨position + 1, child, found, below, member, by rw [Nat.add_assoc, Nat.add_comm 1]⟩
    · rintro ⟨position, child, found, below, member, rfl⟩
      cases position with
      | zero =>
        obtain rfl : node = child := by simpa using found
        exact .inl ⟨below, member, rfl⟩
      | succ position =>
        exact .inr ⟨position, child, found, below, member, by rw [Nat.add_assoc, Nat.add_comm 1]⟩

/-- The spots of a node are all its addresses, each with the node that stands there. The induction
is on the children: an address that is empty is that of the node itself, and of any other one the
first position leads to a child, below which the rest of it leads. -/
theorem Node.mem_spots_iff (node : Node) (spot : Spot) :
    spot ∈ node.spots ↔ node.nodeAt? spot.address = some spot.node := by
  induction node using Node.induction_on_children generalizing spot with
  | step node inChildren =>
    obtain ⟨address, target⟩ := spot
    rw [spots, List.mem_cons, Node.mem_spotsOfEach_iff]
    cases address with
    | nil => simp [nodeAt?, Spot.under, eq_comm]
    | cons position rest =>
      simp only [nodeAt?, Option.bind_eq_some_iff, Spot.under, Spot.mk.injEq, List.cons.injEq,
        Nat.zero_add]
      constructor
      · rintro (⟨empty, _⟩ | ⟨_, child, found, below, member, ⟨rfl, rfl⟩, rfl⟩)
        · contradiction
        · exact ⟨child, found, (inChildren child (List.mem_of_getElem? found) below).mp member⟩
      · rintro ⟨child, found, stands⟩
        have member := (inChildren child (List.mem_of_getElem? found) ⟨rest, target⟩).mpr stands
        exact .inr ⟨position, child, found, _, member, ⟨rfl, rfl⟩, rfl⟩

/-- The spots of a tree are all its addresses, each with the node that stands there. An absent tree
has neither. -/
theorem Root.mem_spots_iff (root : Root) (spot : Spot) :
    spot ∈ root.spots ↔ root.nodeAt? spot.address = some spot.node := by
  cases root with
  | none => simp [spots, nodeAt?]
  | some node => exact node.mem_spots_iff spot

/-- The addresses of nodes in turn ascend, if those of each node do. Within one node they share
their first position, and the positions of later nodes are greater. -/
theorem Node.pairwise_spotsOfEach {nodes : List Node}
    (each : ∀ node ∈ nodes, (node.spots.map Spot.address).Pairwise (· < ·)) (first : Nat) :
    ((Node.spotsOfEach nodes first).map Spot.address).Pairwise (· < ·) := by
  induction nodes generalizing first with
  | nil => simp [spotsOfEach]
  | cons node others inOthers =>
    rw [spotsOfEach, List.map_append, List.pairwise_append]
    refine ⟨?_, inOthers (fun other member => each other (List.mem_cons_of_mem _ member)) _, ?_⟩
    · have within := each node List.mem_cons_self
      rw [List.pairwise_map] at within ⊢
      rw [List.pairwise_map]
      exact within.imp fun below => List.cons_lt_cons_iff.mpr (.inr ⟨rfl, below⟩)
    · -- The first step already tells the two apart.
      intro left inLeft right inRight
      simp only [List.mem_map] at inLeft inRight
      obtain ⟨_, ⟨leftSpot, _, rfl⟩, rfl⟩ := inLeft
      obtain ⟨_, member, rfl⟩ := inRight
      obtain ⟨position, _, _, rightSpot, _, rfl⟩ :=
        (Node.mem_spotsOfEach_iff others (first + 1) _).mp member
      exact List.cons_lt_cons_iff.mpr (.inl (by omega))

/-- Pre-order goes by the lexicographic order of addresses, and no address comes twice. The
induction is on the children: the address of the node is empty, which is less than every other one.
-/
theorem Node.pairwise_spots (node : Node) : (node.spots.map Spot.address).Pairwise (· < ·) := by
  induction node using Node.induction_on_children with
  | step node inChildren =>
    rw [spots, List.map_cons, List.pairwise_cons]
    refine ⟨?_, Node.pairwise_spotsOfEach inChildren 0⟩
    intro address member
    obtain ⟨spot, isBelow, rfl⟩ := List.mem_map.mp member
    obtain ⟨_, _, _, _, _, rfl⟩ := (Node.mem_spotsOfEach_iff node.children 0 spot).mp isBelow
    exact List.nil_lt_cons _ _

/-- The spots of a tree go by the lexicographic order of addresses, without repetition. So two equal
nodes that stand in different places are two spots. -/
theorem Root.pairwise_spots (root : Root) : (root.spots.map Spot.address).Pairwise (· < ·) := by
  cases root with
  | none => exact .nil
  | some node => exact node.pairwise_spots

/-- The events of nodes in turn are those by which the nodes at their spots are reported, if this
holds of each. The position from which the nodes are counted has no part in the events. -/
theorem Node.allEvents_eq_flatMap {nodes : List Node}
    (each : ∀ node ∈ nodes, node.events = node.spots.flatMap fun spot => spot.node.ownEvents)
    (first : Nat) :
    Node.allEvents nodes =
      (Node.spotsOfEach nodes first).flatMap fun spot => spot.node.ownEvents := by
  induction nodes generalizing first with
  | nil => simp [allEvents, spotsOfEach]
  | cons node others inOthers =>
    rw [allEvents, spotsOfEach, List.flatMap_append, List.flatMap_map, each node List.mem_cons_self,
      inOthers (fun other member => each other (List.mem_cons_of_mem _ member)) (first + 1)]
    rfl

/-- The events of a node are those by which the nodes at its spots are reported, in pre-order. The
induction is on the children, and a node's own events stand in front of theirs. -/
theorem Node.events_eq_flatMap (node : Node) :
    node.events = node.spots.flatMap fun spot => spot.node.ownEvents := by
  induction node using Node.induction_on_children with
  | step node inChildren =>
    rw [Node.events_eq_append, spots, List.flatMap_cons, Node.allEvents_eq_flatMap inChildren 0]

/-- The events of a tree are those by which the nodes at its spots are reported, in pre-order. So
the order of a walk is the order of addresses. -/
theorem Root.events_eq_flatMap (root : Root) :
    root.events = root.spots.flatMap fun spot => spot.node.ownEvents := by
  cases root with
  | none => rfl
  | some node => exact node.events_eq_flatMap

end EsqlTree
