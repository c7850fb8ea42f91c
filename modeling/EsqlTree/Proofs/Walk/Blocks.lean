import EsqlTree.Proofs.Walk.Positions
import EsqlTree.Proofs.Walk.Queries

/-!
# Blocks of events

Every event of a walk is that of one node, and the node stands at one address. So events can be
told apart by where their nodes stand, equal nodes in different places included. The events of a
node and of all nodes below it make a block: they stand together, the node's own one first, and
they are those of a walk of the node alone. Blocks lie as addresses do. That of a node below
another lies inside the other's, and of two nodes that are not above each other, the one whose
way parts to the left has its block in front.
-/

namespace EsqlTree

/-- An event, and the address of the node that it reports. -/
structure PlacedEvent where
  /-- Where the node stands. -/
  address : Address
  /-- The event. -/
  event : Event

/-- The events by which the node at a spot is reported. -/
def Spot.placedEvents (spot : Spot) : List PlacedEvent :=
  spot.node.ownEvents.map fun event => ⟨spot.address, event⟩

/-- The events of a tree in pre-order, each with the address of its node. -/
def Root.placedEvents (root : Root) : List PlacedEvent := root.spots.flatMap Spot.placedEvents

/-- Without their addresses, these are the events of the trace. So what is proved of placed events
is said of the trace itself. -/
theorem Root.map_event_placedEvents (root : Root) :
    root.placedEvents.map PlacedEvent.event = trace root := by
  rw [trace_eq_events, root.events_eq_flatMap, placedEvents, List.map_flatMap]
  simp only [Spot.placedEvents, List.map_map, Function.comp_def, List.map_id']

/-- All events of a spot have its address, which is what lets the order of the spots be carried over
to the events. -/
theorem Spot.address_of_mem_placedEvents {spot : Spot} {placed : PlacedEvent}
    (member : placed ∈ spot.placedEvents) : placed.address = spot.address := by
  obtain ⟨event, _, rfl⟩ := List.mem_map.mp member
  rfl

/-- What holds of the addresses of spots holds of those of their events, as an event has no other
address than its spot's. -/
theorem Spot.address_of_mem_flatMap (holds : Address → Prop) {spots : List Spot}
    (each : ∀ spot ∈ spots, holds spot.address) :
    ∀ placed ∈ spots.flatMap Spot.placedEvents, holds placed.address := by
  intro placed member
  obtain ⟨spot, listed, own⟩ := List.mem_flatMap.mp member
  rw [Spot.address_of_mem_placedEvents own]
  exact each spot listed

/-- Along the events, addresses never descend. They need not ascend, because an item may have two
events at one address; from one spot to a later one they do. -/
theorem Root.pairwise_placedEvents (root : Root) :
    root.placedEvents.Pairwise fun earlier later => ¬ later.address < earlier.address := by
  rw [placedEvents, List.pairwise_flatMap]
  constructor
  · intro spot _
    rw [Spot.placedEvents, List.pairwise_map]
    exact List.pairwise_of_forall fun _ _ => List.lt_irrefl _
  · refine (List.pairwise_map.mp root.pairwise_spots).imp ?_
    intro earlier later ascends left inLeft right inRight
    rw [Spot.address_of_mem_placedEvents inLeft, Spot.address_of_mem_placedEvents inRight]
    exact List.lt_asymm ascends

/-- A spot below the node at an address, seen from above. -/
def Spot.below (address : Address) (spot : Spot) : Spot :=
  { spot with address := address ++ spot.address }

/-- The spots of nodes may be listed in two parts, where the second part counts its positions on
from the length of the first. -/
theorem Node.spotsOfEach_append (front back : List Node) (first : Nat) :
    Node.spotsOfEach (front ++ back) first =
      Node.spotsOfEach front first ++ Node.spotsOfEach back (first + front.length) := by
  induction front generalizing first with
  | nil => simp [spotsOfEach]
  | cons node others inOthers =>
    rw [List.cons_append, spotsOfEach, spotsOfEach, inOthers, List.append_assoc, List.length_cons]
    congr 3
    omega

/-- Below another position than its own, there is no spot of a node: its address begins with the
position of the node itself, which lies among those that are listed. -/
theorem Node.not_prefix_of_mem_spotsOfEach {nodes : List Node} {first position : Nat} {spot : Spot}
    (member : spot ∈ Node.spotsOfEach nodes first)
    (apart : position < first ∨ first + nodes.length ≤ position) (rest : Address) :
    ¬ position :: rest <+: spot.address := by
  obtain ⟨own, _, stands, _, _, rfl⟩ := (Node.mem_spotsOfEach_iff nodes first spot).mp member
  have inside : own < nodes.length := (List.getElem?_eq_some_iff.mp stands).1
  intro same
  have head := (List.cons_prefix_cons.mp same).1
  omega

/-- The spots of one of some nodes stand between those of the nodes in front of it and behind it,
which are not below its position. The nodes are cut at the position, and each part is listed for
itself. -/
theorem Node.spotsOfEach_eq_append {nodes : List Node} {position : Nat} {child : Node}
    (stands : nodes[position]? = some child) :
    ∃ before after,
      Node.spotsOfEach nodes 0 = before ++ child.spots.map (.under position) ++ after ∧
      (∀ spot ∈ before, ∀ rest, ¬ position :: rest <+: spot.address) ∧
      ∀ spot ∈ after, ∀ rest, ¬ position :: rest <+: spot.address := by
  obtain ⟨inside, rfl⟩ := List.getElem?_eq_some_iff.mp stands
  have length : (nodes.take position).length = position := by
    rw [List.length_take]
    omega
  refine ⟨Node.spotsOfEach (nodes.take position) 0,
    Node.spotsOfEach (nodes.drop (position + 1)) (position + 1), ?_, ?_, ?_⟩
  · calc
      Node.spotsOfEach nodes 0 =
          Node.spotsOfEach (nodes.take position ++ nodes.drop position) 0 := by
        rw [List.take_append_drop]
      _ = _ := by
        rw [List.drop_eq_getElem_cons inside, Node.spotsOfEach_append, spotsOfEach, length,
          Nat.zero_add, List.append_assoc]
  · intro spot member
    exact Node.not_prefix_of_mem_spotsOfEach member (.inr (by omega))
  · intro spot member
    exact Node.not_prefix_of_mem_spotsOfEach member (.inl (by omega))

/-- Among the spots of a node, those of the node at an address and of all nodes below it stand
together. By induction on the address: at each step down, what stood in front keeps standing in
front, together with the node and the children to the left of the way. -/
theorem Node.spots_eq_append {node target : Node} {address : Address}
    (found : node.nodeAt? address = some target) :
    ∃ before after, node.spots = before ++ target.spots.map (.below address) ++ after ∧
      (∀ spot ∈ before, ¬ address <+: spot.address) ∧
      ∀ spot ∈ after, ¬ address <+: spot.address := by
  induction address generalizing node with
  | nil =>
    obtain rfl : node = target := by simpa [nodeAt?] using found
    have same : Spot.below [] = id := rfl
    exact ⟨[], [], by simp [same], by simp, by simp⟩
  | cons position rest inRest =>
    obtain ⟨child, stands, found⟩ := Option.bind_eq_some_iff.mp found
    obtain ⟨front, back, siblings, notFront, notBack⟩ := Node.spotsOfEach_eq_append stands
    obtain ⟨before, after, split, notBefore, notAfter⟩ := inRest found
    refine ⟨⟨[], node⟩ :: front ++ before.map (.under position),
      after.map (.under position) ++ back, ?_, ?_, ?_⟩
    · rw [spots, siblings, split]
      simp [Spot.under, Spot.below]
    · intro spot member
      rcases List.mem_append.mp member with member | member
      · rcases List.mem_cons.mp member with rfl | member
        · simp
        · exact notFront spot member rest
      · obtain ⟨inChild, listed, rfl⟩ := List.mem_map.mp member
        intro same
        exact notBefore inChild listed (List.cons_prefix_cons.mp same).2
    · intro spot member
      rcases List.mem_append.mp member with member | member
      · obtain ⟨inChild, listed, rfl⟩ := List.mem_map.mp member
        intro same
        exact notAfter inChild listed (List.cons_prefix_cons.mp same).2
      · exact notBack spot member rest

/-- The event by which a walk of a node begins; a sequence is not reported. -/
def Node.opening? : Node → Option Event
  | .command node => some (.command node)
  | .single item => some (.single item)
  | .seq _ => none

/-- The event by which a walk of a node begins is the first of its own. A sequence has no event at
all and is left out by the hypothesis. -/
theorem Node.ownEvents_eq_cons {node : Node} {first : Event} (opens : node.opening? = some first) :
    ∃ more, node.ownEvents = first :: more := by
  cases node with
  | command node =>
    obtain rfl := Option.some.inj opens
    exact ⟨[], rfl⟩
  | single item =>
    obtain rfl := Option.some.inj opens
    exact ⟨item.event?.toList, rfl⟩
  | seq nodes => simp [opening?] at opens

/-- Among the events of a tree, those of the nodes at and below an address stand together, and they
are those of a walk of the node at the address alone. This is the same cut as that of the spots,
read through the events of each. -/
theorem Root.placedEvents_eq_append {root : Root} {address : Address} {node : Node} {first : Event}
    (found : root.nodeAt? address = some node) (opens : node.opening? = some first) :
    ∃ before inside after, root.placedEvents = before ++ inside ++ after ∧
      inside.map PlacedEvent.event = trace (some node) ∧
      (∃ more, inside = ⟨address, first⟩ :: more) ∧
      (∀ placed ∈ before, ¬ address <+: placed.address) ∧
      (∀ placed ∈ inside, address <+: placed.address) ∧
      ∀ placed ∈ after, ¬ address <+: placed.address := by
  obtain ⟨whole, rfl, found⟩ := Option.bind_eq_some_iff.mp found
  obtain ⟨before, after, split, notBefore, notAfter⟩ := Node.spots_eq_append found
  refine ⟨before.flatMap Spot.placedEvents,
    (node.spots.map (.below address)).flatMap Spot.placedEvents,
    after.flatMap Spot.placedEvents, ?_, ?_, ?_, ?_, ?_, ?_⟩
  · rw [placedEvents, spots, split, List.flatMap_append, List.flatMap_append]
  · rw [← Root.map_event_placedEvents, placedEvents, spots, List.flatMap_map, List.map_flatMap,
      List.map_flatMap]
    simp only [Spot.placedEvents, Spot.below, List.map_map, Function.comp_def]
  · obtain ⟨more, own⟩ := Node.ownEvents_eq_cons opens
    rw [Node.spots, List.map_cons, List.flatMap_cons, Spot.placedEvents, Spot.below, own,
      List.map_cons, List.append_nil, List.cons_append]
    exact ⟨_, rfl⟩
  · exact Spot.address_of_mem_flatMap (fun other => ¬ address <+: other) notBefore
  · refine Spot.address_of_mem_flatMap (fun other => address <+: other) fun spot listed => ?_
    obtain ⟨below, _, rfl⟩ := List.mem_map.mp listed
    exact List.prefix_append address below.address
  · exact Spot.address_of_mem_flatMap (fun other => ¬ address <+: other) notAfter

/-- The events of the nodes at and below an address are those from one position of the walk up to
another, and the first of them is of the node at the address itself. -/
structure Root.Block (root : Root) (address : Address) (start stop : Nat) : Prop where
  /-- The block does not go beyond the end. -/
  stop_le : stop ≤ root.placedEvents.length
  /-- It begins with an event of the node. -/
  opens : ∃ first, root.placedEvents[start]? = some ⟨address, first⟩
  /-- It holds the events at and below the address, and no others. -/
  together : ∀ position placed, root.placedEvents[position]? = some placed →
    ((start ≤ position ∧ position < stop) ↔ address <+: placed.address)

/-- Where elements of one kind stand between elements of others, their positions tell them: a
position is in front of the middle part, in it, or behind it. -/
theorem between_iff {α : Type} {isInside : α → Prop} {before inside after : List α}
    (notBefore : ∀ element ∈ before, ¬ isInside element)
    (all : ∀ element ∈ inside, isInside element)
    (notAfter : ∀ element ∈ after, ¬ isInside element) {position : Nat} {element : α}
    (found : (before ++ inside ++ after)[position]? = some element) :
    (before.length ≤ position ∧ position < before.length + inside.length) ↔ isInside element := by
  rcases Nat.lt_or_ge position before.length with early | reached
  · rw [List.append_assoc, List.getElem?_append_left early] at found
    have other := notBefore element (List.mem_of_getElem? found)
    simp only [other, iff_false]
    omega
  · rw [List.append_assoc, List.getElem?_append_right reached] at found
    rcases Nat.lt_or_ge (position - before.length) inside.length with within | late
    · rw [List.getElem?_append_left within] at found
      have one := all element (List.mem_of_getElem? found)
      simp only [one, iff_true]
      omega
    · rw [List.getElem?_append_right late] at found
      have other := notAfter element (List.mem_of_getElem? found)
      simp only [other, iff_false]
      omega

/-- The events at and below the address of a node that is reported make a block, and they are those
of a walk of the node alone. The block starts behind all events that stand in front of the node's.
-/
theorem Root.exists_block {root : Root} {address : Address} {node : Node} {first : Event}
    (found : root.nodeAt? address = some node) (opens : node.opening? = some first) :
    ∃ start stop, root.Block address start stop ∧ (trace root)[start]? = some first ∧
      (trace root).extract start stop = trace (some node) := by
  obtain ⟨before, inside, after, split, alone, ⟨more, begins⟩, notBefore, all, notAfter⟩ :=
    Root.placedEvents_eq_append found opens
  have here : root.placedEvents[before.length]? = some ⟨address, first⟩ := by
    rw [split, begins]
    simp
  refine ⟨before.length, before.length + inside.length, ⟨?_, ⟨first, here⟩, ?_⟩, ?_, ?_⟩
  · rw [split]
    simp
  · intro position placed stands
    rw [split] at stands
    exact between_iff notBefore all notAfter stands
  · rw [← root.map_event_placedEvents, List.getElem?_map, here, Option.map_some]
  · rw [← root.map_event_placedEvents, ← alone, split]
    simp

namespace Address

/-- True of two addresses of which neither leads on from the other, where the first way parts to the
left of the second. -/
def LeftOf (left right : Address) : Prop :=
  ∃ (common : Address) (first second : Nat) (restLeft restRight : Address),
    left = common ++ first :: restLeft ∧ right = common ++ second :: restRight ∧ first < second

/-- Of two addresses one leads on from the other, or they lie beside each other. They are followed
together until one ends or their ways part. -/
theorem prefix_or_leftOf (one other : Address) :
    one <+: other ∨ other <+: one ∨ LeftOf one other ∨ LeftOf other one := by
  induction one generalizing other with
  | nil => exact .inl (List.nil_prefix)
  | cons first rest inRest =>
    cases other with
    | nil => exact .inr (.inl (List.nil_prefix))
    | cons second others =>
      rcases Nat.lt_trichotomy first second with before | rfl | behind
      · exact .inr (.inr (.inl ⟨[], first, second, rest, others, rfl, rfl, before⟩))
      · rcases inRest others with onward | back | ⟨common, i, j, left, right, rfl, rfl, before⟩ |
          ⟨common, i, j, left, right, rfl, rfl, before⟩
        · exact .inl (List.cons_prefix_cons.mpr ⟨rfl, onward⟩)
        · exact .inr (.inl (List.cons_prefix_cons.mpr ⟨rfl, back⟩))
        · exact .inr (.inr (.inl ⟨first :: common, i, j, left, right, rfl, rfl, before⟩))
        · exact .inr (.inr (.inr ⟨first :: common, i, j, left, right, rfl, rfl, before⟩))
      · exact .inr (.inr (.inr ⟨[], second, first, others, rest, rfl, rfl, behind⟩))

/-- What is below the left one of two addresses comes before what is below the right one: the order
is decided where the ways part, and what follows does not matter. -/
theorem LeftOf.lt_of_prefix {left right below beside : Address} (parted : LeftOf left right)
    (inLeft : left <+: below) (inRight : right <+: beside) : below < beside := by
  obtain ⟨common, first, second, _, _, rfl, rfl, before⟩ := parted
  obtain ⟨_, rfl⟩ := inLeft
  obtain ⟨_, rfl⟩ := inRight
  rw [List.append_assoc, List.append_assoc]
  exact List.append_left_lt (List.cons_lt_cons_iff.mpr (.inl before))

end Address

namespace Root.Block

variable {root : Root} {start stop otherStart otherStop : Nat}

/-- A block is not empty. Its first event has the address of the block, so the position of that
event lies between the two ends. -/
theorem start_lt {address : Address} (block : root.Block address start stop) : start < stop := by
  obtain ⟨first, here⟩ := block.opens
  exact ((block.together start _ here).mpr (List.prefix_refl _)).2

/-- The block of a node below another lies inside the other's, behind the other's own event. An
address below the inner node is below the outer one, so each position of the inner block is one of
the outer; and the two do not begin together, as the outer begins with an event of another address.
-/
theorem nested {outer inner : Address} (block : root.Block outer start stop)
    (below : root.Block inner otherStart otherStop) (onward : outer <+: inner)
    (apart : outer ≠ inner) : start < otherStart ∧ otherStop ≤ stop := by
  have notEmpty := below.start_lt
  have inside (position : Nat) (reached : otherStart ≤ position) (within : position < otherStop) :
      start ≤ position ∧ position < stop := by
    have short : position < root.placedEvents.length := Nat.lt_of_lt_of_le within below.stop_le
    have stands := List.getElem?_eq_getElem short
    exact (block.together _ _ stands).mpr
      (onward.trans ((below.together _ _ stands).mp ⟨reached, within⟩))
  have first := inside otherStart (Nat.le_refl _) notEmpty
  have last := inside (otherStop - 1) (by omega) (by omega)
  have distinct : start ≠ otherStart := by
    rintro rfl
    obtain ⟨_, here⟩ := block.opens
    have same := (below.together _ _ here).mp ⟨Nat.le_refl _, notEmpty⟩
    exact apart (onward.eq_of_length_le same.length_le)
  omega

/-- Where two ways part, the block of the left one is in front. Its last event has an address below
the left one, which comes before the right one; so it cannot stand at or behind the first event of
the right block. -/
theorem ordered {left right : Address} (block : root.Block left start stop)
    (beside : root.Block right otherStart otherStop) (parted : left.LeftOf right) :
    stop ≤ otherStart := by
  have notEmpty := block.start_lt
  have notEmptyBeside := beside.start_lt
  have stopInside := block.stop_le
  have lastInside : stop - 1 < root.placedEvents.length := by omega
  obtain ⟨first, here⟩ := beside.opens
  obtain ⟨firstInside, _⟩ := List.getElem?_eq_some_iff.mp here
  have last := List.getElem?_eq_getElem lastInside
  have inLeft := (block.together _ _ last).mp (by omega)
  have ascends : (root.placedEvents[stop - 1]).address < right :=
    parted.lt_of_prefix inLeft (List.prefix_refl right)
  -- Otherwise an event of the left block would stand at or behind the first of the right one.
  refine Nat.le_of_not_lt fun overlaps => ?_
  rcases Nat.eq_or_lt_of_le (Nat.le_sub_one_of_lt overlaps) with rfl | behind
  · rw [last] at here
    rw [Option.some.inj here] at ascends
    exact List.lt_irrefl _ ascends
  · have sorted := List.pairwise_iff_getElem.mp root.pairwise_placedEvents _ _ firstInside
      lastInside behind
    rw [Option.some.inj ((List.getElem?_eq_getElem firstInside).symm.trans here)] at sorted
    exact sorted ascends

end Root.Block

/-- A walk reports each command and each single item of a tree in a block of its own, and blocks lie
as the addresses of their nodes do.

The block of a node begins with the event of the node itself, holds all events at and below its
address and no others, and is what a walk of the node alone makes. Of two nodes, either one is
above the other, and its block begins first and goes on at least as far, or their ways part, and
the block to the left has ended where the one to the right begins.

Proof: events are placed in the order of their addresses, and those at and below one address stand
together. So what lies between the ends of a block is told from the address alone. -/
theorem blocks_of_walk (root : Root) :
    root.placedEvents.map PlacedEvent.event = trace root ∧
      (∀ address node first, root.nodeAt? address = some node → node.opening? = some first →
        ∃ start stop, root.Block address start stop ∧ (trace root)[start]? = some first ∧
          (trace root).extract start stop = trace (some node)) ∧
      ∀ one other start stop otherStart otherStop,
        root.Block one start stop → root.Block other otherStart otherStop →
          (one <+: other → one ≠ other → start < otherStart ∧ otherStop ≤ stop) ∧
          (one.LeftOf other → stop ≤ otherStart) ∧
          (one <+: other ∨ other <+: one ∨ one.LeftOf other ∨ other.LeftOf one) := by
  refine ⟨root.map_event_placedEvents, fun _ _ _ => Root.exists_block, ?_⟩
  intro one other start stop otherStart otherStop block beside
  refine ⟨?_, ?_, Address.prefix_or_leftOf one other⟩
  · intro onward apart
    exact block.nested beside onward apart
  · intro parted
    exact block.ordered beside parted

/-- A function call with the same column twice, once inside a sequence. -/
def repeated : Root :=
  some (.command { Header.named "eval" with
    args := [.single (.function { Header.named "f" with
      args := [.seq [.single (.atom (.column (Column.named "a")))],
        .single (.atom (.column (Column.named "a")))] })] })

/-- The two equal columns have blocks of their own, which follow each other and are part of that of
the function. That the columns are equal does not matter, because their addresses are not. -/
theorem blocks_of_repeated :
    ∃ function column start stop first second third last,
      repeated.nodeAt? [0] = some function ∧ repeated.Block [0] start stop ∧
      repeated.nodeAt? [0, 0, 0] = some column ∧ repeated.Block [0, 0, 0] first second ∧
      repeated.nodeAt? [0, 1] = some column ∧ repeated.Block [0, 1] third last ∧
      (trace repeated).extract start stop = trace (some function) ∧
      start < first ∧ second ≤ third ∧ last ≤ stop := by
  obtain ⟨_, blocks, lie⟩ := blocks_of_walk repeated
  obtain ⟨start, stop, whole, _, alone⟩ := blocks [0] _ _ rfl rfl
  obtain ⟨first, second, early, _, _⟩ := blocks [0, 0, 0] _ _ rfl rfl
  obtain ⟨third, last, late, _, _⟩ := blocks [0, 1] _ _ rfl rfl
  have below := (lie _ _ _ _ _ _ whole early).1 (by decide) (by decide)
  have beside := (lie _ _ _ _ _ _ early late).2.1 ⟨[0], 0, 1, [0], [], rfl, rfl, by decide⟩
  have within := (lie _ _ _ _ _ _ whole late).1 (by decide) (by decide)
  exact ⟨_, _, start, stop, first, second, third, last, rfl, whole, rfl, early, rfl, late, alone,
    below.1, beside, within.2⟩

end EsqlTree
