import EsqlTree.Proofs.Walk.Preorder

/-!
# What a walk reaches

A walk reaches nodes through sequences, the arguments of commands, functions and options,
and the values of lists. It does not reach what stands below a cast. What is reached is said
here of the tree alone, and the events of a tree are those by which the nodes that it reaches
are reported. The events of a function that is reached stand together: from the event for all
items on, and to the last one of its last argument.
-/

namespace EsqlTree

/-- The slots of an item that a walk enters. The operand of a cast is not among them. -/
def Item.children : Item → List Slot
  | .atom _ => []
  | .function node => node.args
  | .option node => node.args
  | .list node => node.values
  | .inlineCast _ => []

mutual

/-- An item reaches itself, and what the slots that are entered reach. -/
inductive Item.Reaches : Item → Item → Prop where
  | itself {item : Item} : Item.Reaches item item
  | child {item target : Item} {slot : Slot} (member : slot ∈ item.children)
      (reached : Slot.Reaches slot target) : Item.Reaches item target

/-- A slot reaches what its item reaches, or a slot of its sequence. -/
inductive Slot.Reaches : Slot → Item → Prop where
  | single {item target : Item} (reached : Item.Reaches item target) :
      Slot.Reaches (.single item) target
  | seq {slots : List Slot} {slot : Slot} {target : Item} (member : slot ∈ slots)
      (reached : Slot.Reaches slot target) : Slot.Reaches (.seq slots) target

end

/-- A node reaches itself if it is a command, what its arguments or the nodes of its sequence
reach, and what its item reaches. -/
inductive Node.Reaches : Node → Node → Prop where
  | command {node : Command} : Node.Reaches (.command node) (.command node)
  | argument {header : Header} {args : List Node} {node target : Node} (member : node ∈ args)
      (reached : Node.Reaches node target) : Node.Reaches (.command ⟨header, args⟩) target
  | seq {nodes : List Node} {node target : Node} (member : node ∈ nodes)
      (reached : Node.Reaches node target) : Node.Reaches (.seq nodes) target
  | single {item target : Item} (reached : Item.Reaches item target) :
      Node.Reaches (.single item) (.single target)

/-- A tree reaches what its node reaches; an absent one reaches nothing. -/
def Root.Reaches (root : Root) (target : Node) : Prop :=
  ∃ node, root = some node ∧ node.Reaches target

/-- The event by which an item's kind is reported; inert items have none. -/
def Item.event? : Item → Option Event
  | .atom node => node.event?
  | .function node => some (.function node)
  | .option node => some (.option node)
  | .list node => some (.list node)
  | .inlineCast node => some (.inlineCast node)

/-- The events by which a node is reported, without those of what hangs below it. -/
def Node.ownEvents : Node → List Event
  | .command node => [.command node]
  | .single item => .single item :: item.event?.toList
  | .seq _ => []

/-- Only a function is reported by the event of a function. The cases are the kinds of nodes, whose
events are told apart by their hooks. -/
theorem Node.function_mem_ownEvents_iff (node : FunctionCall) (target : Node) :
    .function node ∈ target.ownEvents ↔ target = .single (.function node) := by
  rcases target with command | (atom | _ | _ | _ | _) | nodes
  case single.atom =>
    cases atom <;> simp [ownEvents, Item.event?, Atom.event?]
  all_goals simp [ownEvents, Item.event?, eq_comm]

/-- Only a literal is reported by the event of a literal. The cases are the kinds of nodes, as for
functions. -/
theorem Node.literal_mem_ownEvents_iff (node : Literal) (target : Node) :
    .literal node ∈ target.ownEvents ↔ target = .single (.atom (.literal node)) := by
  rcases target with command | (atom | _ | _ | _ | _) | nodes
  case single.atom =>
    cases atom <;> simp [ownEvents, Item.event?, Atom.event?, eq_comm]
  all_goals simp [ownEvents, Item.event?]

/-- The events of an item are its own, and those of the slots that are entered. So what holds of the
events of any item can be shown without looking at its kind again. -/
theorem Item.events_eq_append (item : Item) :
    item.events = (Node.single item).ownEvents ++ Slot.allEvents item.children := by
  cases item with
  | atom node => simp [events, Atom.events, Node.ownEvents, event?, children, Slot.allEvents]
  | function node => obtain ⟨header, form, args⟩ := node; rfl
  | option node => obtain ⟨header, args⟩ := node; rfl
  | list node => obtain ⟨header, values⟩ := node; rfl
  | inlineCast node => rfl

/-- The events of an item are those of the items that it reaches, if this holds of the slots that
are entered. An event is the item's own, and then the item that it reaches is itself, or it is found
below a slot that is entered. -/
theorem Item.mem_events_of_children {event : Event} {item : Item}
    (below : event ∈ Slot.allEvents item.children ↔
      ∃ slot ∈ item.children, ∃ target, slot.Reaches target ∧
        event ∈ (Node.single target).ownEvents) :
    event ∈ item.events ↔ ∃ target, item.Reaches target ∧
      event ∈ (Node.single target).ownEvents := by
  rw [events_eq_append, List.mem_append, below]
  constructor
  · rintro (own | ⟨slot, member, target, reached, own⟩)
    · exact ⟨item, .itself, own⟩
    · exact ⟨target, .child member reached, own⟩
  · rintro ⟨target, reached, own⟩
    cases reached with
    | itself => exact .inl own
    | child member reached => exact .inr ⟨_, member, target, reached, own⟩

mutual

/-- The events of an item are those of the items that it reaches. The recursion goes down the slots
that are entered; a cast has none, so nothing below it is reached or reported. -/
theorem Item.mem_events_iff (event : Event) : (item : Item) →
    (event ∈ item.events ↔ ∃ target, item.Reaches target ∧
      event ∈ (Node.single target).ownEvents)
  | .atom _ => Item.mem_events_of_children (by simp [Item.children, Slot.allEvents])
  | .function ⟨_, _, args⟩ => Item.mem_events_of_children (Slot.mem_allEvents_iff event args)
  | .option ⟨_, args⟩ => Item.mem_events_of_children (Slot.mem_allEvents_iff event args)
  | .list ⟨_, values⟩ => Item.mem_events_of_children (Slot.mem_allEvents_iff event values)
  | .inlineCast _ => Item.mem_events_of_children (by simp [Item.children, Slot.allEvents])

/-- The events of a slot are those of the items that it reaches: those that its only item reaches,
or those that a slot of its sequence reaches. -/
theorem Slot.mem_events_iff (event : Event) : (slot : Slot) →
    (event ∈ slot.events ↔ ∃ target, slot.Reaches target ∧
      event ∈ (Node.single target).ownEvents)
  | .single item => by
    rw [Slot.events, Item.mem_events_iff event item]
    constructor
    · rintro ⟨target, reached, own⟩
      exact ⟨target, .single reached, own⟩
    · rintro ⟨target, ⟨reached⟩, own⟩
      exact ⟨target, reached, own⟩
  | .seq slots => by
    rw [Slot.events, Slot.mem_allEvents_iff event slots]
    constructor
    · rintro ⟨slot, member, target, reached, own⟩
      exact ⟨target, .seq member reached, own⟩
    · rintro ⟨target, reached, own⟩
      obtain _ | ⟨member, reached⟩ := reached
      exact ⟨_, member, target, reached, own⟩

/-- The events of slots are those of the items that one of them reaches. The events of the slots
stand one after another, so an event is in one of the parts. -/
theorem Slot.mem_allEvents_iff (event : Event) : (slots : List Slot) →
    (event ∈ Slot.allEvents slots ↔ ∃ slot ∈ slots, ∃ target, slot.Reaches target ∧
      event ∈ (Node.single target).ownEvents)
  | [] => by simp [Slot.allEvents]
  | slot :: others => by
    rw [Slot.allEvents, List.mem_append, Slot.mem_events_iff event slot,
      Slot.mem_allEvents_iff event others]
    simp only [List.mem_cons, exists_eq_or_imp]

end

mutual

/-- The events of a node are those of the nodes that it reaches. A command is reached as itself and
reaches what its arguments reach; an item reaches items alone, so the law for these is used there.
-/
theorem Node.mem_events_iff (event : Event) : (node : Node) →
    (event ∈ node.events ↔ ∃ target, node.Reaches target ∧ event ∈ target.ownEvents)
  | .command ⟨header, args⟩ => by
    rw [Node.events, Command.events, List.mem_cons, Node.mem_allEvents_iff event args]
    constructor
    · rintro (rfl | ⟨node, member, target, reached, own⟩)
      · exact ⟨_, .command, List.mem_singleton_self _⟩
      · exact ⟨target, .argument member reached, own⟩
    · rintro ⟨target, reached, own⟩
      cases reached with
      | command => exact .inl (List.mem_singleton.mp own)
      | argument member reached => exact .inr ⟨_, member, target, reached, own⟩
  | .single item => by
    rw [Node.events, Item.mem_events_iff event item]
    constructor
    · rintro ⟨target, reached, own⟩
      exact ⟨.single target, .single reached, own⟩
    · rintro ⟨target, reached, own⟩
      cases reached with
      | single reached => exact ⟨_, reached, own⟩
  | .seq nodes => by
    rw [Node.events, Node.mem_allEvents_iff event nodes]
    constructor
    · rintro ⟨node, member, target, reached, own⟩
      exact ⟨target, .seq member reached, own⟩
    · rintro ⟨target, reached, own⟩
      cases reached with
      | seq member reached => exact ⟨_, member, target, reached, own⟩

/-- The events of nodes are those of the nodes that one of them reaches, as with slots. -/
theorem Node.mem_allEvents_iff (event : Event) : (nodes : List Node) →
    (event ∈ Node.allEvents nodes ↔
      ∃ node ∈ nodes, ∃ target, node.Reaches target ∧ event ∈ target.ownEvents)
  | [] => by simp [Node.allEvents]
  | node :: others => by
    rw [Node.allEvents, List.mem_append, Node.mem_events_iff event node,
      Node.mem_allEvents_iff event others]
    simp only [List.mem_cons, exists_eq_or_imp]

end

/-- The events of a tree are those of the nodes that it reaches. What an event is of is thus told by
the tree, and not by the order in which it is walked. -/
theorem Root.mem_events_iff (event : Event) (root : Root) :
    event ∈ root.events ↔ ∃ target, root.Reaches target ∧ event ∈ target.ownEvents := by
  cases root with
  | none => simp [Root.events, Root.Reaches]
  | some node => simp [Root.events, Root.Reaches, Node.mem_events_iff]

/-- The functions that a tree reaches are those of which it has an event, since the event of a
function reports no other node. -/
theorem Root.function_mem_events_iff (node : FunctionCall) (root : Root) :
    .function node ∈ root.events ↔ root.Reaches (.single (.function node)) := by
  simp only [Root.mem_events_iff, Node.function_mem_ownEvents_iff, exists_eq_right]

/-- The literals that an item reaches are those of which it has an event, since the event of a
literal reports no other node. -/
theorem Item.literal_mem_events_iff (node : Literal) (item : Item) :
    .literal node ∈ item.events ↔ item.Reaches (.atom (.literal node)) := by
  simp only [Item.mem_events_iff, Node.literal_mem_ownEvents_iff, Node.single.injEq,
    exists_eq_right]

/-- True of events among which every event of a function stands behind the one for all items,
and in front of the events of the function's arguments. -/
def BlocksStandTogether (events : List Event) : Prop :=
  ∀ front node back, events = front ++ .function node :: back →
    ∃ before after, front = before ++ [.single (.function node)] ∧
      .function node :: back = node.events ++ after

/-- In no events there is no block to be torn. -/
theorem blocksStandTogether_nil : BlocksStandTogether [] := by
  intro front node back split
  simp at split

/-- An event that is not of a function may stand in front. It begins no block, and it is not the
event for all items of a block, since that stands right in front of the event of the function. -/
theorem BlocksStandTogether.cons {first : Event} {later : List Event}
    (other : ∀ node, first ≠ .function node) (together : BlocksStandTogether later) :
    BlocksStandTogether (first :: later) := by
  intro front node back split
  cases front with
  | nil => exact absurd (List.cons.inj split).1 (other node)
  | cons _ front =>
    obtain ⟨rfl, within⟩ := List.cons.inj split
    obtain ⟨before, after, rfl, block⟩ := together front node back within
    exact ⟨first :: before, after, rfl, block⟩

/-- Events may be put behind others. The event of a function is in one of the two parts, and so is
its block. It cannot be the first of the second part, since there is no event for all items in front
of it there. -/
theorem BlocksStandTogether.append {front back : List Event}
    (inFront : BlocksStandTogether front) (inBack : BlocksStandTogether back) :
    BlocksStandTogether (front ++ back) := by
  intro before node after split
  rcases List.append_eq_append_iff.mp split with ⟨rest, rfl, within⟩ | ⟨rest, rfl, within⟩
  · obtain ⟨first, last, rfl, block⟩ := inBack rest node after within
    exact ⟨front ++ first, last, by rw [List.append_assoc], block⟩
  · cases rest with
    | nil =>
      obtain ⟨first, last, empty, _⟩ := inBack [] node after within.symm
      simp at empty
    | cons _ rest =>
      obtain ⟨rfl, rfl⟩ := List.cons.inj within
      obtain ⟨first, last, rfl, block⟩ := inFront before node rest rfl
      refine ⟨first, last ++ back, rfl, ?_⟩
      rw [← List.append_assoc, ← block]
      rfl

/-- The events of a function make a block around those of its arguments. The event of a function
among them is that of the function itself, behind the one for all items, or it is one of the
arguments' events, where its block stands together. -/
theorem BlocksStandTogether.function {header : Header} {form : Option CallForm}
    {args : List Slot} (inArgs : BlocksStandTogether (Slot.allEvents args)) :
    BlocksStandTogether (Item.function ⟨header, form, args⟩).events := by
  intro front node back split
  rw [Item.events, FunctionCall.events] at split
  match front with
  | [] => exact absurd (List.cons.inj split).1 (by simp)
  | [_] =>
    simp only [List.cons_append, List.nil_append, List.cons.injEq, Event.function.injEq] at split
    obtain ⟨rfl, rfl, rfl⟩ := split
    exact ⟨[], [], rfl, by rw [FunctionCall.events, List.append_nil]⟩
  | first :: second :: front =>
    obtain ⟨rfl, later⟩ := List.cons.inj split
    obtain ⟨rfl, within⟩ := List.cons.inj later
    obtain ⟨before, after, rfl, block⟩ := inArgs front node back within
    exact ⟨_ :: _ :: before, after, rfl, block⟩

mutual

/-- The blocks of an item stand together. Only a function begins a block; of every other kind the
own events are put in front of those of the slots that are entered. -/
theorem Item.blocksStandTogether : (item : Item) → BlocksStandTogether item.events
  | .atom node => by
    cases node
    all_goals
      simp only [Item.events, Atom.events, Atom.event?, Option.toList]
      repeat refine .cons (by simp) ?_
      exact blocksStandTogether_nil
  | .function ⟨_, _, args⟩ => .function (Slot.allBlocksStandTogether args)
  | .option ⟨_, args⟩ => .cons (by simp) (.cons (by simp) (Slot.allBlocksStandTogether args))
  | .list ⟨_, values⟩ => .cons (by simp) (.cons (by simp) (Slot.allBlocksStandTogether values))
  | .inlineCast _ => .cons (by simp) (.cons (by simp) blocksStandTogether_nil)

/-- The blocks of a slot stand together, since a slot has no event of its own. -/
theorem Slot.blocksStandTogether : (slot : Slot) → BlocksStandTogether slot.events
  | .single item => Item.blocksStandTogether item
  | .seq slots => Slot.allBlocksStandTogether slots

/-- The blocks of slots stand together, since the events of each slot are put behind those of the
one before. -/
theorem Slot.allBlocksStandTogether : (slots : List Slot) →
    BlocksStandTogether (Slot.allEvents slots)
  | [] => blocksStandTogether_nil
  | slot :: others => (Slot.blocksStandTogether slot).append (Slot.allBlocksStandTogether others)

end

mutual

/-- The blocks of a node stand together. The event of a command is put in front of those of its
arguments, and a sequence has no event of its own. -/
theorem Node.blocksStandTogether : (node : Node) → BlocksStandTogether node.events
  | .command ⟨_, args⟩ => .cons (by simp) (Node.allBlocksStandTogether args)
  | .single item => Item.blocksStandTogether item
  | .seq nodes => Node.allBlocksStandTogether nodes

/-- The blocks of nodes stand together, since the events of each node are put behind those of the
one before. -/
theorem Node.allBlocksStandTogether : (nodes : List Node) →
    BlocksStandTogether (Node.allEvents nodes)
  | [] => blocksStandTogether_nil
  | node :: others => (Node.blocksStandTogether node).append (Node.allBlocksStandTogether others)

end

/-- The blocks of a tree stand together. So the events between that of a function and the last one
of its last argument are all of nodes below this function. -/
theorem Root.blocksStandTogether (root : Root) : BlocksStandTogether root.events := by
  cases root with
  | none => exact blocksStandTogether_nil
  | some node => exact node.blocksStandTogether

end EsqlTree
