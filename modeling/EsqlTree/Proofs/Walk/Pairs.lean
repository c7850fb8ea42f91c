import EsqlTree.Proofs.Walk.Blocks
import EsqlTree.Proofs.Walk.Notes

/-!
# Pairs of events

A walk reports an item whose kind is known by two events that follow each other, and any other
item by one. That this can be told from the tag of an item rests on how trees are loaded: a node
is inert there only if its tag is of no kind, or of commands where no command may stand. In a tree
that was built otherwise, an inert node may have any tag.
-/

namespace EsqlTree

open Json (Value Members)

/-- The kind that an item's tag names, unless it is that of commands, which are no items. -/
def Item.namedKind? (item : Item) : Option Kind :=
  (Kind.ofTag? item.tag).filter fun kind => kind ≠ .command

/-- True of items whose kind is known. -/
def Node.isKnown : Node → Bool
  | .single item => item.namedKind?.isSome
  | _ => false

/-- True of items whose kind is not known. -/
def Node.isInert : Node → Bool
  | .single item => item.namedKind?.isNone
  | _ => false

/-- What a trace would show of an item by the hook of a kind. -/
def Item.noteBy (item : Item) (kind : Kind) : Note :=
  ⟨kind.hook, item.tag, item.header.name, item.header.location⟩

/-- Only commands share the hook of commands, and no kind has the hook for all items. So an event by
a kind is neither of the other two sorts. -/
theorem Kind.hook_ne {kind : Kind} (other : kind ≠ .command) :
    kind.hook ≠ .command ∧ kind.hook ≠ .single := by
  cases kind <;> simp_all [hook]

/-- A kind that is named is not that of commands, which the definition has filtered out. -/
theorem Item.ne_command_of_namedKind? {item : Item} {kind : Kind}
    (named : item.namedKind? = some kind) : kind ≠ .command := by
  simpa using (Option.filter_eq_some_iff.mp named).2

/-- The second event of an item is that of the kind which its tag names. For the kinds that have
readers of their own the two agree by definition; an inert item was read because its tag names no
kind, or that of commands. -/
theorem ItemReading.map_note_event? {members : Members} {item : Item}
    (own : ItemReading members item) :
    item.event?.map Event.note = item.namedKind?.map item.noteBy := by
  cases own with
  | atom own =>
    cases own with
    | inert other =>
      rcases Kind.ofTag?_eq_none_or other with unknown | command
      · simp [Item.event?, Atom.event?, Item.namedKind?, Item.tag, Atom.tag, unknown]
      · simp [Item.event?, Atom.event?, Item.namedKind?, Item.tag, Atom.tag, command,
          Kind.ofTag?_tag, Option.filter]
    | _ => rfl
  | _ => rfl

/-- True of nodes that some value is read as, be it where a node or where a slot may stand. -/
def Node.IsRead (node : Node) : Prop :=
  (∃ value, NodeReading value node) ∨ ∃ value slot, SlotReading value slot ∧ slot.toNode = node

/-- Each of some slots is read, as the readings go along the slots one by one. -/
theorem SlotReadings.isRead {elements : List Value} {slots : List Slot}
    (readings : SlotReadings elements slots) {child : Node} (member : child ∈ Slot.toNodes slots) :
    child.IsRead := by
  induction slots generalizing elements with
  | nil => simp [Slot.toNodes] at member
  | cons slot others inOthers =>
    obtain _ | ⟨first, rest⟩ := readings
    rcases List.mem_cons.mp member with rfl | later
    · exact .inr ⟨_, slot, first, rfl⟩
    · exact inOthers rest later

/-- Each of some nodes is read, as the readings go along the nodes one by one. -/
theorem NodeReadings.isRead {elements : List Value} {nodes : List Node}
    (readings : NodeReadings elements nodes) {child : Node} (member : child ∈ nodes) :
    child.IsRead := by
  induction nodes generalizing elements with
  | nil => contradiction
  | cons node others inOthers =>
    obtain _ | ⟨first, rest⟩ := readings
    rcases List.mem_cons.mp member with rfl | later
    · exact .inl ⟨_, first⟩
    · exact inOthers rest later

/-- The slots of an item that a walk enters are read with it. These are the arguments of functions
and options and the values of lists; other items have none. -/
theorem ItemReading.isRead {members : Members} {item : Item} (own : ItemReading members item)
    {child : Node} (member : child ∈ Slot.toNodes item.children) : child.IsRead := by
  cases own with
  | function _ _ below => exact below.isRead member
  | option _ below => exact below.isRead member
  | list _ below => exact below.isRead member
  | _ => simp [Item.children, Slot.toNodes] at member

/-- The children of a node that is read are read. A command and a sequence have theirs from their
readings, a single item from that of the item. -/
theorem Node.IsRead.of_mem_children {node child : Node} (read : node.IsRead)
    (member : child ∈ node.children) : child.IsRead := by
  rcases read with ⟨_, reading⟩ | ⟨_, slot, reading, rfl⟩
  · cases reading with
    | command _ _ _ below => exact below.isRead member
    | single _ _ _ own => exact own.isRead member
    | seq below => exact below.isRead member
  · cases reading with
    | single _ _ own => exact own.isRead member
    | seq below => exact below.isRead member

/-- An item that is read is read from the members of an object, whether it stands where a node may
or where a slot may. -/
theorem Node.IsRead.itemReading {item : Item} (read : (Node.single item).IsRead) :
    ∃ members, ItemReading members item := by
  rcases read with ⟨_, reading⟩ | ⟨_, slot, reading, same⟩
  · cases reading with
    | single _ _ _ own => exact ⟨_, own⟩
  · cases reading with
    | single _ _ own =>
      obtain rfl := Node.single.inj same
      exact ⟨_, own⟩
    | seq => simp [Slot.toNode] at same

/-- Below a node that is read, each node is. By induction on the address, going to one child at each
step. -/
theorem Node.IsRead.nodeAt? {node target : Node} (read : node.IsRead) {address : Address}
    (found : node.nodeAt? address = some target) : target.IsRead := by
  induction address generalizing node with
  | nil =>
    obtain rfl := Option.some.inj found
    exact read
  | cons position rest inRest =>
    obtain ⟨child, stands, found⟩ := Option.bind_eq_some_iff.mp found
    exact inRest (read.of_mem_children (List.mem_of_getElem? stands)) found

/-- The second event of an item in a loaded tree is that of the kind which its tag names. The item
at the address is read, and so its reading tells. -/
theorem RootReading.map_note_event? {value : Value} {root : Root}
    (reading : RootReading value root) {address : Address} {item : Item}
    (found : root.nodeAt? address = some (.single item)) :
    item.event?.map Event.note = item.namedKind?.map item.noteBy := by
  obtain ⟨whole, rfl, found⟩ := Option.bind_eq_some_iff.mp found
  cases reading with
  | present reading =>
    have read : whole.IsRead := .inl ⟨_, reading⟩
    obtain ⟨_, own⟩ := (read.nodeAt? found).itemReading
    exact own.map_note_event?

/-- Where lists that are put together hold an element, one of them holds it. By induction on what
the lists are made of: the element is in the first list or behind it, and the two ways of cutting
meet where the first list ends. -/
theorem exists_of_flatMap_eq_append_cons {α β : Type} {f : α → List β} {elements : List α}
    {front back : List β} {found : β} (split : elements.flatMap f = front ++ found :: back) :
    ∃ before element after pre post, elements = before ++ element :: after ∧
      f element = pre ++ found :: post ∧ front = before.flatMap f ++ pre ∧
      back = post ++ after.flatMap f := by
  induction elements generalizing front with
  | nil => simp at split
  | cons first others inOthers =>
    rw [List.flatMap_cons] at split
    rcases List.append_eq_append_iff.mp split with ⟨rest, rfl, within⟩ | ⟨rest, own, within⟩
    · obtain ⟨before, element, after, pre, post, rfl, own, rfl, rfl⟩ := inOthers within
      exact ⟨first :: before, element, after, pre, post, rfl, own, by simp, rfl⟩
    · cases rest with
      | nil =>
        obtain ⟨before, element, after, pre, post, rfl, within, empty, rfl⟩ :=
          @inOthers [] within.symm
        obtain ⟨none, rfl⟩ := List.append_eq_nil_iff.mp empty.symm
        rw [List.append_nil] at own
        exact ⟨first :: before, element, after, [], post, rfl, within, by simp [own, none], rfl⟩
      | cons _ rest =>
        obtain ⟨rfl, rfl⟩ := List.cons.inj within
        exact ⟨[], first, others, front, rest, rfl, own, rfl, rfl⟩

/-- An event of a tree is one of those by which the node at its address is reported. What is in
front of it and behind it at the same address are the others, and no event further off has the
address, as the addresses of spots ascend. -/
theorem Root.exists_of_placedEvents_eq {root : Root} {front back : List PlacedEvent}
    {address : Address} {event : Event}
    (split : root.placedEvents = front ++ ⟨address, event⟩ :: back) :
    ∃ node before pre post after, root.nodeAt? address = some node ∧
      node.ownEvents = pre ++ event :: post ∧
      front = before ++ pre.map (PlacedEvent.mk address) ∧
      back = post.map (PlacedEvent.mk address) ++ after ∧
      ∀ placed ∈ after, placed.address ≠ address := by
  obtain ⟨before, spot, after, pre, post, spots, own, rfl, rfl⟩ :=
    exists_of_flatMap_eq_append_cons split
  obtain ⟨first, _, owned, rfl, rest⟩ := List.map_eq_append_iff.mp own
  obtain ⟨_, last, rfl, same, rfl⟩ := List.map_eq_cons_iff.mp rest
  obtain ⟨rfl, rfl⟩ := PlacedEvent.mk.inj same
  have stands := (root.mem_spots_iff spot).mp (by simp [spots])
  refine ⟨spot.node, _, first, last, _, stands, owned, rfl, rfl, ?_⟩
  have ascend := root.pairwise_spots
  rw [spots, List.pairwise_map, List.pairwise_append, List.pairwise_cons] at ascend
  obtain ⟨_, ⟨below, _⟩, _⟩ := ascend
  refine Spot.address_of_mem_flatMap (fun other => other ≠ spot.address) fun other listed same => ?_
  have later := below other listed
  rw [same] at later
  exact List.lt_irrefl _ later

/-- The events of a tree are those by which the nodes at its addresses are reported. An event is
listed under a spot, and a spot is a node at an address. -/
theorem Root.mem_placedEvents_iff {root : Root} {placed : PlacedEvent} :
    placed ∈ root.placedEvents ↔
      ∃ node, root.nodeAt? placed.address = some node ∧ placed.event ∈ node.ownEvents := by
  obtain ⟨address, event⟩ := placed
  simp only [placedEvents, List.mem_flatMap, Root.mem_spots_iff, Spot.placedEvents, List.mem_map,
    PlacedEvent.mk.injEq]
  constructor
  · rintro ⟨spot, stands, _, own, rfl, rfl⟩
    exact ⟨spot.node, stands, own⟩
  · rintro ⟨node, stands, own⟩
    exact ⟨⟨address, node⟩, stands, event, own, rfl, rfl⟩

/-- A node that is reported is a command with one event, or an item with one or two. So an event has
its place: it is the only one, the first of a pair, or the second. -/
theorem Node.cases_of_ownEvents_eq {node : Node} {event : Event} {pre post : List Event}
    (split : node.ownEvents = pre ++ event :: post) :
    (∃ command, node = .command command ∧ event = .command command) ∨
      ∃ item, node = .single item ∧
        ((pre = [] ∧ event = .single item ∧ post = item.event?.toList) ∨
          (pre = [.single item] ∧ item.event? = some event ∧ post = [])) := by
  cases node with
  | command command =>
    rcases List.singleton_eq_append_iff.mp split with ⟨_, same⟩ | ⟨_, empty⟩
    · exact .inl ⟨command, rfl, (List.cons.inj same).1⟩
    · contradiction
  | single item =>
    refine .inr ⟨item, rfl, ?_⟩
    rcases List.cons_eq_append_iff.mp split with ⟨none, same⟩ | ⟨rest, rfl, second⟩
    · obtain ⟨rfl, rfl⟩ := List.cons.inj same
      exact .inl ⟨none, rfl, rfl⟩
    · cases reported : item.event? with
      | none => simp [reported] at second
      | some own =>
        rw [reported, Option.toList_some] at second
        rcases List.singleton_eq_append_iff.mp second with ⟨rfl, same⟩ | ⟨_, empty⟩
        · obtain ⟨rfl, rfl⟩ := List.cons.inj same
          exact .inr ⟨rfl, rfl, rfl⟩
        · contradiction
  | seq nodes => simp [ownEvents] at split

/-- A command has no other event than its own. One node stands at the address, and only commands
have the event of a command. -/
theorem Root.event_eq_command {root : Root} {address : Address} {node : Command}
    (member : ⟨address, .command node⟩ ∈ root.placedEvents) {event : Event}
    (other : ⟨address, event⟩ ∈ root.placedEvents) : event = .command node := by
  obtain ⟨stands, found, own⟩ := Root.mem_placedEvents_iff.mp member
  obtain ⟨same, again, ownOther⟩ := Root.mem_placedEvents_iff.mp other
  obtain rfl := Option.some.inj (found.symm.trans again)
  rcases stands with command | (atom | _ | _ | _ | _) | nodes
  case single.atom => cases atom <;> simp [Node.ownEvents, Item.event?, Atom.event?] at own
  all_goals simp_all [Node.ownEvents, Item.event?]

/-- A command is reported once, and so is an item that has no kind; another item is reported twice,
and a sequence not at all. The hypothesis says that the second event tells the kind, which holds in
loaded trees. -/
theorem Node.length_ownEvents {node : Node}
    (told : ∀ item, node = .single item → item.event?.isSome = item.namedKind?.isSome) :
    node.ownEvents.length = (if node.command?.isSome then 1 else 0) +
      2 * (if node.isKnown then 1 else 0) + (if node.isInert then 1 else 0) := by
  cases node with
  | command node => rfl
  | single item =>
    have told := told item rfl
    cases second : item.event? <;> cases named : item.namedKind? <;>
      simp_all [ownEvents, command?, isKnown, isInert]
  | seq nodes => rfl

namespace RootReading

variable {value : Value} {root : Root} {address : Address} {front back : List PlacedEvent}

/-- The second event of an item shows the kind that the item's tag names, and is neither one of a
command nor one for all items. Its hook is that of the kind, since the notes agree. -/
theorem exists_kind (reading : RootReading value root) {item : Item} {own : Event}
    (stands : root.nodeAt? address = some (.single item)) (second : item.event? = some own) :
    ∃ kind, item.namedKind? = some kind ∧ own.note = item.noteBy kind ∧
      own.hook ≠ .command ∧ own.hook ≠ .single := by
  have noted := reading.map_note_event? stands
  rw [second, Option.map_some] at noted
  obtain ⟨kind, named, same⟩ := Option.map_eq_some_iff.mp noted.symm
  have hook : kind.hook = own.hook := congrArg Note.hook same
  have other := Kind.hook_ne (Item.ne_command_of_namedKind? named)
  rw [hook] at other
  exact ⟨kind, named, same.symm, other⟩

/-- Behind the event of an item by which all items are reported stands that of its kind, if its kind
is known, and otherwise no more event of the item. The event is the first of its pair, because the
second would have the hook of a kind. -/
theorem behind_single (reading : RootReading value root) {item : Item}
    (split : root.placedEvents = front ++ ⟨address, .single item⟩ :: back) :
    (∀ kind, item.namedKind? = some kind →
      ∃ own later, back = ⟨address, own⟩ :: later ∧ own.note = item.noteBy kind) ∧
    (item.namedKind? = none → ∀ later ∈ back, later.address ≠ address) := by
  obtain ⟨node, before, pre, post, after, stands, owned, rfl, rfl, further⟩ :=
    Root.exists_of_placedEvents_eq split
  obtain ⟨_, _, wrong⟩ | ⟨other, rfl, ⟨_, same, rfl⟩ | ⟨_, second, _⟩⟩ :=
    Node.cases_of_ownEvents_eq owned
  · contradiction
  · obtain rfl := Event.single.inj same
    have noted := reading.map_note_event? stands
    constructor
    · intro kind named
      rw [named, Option.map_some] at noted
      obtain ⟨own, second, shown⟩ := Option.map_eq_some_iff.mp noted
      exact ⟨own, after, by simp [second], shown⟩
    · intro unnamed
      rw [unnamed, Option.map_none, Option.map_eq_none_iff] at noted
      simpa [noted] using further
  · obtain ⟨_, _, _, _, wrong⟩ := reading.exists_kind stands second
    contradiction

/-- In front of an event by the kind of an item stands the one by which all items are reported. The
event is neither that of a command nor the first of its pair, so it is the second. -/
theorem before_own (reading : RootReading value root) {event : Event}
    (split : root.placedEvents = front ++ ⟨address, event⟩ :: back)
    (noCommand : event.hook ≠ .command) (notFirst : event.hook ≠ .single) :
    ∃ before item kind, front = before ++ [⟨address, .single item⟩] ∧
      item.namedKind? = some kind ∧ event.note = item.noteBy kind := by
  obtain ⟨node, before, pre, post, after, stands, owned, rfl, rfl, _⟩ :=
    Root.exists_of_placedEvents_eq split
  obtain ⟨_, _, rfl⟩ | ⟨item, rfl, ⟨_, rfl, _⟩ | ⟨rfl, second, _⟩⟩ :=
    Node.cases_of_ownEvents_eq owned
  · contradiction
  · contradiction
  · obtain ⟨kind, named, shown, _⟩ := reading.exists_kind stands second
    exact ⟨before, item, kind, rfl, named, shown⟩

/-- A tree has an event for each command and each item whose kind is not known, and two for each
other item. The events are counted spot by spot. -/
theorem length_trace (reading : RootReading value root) :
    (trace root).length =
      root.spots.countP (fun spot => spot.node.command?.isSome) +
        2 * root.spots.countP (fun spot => spot.node.isKnown) +
        root.spots.countP (fun spot => spot.node.isInert) := by
  have each (spot : Spot) (member : spot ∈ root.spots) (item : Item)
      (same : spot.node = .single item) : item.event?.isSome = item.namedKind?.isSome := by
    have stands := (root.mem_spots_iff spot).mp member
    rw [same] at stands
    have noted := congrArg Option.isSome (reading.map_note_event? stands)
    rwa [Option.isSome_map, Option.isSome_map] at noted
  rw [← root.map_event_placedEvents, List.length_map, Root.placedEvents]
  generalize root.spots = spots at each
  induction spots with
  | nil => rfl
  | cons spot others inOthers =>
    have inRest := inOthers fun other member => each other (List.mem_cons_of_mem _ member)
    have own := Node.length_ownEvents (each spot List.mem_cons_self)
    rw [List.flatMap_cons, List.length_append, inRest, Spot.placedEvents, List.length_map, own,
      List.countP_cons, List.countP_cons, List.countP_cons]
    omega

end RootReading

/-- The events for which a visitor is called are the first ones of the trace. A walk plays the
events in order and stops after one for which the visitor does not go on. -/
theorem logged_prefix_trace {σ : Type} (visitor : Visitor σ) (start : σ) (root : Root) :
    (walkRoot visitor.logged root (start, [])).1.2.map Prod.fst <+: trace root := by
  obtain ⟨called, rest, _, split, _, logged, _⟩ := visitor.play_prefix root.events start
  rw [walkRoot_eq_play, logged [], List.nil_append, Visitor.map_fst_calls, trace_eq_events, split]
  exact List.prefix_append called rest

/-- In the trace of a tree that was loaded, items of a known kind show by pairs of events.

An event by which all items are reported, of an item whose tag names a kind other than that of
commands, has right behind it the event by that kind, with the tag, the name and the location of
the item. With any other tag, no further event of the item follows. Each event by the kind of an
item has the one for all items right in front of it, and a command has no event but its own. So
the trace is as long as there are commands and items without a kind, and twice as long as there
are items with one. What a visitor is called for is a prefix of this trace, wherever it ends the
walk. Events are those of one node if they have one address.

Proof: each node makes its own events before those of the nodes below, and these have longer
addresses. An item that was loaded has the tag of its kind, so that its own events are a pair
exactly if the tag names one. -/
theorem events_in_pairs (value : Value) (root : Root) (loaded : Load.root value = .ok root) :
    root.placedEvents.map PlacedEvent.event = trace root ∧
      (∀ (front : List PlacedEvent) (address : Address) (item : Item) (back : List PlacedEvent),
        root.placedEvents = front ++ ⟨address, .single item⟩ :: back →
          (∀ kind, item.namedKind? = some kind →
            ∃ own later, back = ⟨address, own⟩ :: later ∧ own.note = item.noteBy kind) ∧
          (item.namedKind? = none → ∀ later ∈ back, later.address ≠ address)) ∧
      (∀ (front : List PlacedEvent) (address : Address) (event : Event) (back : List PlacedEvent),
        root.placedEvents = front ++ ⟨address, event⟩ :: back →
          event.hook ≠ .command → event.hook ≠ .single →
            ∃ before item kind, front = before ++ [⟨address, .single item⟩] ∧
              item.namedKind? = some kind ∧ event.note = item.noteBy kind) ∧
      (∀ address node event, ⟨address, .command node⟩ ∈ root.placedEvents →
        ⟨address, event⟩ ∈ root.placedEvents → event = .command node) ∧
      (trace root).length =
        root.spots.countP (fun spot => spot.node.command?.isSome) +
          2 * root.spots.countP (fun spot => spot.node.isKnown) +
          root.spots.countP (fun spot => spot.node.isInert) ∧
      ∀ {σ : Type} (visitor : Visitor σ) (start : σ),
        (walkRoot visitor.logged root (start, [])).1.2.map Prod.fst <+: trace root := by
  have reading := Load.rootReading_of_ok loaded
  refine ⟨root.map_event_placedEvents, ?_, ?_, ?_, reading.length_trace, ?_⟩
  · intro front address item back split
    exact reading.behind_single split
  · intro front address event back split
    exact reading.before_own split
  · intro address node event member other
    exact Root.event_eq_command member other
  · intro σ visitor start
    exact logged_prefix_trace visitor start root

/-- A command with a function call, one of whose arguments is a command where none may stand. -/
def misplaced : Value :=
  .object [("type", .string "command"), ("name", .string "row"), ("args", .array [
    .object [("type", .string "function"), ("name", .string "f"), ("args", .array [
      .object [("type", .string "command"), ("name", .string "inner")],
      .object [("type", .string "column"), ("name", .string "a")]])]])]

/-- The command in the argument, which is inert. -/
def inertCommand : Item := .atom (.inert { Header.named "inner" with tag := "command" })

/-- The function call. -/
def misplacing : FunctionCall :=
  { Header.named "f" with
    args := [.single inertCommand, .single (.atom (.column (Column.named "a")))] }

/-- The command that holds the call. -/
def misplacingRow : Command := { Header.named "row" with args := [.single (.function misplacing)] }

/-- The function call is reported twice in a row, the command in its argument is not reported again,
and a visitor that gives up at once is called for a prefix of the trace. -/
theorem events_of_misplaced_in_pairs :
    ∃ root own later, Load.root misplaced = .ok root ∧
      root.placedEvents = ⟨[], .command misplacingRow⟩ :: ⟨[0], .single (.function misplacing)⟩ ::
        ⟨[0], own⟩ :: ⟨[0, 0], .single inertCommand⟩ :: later ∧
      own.note = ⟨.function, "function", "f", {}⟩ ∧
      (∀ placed ∈ later, placed.address ≠ [0, 0]) ∧
      (trace root).length = 1 + 2 * 2 + 1 ∧
      (walkRoot (Visitor.logged fun _ count => (count + 1, .halt)) root (0, [])).1.2.map
        Prod.fst <+: trace root := by
  have loaded : Load.root misplaced = .ok (some (.command misplacingRow)) := by cbv
  have placed : Root.placedEvents (some (.command misplacingRow)) =
      [⟨[], .command misplacingRow⟩, ⟨[0], .single (.function misplacing)⟩,
        ⟨[0], .function misplacing⟩, ⟨[0, 0], .single inertCommand⟩,
        ⟨[0, 1], .single (.atom (.column (Column.named "a")))⟩,
        ⟨[0, 1], .column (Column.named "a")⟩] := by
    simp [Root.placedEvents, Root.spots, Node.spots, Node.spotsOfEach, Node.children,
      Item.children, Slot.toNodes, Slot.toNode, Spot.under, Spot.placedEvents, Node.ownEvents,
      Item.event?, Atom.event?, misplacingRow, misplacing, inertCommand]
  obtain ⟨_, behind, _, _, count, calls⟩ := events_in_pairs misplaced _ loaded
  obtain ⟨own, _, same, shown⟩ := (behind [_] _ _ _ placed).1 .function rfl
  rw [← (PlacedEvent.mk.inj (List.cons.inj same).1).2] at shown
  have alone := (behind [_, _, _] _ _ _ placed).2 rfl
  refine ⟨_, _, _, loaded, placed, shown, alone, ?_, calls _ 0⟩
  rw [count]
  decide +kernel

end EsqlTree
