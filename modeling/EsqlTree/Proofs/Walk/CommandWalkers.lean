import EsqlTree.Proofs.Text.LetterCase
import EsqlTree.Proofs.Walk.Positions
import EsqlTree.Proofs.Walk.Queries
import EsqlTree.Trace

/-!
# What command walkers change

Of the command walkers that are registered, a command goes by the one that was registered last
under its name, up to the case of ASCII letters. Where command walkers walk the arguments in
order, leave them out or end the walk, a walk still goes through the tree in pre-order: it
calls the visitor for the events that are not below a command whose arguments are left out,
and it ends behind the first command at which the walk is to end.

What a command walker that ends the walk does behind an event is said here of the visitor, as
if the call for that event had ended it. So every law about playing events holds of such walks
too.
-/

namespace EsqlTree

open Text (EqualUpToCase)

variable {σ : Type}

namespace Walker

/-- Registers command walkers one after another. -/
def registerAll (walker : Walker σ) (registrations : List (String × CommandWalker σ)) :
    Walker σ :=
  registrations.foldl (fun walker entry => walker.register entry.1 entry.2) walker

/-- Registering does not touch the visitor, however many command walkers are registered. -/
@[simp] theorem visitor_registerAll (walker : Walker σ)
    (registrations : List (String × CommandWalker σ)) :
    (walker.registerAll registrations).visitor = walker.visitor := by
  induction registrations generalizing walker with
  | nil => rfl
  | cons entry others inOthers => exact inOthers (walker.register entry.1 entry.2)

/-- What is registered later stands in front, each under its name in lower case. So the first entry
that is found is the last that was registered. -/
theorem commandWalkers_registerAll (walker : Walker σ)
    (registrations : List (String × CommandWalker σ)) :
    (walker.registerAll registrations).commandWalkers =
      (registrations.map fun entry => (Text.lower entry.1, entry.2)).reverse ++
        walker.commandWalkers := by
  induction registrations generalizing walker with
  | nil => rfl
  | cons entry others inOthers =>
    rw [registerAll, List.foldl_cons]
    refine (inOthers (walker.register entry.1 entry.2)).trans ?_
    rw [register, List.map_cons, List.reverse_cons, List.append_assoc]
    rfl

/-- A command walker is found by the last registration under a name that is equal to the one asked
for up to case. The names are kept and asked for in lower case, and two lower cases are the same for
names that are equal up to case and for no others. -/
theorem commandWalker?_registerAll (visitor : Visitor σ)
    (registrations : List (String × CommandWalker σ)) (name : String) :
    (registerAll { visitor } registrations).commandWalker? name =
      (registrations.findRev? fun entry => EqualUpToCase entry.1 name).map Prod.snd := by
  rw [commandWalker?, commandWalkers_registerAll, List.append_nil, ← List.map_reverse,
    List.find?_map, List.findRev?_eq_find?_reverse, Option.map_map]
  simp only [Function.comp_def, Text.lower_eq_iff]

/-- A command is reported, and its arguments are walked as the command walker says that was
registered last under its name. Without one they are walked in order. -/
theorem walkCommand_registerAll (visitor : Visitor σ)
    (registrations : List (String × CommandWalker σ)) (node : Command) :
    (registerAll { visitor } registrations).walkCommand node =
      (visitor (.command node)).andThen
        (match registrations.findRev? fun entry => EqualUpToCase entry.1 node.name with
        | some (_, commandWalker) =>
          commandWalker node ((registerAll { visitor } registrations).walks node.args)
        | none => (registerAll { visitor } registrations).walkArgs node) := by
  obtain ⟨header, args⟩ := node
  rw [walkCommand, visitor_registerAll, arrange, commandWalker?_registerAll]
  cases registrations.findRev? fun entry => EqualUpToCase entry.1 header.name <;> rfl

end Walker

/-- How the arguments of a command are walked. -/
inductive Manner where
  /-- One after another, as without a command walker. -/
  | inOrder
  /-- Not at all. -/
  | skipping
  /-- Not at all, and nothing else is walked either. -/
  | stopping
deriving DecidableEq

/-- The command walker of a manner. -/
def Manner.commandWalker : Manner → CommandWalker σ
  | .inOrder => .inOrder
  | .skipping => .skipping
  | .stopping => .stopping

/-- The manner that was registered last under the name of a command. -/
def mannerOf (registrations : List (String × Manner)) (node : Command) : Manner :=
  match registrations.findRev? fun entry => EqualUpToCase entry.1 node.name with
  | some (_, manner) => manner
  | none => .inOrder

/-- True of the commands whose arguments are left out. -/
def leavesOut (registrations : List (String × Manner)) (node : Command) : Bool :=
  mannerOf registrations node ≠ .inOrder

/-- True of the events of commands at which the walk is to end. -/
def endsAt (registrations : List (String × Manner)) (event : Event) : Bool :=
  event.command?.any fun node => mannerOf registrations node = .stopping

/-- A visitor beside command walkers of given manners. -/
def Walker.ofManners (visitor : Visitor σ) (registrations : List (String × Manner)) : Walker σ :=
  registerAll { visitor } (registrations.map fun entry => (entry.1, entry.2.commandWalker))

/-- A command is reported, and its arguments are walked in its manner. The manner is looked up as
the command walker is, and a command without one is walked in order, which is a manner too. -/
theorem Walker.walkCommand_ofManners (visitor : Visitor σ)
    (registrations : List (String × Manner)) (node : Command) :
    (ofManners visitor registrations).walkCommand node =
      (visitor (.command node)).andThen
        ((mannerOf registrations node).commandWalker node
          ((ofManners visitor registrations).walks node.args)) := by
  rw [ofManners, walkCommand_registerAll, List.findRev?_eq_find?_reverse, ← List.map_reverse,
    List.find?_map, mannerOf, List.findRev?_eq_find?_reverse]
  simp only [Function.comp_def]
  cases registrations.reverse.find? fun entry => EqualUpToCase entry.1 node.name <;> rfl

/-- True of the addresses below a command whose arguments are left out. -/
def Node.hides (leaves : Command → Bool) : Node → Address → Bool
  | _, [] => false
  | node, position :: rest =>
    node.command?.any leaves || node.children[position]?.any fun child => child.hides leaves rest

/-- An address is hidden if it goes on behind the address of such a command. By induction on the
address: either the node itself hides what is below it, or the child to which the address leads
does. -/
theorem Node.hides_eq_true_iff (leaves : Command → Bool) (node : Node) (address : Address) :
    node.hides leaves address = true ↔
      ∃ above below, address = above ++ below ∧ below ≠ [] ∧
        ∃ command, node.nodeAt? above = some (.command command) ∧ leaves command = true := by
  induction address generalizing node with
  | nil => simp [hides]
  | cons position rest inRest =>
    simp only [hides, Bool.or_eq_true, Option.any_eq_true, inRest]
    constructor
    · rintro (⟨command, own, left⟩ | ⟨child, found, above, below, rfl, more, command, stands, left⟩)
      · obtain rfl : node = .command command := by
          cases node <;> simp_all [command?]
        exact ⟨[], position :: rest, rfl, by simp, command, rfl, left⟩
      · refine ⟨position :: above, below, rfl, more, command, ?_, left⟩
        rw [nodeAt?, found, Option.bind_some, stands]
    · rintro ⟨above, below, split, more, command, stands, left⟩
      cases above with
      | nil =>
        obtain rfl : node = .command command := by simpa [nodeAt?] using stands
        exact .inl ⟨command, rfl, left⟩
      | cons first above =>
        obtain ⟨rfl, rfl⟩ := List.cons.inj split
        obtain ⟨child, found, stands⟩ := Option.bind_eq_some_iff.mp stands
        exact .inr ⟨child, found, above, below, rfl, more, command, stands, left⟩

/-- The events of the nodes that are not below a command whose arguments are left out, in
pre-order. -/
def Node.eventsOutside (leaves : Command → Bool) (node : Node) : List Event :=
  (node.spots.filter fun spot => !node.hides leaves spot.address).flatMap
    fun spot => spot.node.ownEvents

/-- The events of a tree that are not below a command whose arguments are left out. -/
def Root.eventsOutside (leaves : Command → Bool) : Root → List Event
  | none => []
  | some node => node.eventsOutside leaves

/-- The events outside of nodes in turn, if their parent does not hide them. The induction is on the
nodes that are left; those that came before give them their position. -/
theorem Node.eventsOutside_spotsOfEach {leaves : Command → Bool} {node : Node}
    (unhidden : node.command?.any leaves = false) (before nodes : List Node)
    (children : node.children = before ++ nodes) :
    ((Node.spotsOfEach nodes before.length).filter
        fun spot => !node.hides leaves spot.address).flatMap (fun spot => spot.node.ownEvents) =
      nodes.flatMap (Node.eventsOutside leaves) := by
  induction nodes generalizing before with
  | nil => simp [spotsOfEach]
  | cons child others inOthers =>
    have later := inOthers (before ++ [child]) (by rw [children, List.append_assoc]; rfl)
    rw [List.length_append, List.length_singleton] at later
    have found : node.children[before.length]? = some child := by simp [children]
    rw [spotsOfEach, List.filter_append, List.flatMap_append, later, List.flatMap_cons,
      List.filter_map, List.flatMap_map, eventsOutside]
    simp only [Function.comp_def, Spot.under, hides, unhidden, found, Option.any_some,
      Bool.false_or]

/-- The events outside are a node's own, and those outside in its children unless the node is a
command whose arguments are left out. With this equation the definition by addresses can be followed
down the tree as the walk goes. -/
theorem Node.eventsOutside_eq (leaves : Command → Bool) (node : Node) :
    node.eventsOutside leaves =
      node.ownEvents ++
        if node.command?.any leaves then [] else node.children.flatMap (eventsOutside leaves) := by
  rw [eventsOutside, spots, List.filter_cons_of_pos (by simp [hides]), List.flatMap_cons]
  congr 1
  cases unhidden : node.command?.any leaves with
  | false =>
    rw [if_neg (by simp)]
    exact Node.eventsOutside_spotsOfEach unhidden [] node.children rfl
  | true =>
    rw [if_pos rfl, List.flatMap_eq_nil_iff]
    intro spot member
    obtain ⟨isBelow, shown⟩ := List.mem_filter.mp member
    obtain ⟨position, _, _, _, _, rfl⟩ := (Node.mem_spotsOfEach_iff _ _ spot).mp isBelow
    simp [Spot.under, hides, unhidden] at shown

/-- If no arguments are left out, all events are outside, because no address is hidden. -/
theorem Root.eventsOutside_of_none {leaves : Command → Bool}
    (none : ∀ node, leaves node = false) (root : Root) :
    root.eventsOutside leaves = root.events := by
  cases root with
  | none => rfl
  | some node =>
    have nothing (address : Address) : node.hides leaves address = false := by
      rw [← Bool.not_eq_true, Node.hides_eq_true_iff]
      rintro ⟨_, _, _, _, command, _, left⟩
      simp [none] at left
    rw [eventsOutside, Node.eventsOutside, List.filter_eq_self.mpr (by simp [nothing]),
      ← Node.events_eq_flatMap]
    rfl

/-- Nothing is hidden below a slot, in which no command stands. By induction on the address, as each
child of a slot is a slot again. -/
theorem Slot.hides_toNode (leaves : Command → Bool) (slot : Slot) (address : Address) :
    slot.toNode.hides leaves address = false := by
  induction address generalizing slot with
  | nil => rfl
  | cons position rest inRest =>
    have below (slots : List Slot) :
        (slots.map Slot.toNode)[position]?.any (fun child => child.hides leaves rest) = false := by
      rw [List.getElem?_map]
      cases slots[position]? with
      | none => rfl
      | some slot => exact inRest slot
    cases slot with
    | single item => simpa [toNode, Node.hides, Node.command?, Node.children,
        Slot.toNodes_eq_map] using below item.children
    | seq slots => simpa [toNode, Node.hides, Node.command?, Node.children,
        Slot.toNodes_eq_map] using below slots

/-- All events of an item are outside, since what is below an item are slots. -/
theorem Node.eventsOutside_single (leaves : Command → Bool) (item : Item) :
    (Node.single item).eventsOutside leaves = item.events := by
  have nothing (spot : Spot) : (Node.single item).hides leaves spot.address = false :=
    Slot.hides_toNode leaves (.single item) spot.address
  rw [eventsOutside, List.filter_eq_self.mpr (by simp [nothing]), ← Node.events_eq_flatMap]
  rfl

/-- Does what a visitor does, and then ends the walk behind certain events. -/
def Visitor.endingAt (visitor : Visitor σ) (ends : Event → Bool) : Visitor σ := fun event =>
  (visitor event).andThen (if ends event then .stop else .skip)

/-- Where none of the events is to end the walk, nothing changes: each is followed by doing nothing.
-/
theorem Visitor.play_endingAt_of_none {visitor : Visitor σ} {ends : Event → Bool}
    {events : List Event} (none : ∀ event ∈ events, ends event = false) :
    (visitor.endingAt ends).play events = visitor.play events := by
  induction events with
  | nil => rfl
  | cons event later inLater =>
    have first := none event List.mem_cons_self
    have rest := inLater fun other member => none other (List.mem_cons_of_mem _ member)
    rw [play_cons, play_cons, rest, endingAt, first, if_neg (by simp), Action.andThen_skip]

/-- The first event that is to end the walk ends it, once the visitor has been called for it. What
comes later is not played, and what came before is played as ever. -/
theorem Visitor.play_endingAt_of_first {visitor : Visitor σ} {ends : Event → Bool}
    {before : List Event} {event : Event} (later : List Event)
    (none : ∀ other ∈ before, ends other = false) (last : ends event = true) :
    (visitor.endingAt ends).play (before ++ event :: later) =
      (visitor.play (before ++ [event])).andThen .stop := by
  rw [play_append, play_endingAt_of_none none, play_cons, endingAt, last, if_pos rfl,
    Action.andThen_assoc, Action.stop_andThen, play_append, play_cons, play_nil,
    Action.andThen_skip, Action.andThen_assoc]

/-- No event of an item is that of a command. An event in it is the first or the second of some item
in it, and neither is of that hook. -/
theorem Item.command?_of_mem_events {event : Event} {item : Item} (member : event ∈ item.events) :
    event.command? = none := by
  obtain ⟨target, _, own⟩ := (item.mem_events_iff event).mp member
  rcases List.mem_cons.mp own with rfl | kind
  · rfl
  · rcases target with atom | _ | _ | _ | _
    case atom => cases atom <;> simp_all [event?, Atom.event?, Event.command?]
    all_goals simp_all [event?, Event.command?]

section

variable (visitor : Visitor σ) (registrations : List (String × Manner))

mutual

/-- Walking a command in the manners that are registered plays its events outside. Its manner
decides: in order, the arguments play theirs; skipping, there are none; stopping, the event of the
command itself ends the play. -/
theorem Walker.walkCommand_ofManners_eq_play : (node : Command) →
    (ofManners visitor registrations).walkCommand node =
      (visitor.endingAt (endsAt registrations)).play
        ((Node.command node).eventsOutside (leavesOut registrations))
  | ⟨header, args⟩ => by
    have inArgs := Walker.walks_ofManners_eq_play args
    rw [walkCommand_ofManners, Node.eventsOutside_eq, Node.ownEvents, List.singleton_append,
      Visitor.play_cons, Visitor.endingAt]
    cases manner : mannerOf registrations ⟨header, args⟩ with
    | inOrder =>
      simpa [endsAt, leavesOut, Event.command?, Node.command?, manner, Node.children,
        Manner.commandWalker, CommandWalker.inOrder] using congrArg _ inArgs
    | skipping =>
      simp [endsAt, leavesOut, Event.command?, Node.command?, manner,
        Manner.commandWalker, CommandWalker.skipping]
    | stopping =>
      simp [endsAt, leavesOut, Event.command?, Node.command?, manner,
        Manner.commandWalker, CommandWalker.stopping]

/-- Walking a node in the manners that are registered plays its events outside. No command walker is
asked below an item, so there the visitor alone plays. -/
theorem Walker.walk_ofManners_eq_play : (node : Node) →
    (ofManners visitor registrations).walk node =
      (visitor.endingAt (endsAt registrations)).play
        (node.eventsOutside (leavesOut registrations))
  | .command node => Walker.walkCommand_ofManners_eq_play node
  | .single item => by
    have proceeds : ∀ event ∈ item.events, endsAt registrations event = false := by
      intro event member
      rw [endsAt, Item.command?_of_mem_events member, Option.any_none]
    rw [walk, Node.eventsOutside_single, Visitor.play_endingAt_of_none proceeds,
      ofManners, visitor_registerAll, Visitor.walkItem_eq_play]
  | .seq nodes => by
    rw [walk, Walker.walks_ofManners_eq_play nodes, Node.eventsOutside_eq]
    rfl

/-- Walking nodes in the manners that are registered plays the events outside of each in turn, up to
the one that ends the walk. -/
theorem Walker.walks_ofManners_eq_play : (nodes : List Node) →
    .all ((ofManners visitor registrations).walks nodes) =
      (visitor.endingAt (endsAt registrations)).play
        (nodes.flatMap (Node.eventsOutside (leavesOut registrations)))
  | [] => rfl
  | node :: others => by
    rw [walks, Action.all, List.flatMap_cons, Visitor.play_append,
      Walker.walk_ofManners_eq_play node, Walker.walks_ofManners_eq_play others]

end

/-- A walk in the manners that are registered plays the events that are not below a command whose
arguments are left out, and ends behind the first command at which it is to end. -/
theorem Walker.walkRoot_ofManners_eq_play (root : Root) :
    (ofManners visitor registrations).walkRoot root =
      (visitor.endingAt (endsAt registrations)).play
        (root.eventsOutside (leavesOut registrations)) := by
  cases root with
  | none => rfl
  | some node => exact Walker.walk_ofManners_eq_play visitor registrations node

end

/-- Where one manner is registered under all names, a command that has one of them up to case is
walked in that manner, and any other in order. Which of the names is found last does not matter
then. -/
theorem mannerOf_same (names : List String) (manner : Manner) (node : Command) :
    mannerOf (names.map fun name => (name, manner)) node =
      if names.any fun name => EqualUpToCase name node.name then manner else .inOrder := by
  rw [mannerOf, List.findRev?_eq_find?_reverse]
  cases found : (names.map fun name => (name, manner)).reverse.find?
      fun entry => EqualUpToCase entry.1 node.name with
  | none =>
    have other : ∀ name ∈ names, ¬ EqualUpToCase name node.name := by simpa using found
    rw [if_neg (by simpa using other)]
  | some entry =>
    have named : EqualUpToCase entry.1 node.name := by simpa using List.find?_some found
    obtain ⟨name, member, rfl⟩ : ∃ name ∈ names, (name, manner) = entry := by
      simpa using List.mem_of_find?_eq_some found
    rw [if_pos (List.any_eq_true.mpr ⟨name, member, by simpa using named⟩)]

/-- What command walkers change about a walk, whatever visitor it calls; one that logs its calls
is among them.

The command walker of a command is the one registered last under its name, up to the case of
ASCII letters, and the arguments are walked in order if there is none. To register walking in
order changes nothing. Where arguments are left out, the walk plays the events of the tree but for
those below a command of one of the names. With all manners side by side, the first command at
which the walk is to end is the last that is reported. If the report of a command ends the walk,
no command walker is run.

Proof: a walk with manners plays a list of events to the first of a certain sort. Which events are
in the list, and which of them end it, is decided by the manners of the commands, and for one manner
at a time the decision is always the same. -/
theorem commandWalkers_of_walks (visitor : Visitor σ) :
    (∀ (registrations : List (String × CommandWalker σ)) (node : Command),
        (Walker.registerAll { visitor } registrations).walkCommand node =
          (visitor (.command node)).andThen
            (match registrations.findRev? fun entry => EqualUpToCase entry.1 node.name with
            | some (_, commandWalker) =>
              commandWalker node
                ((Walker.registerAll { visitor } registrations).walks node.args)
            | none => (Walker.registerAll { visitor } registrations).walkArgs node)) ∧
      (∀ (names : List String) (root : Root),
        (Walker.ofManners visitor (names.map fun name => (name, .inOrder))).walkRoot root =
          walkRoot visitor root) ∧
      (∀ (names : List String) (root : Root),
        (Walker.ofManners visitor (names.map fun name => (name, .skipping))).walkRoot root =
          visitor.play (root.eventsOutside fun node =>
            names.any fun name => EqualUpToCase name node.name)) ∧
      (∀ (registrations : List (String × Manner)) (root : Root) (before : List Event)
          (node : Command) (later : List Event),
        root.eventsOutside (leavesOut registrations) = before ++ .command node :: later →
        (∀ other, .command other ∈ before → mannerOf registrations other ≠ .stopping) →
        mannerOf registrations node = .stopping →
        (Walker.ofManners visitor registrations).walkRoot root =
          (visitor.play (before ++ [.command node])).andThen .stop) ∧
      ∀ (commandWalkers : List (String × CommandWalker σ)) (node : Command) (state next : σ),
        visitor (.command node) state = (next, .halt) →
        ({ visitor, commandWalkers : Walker σ }).walkCommand node state = (next, .halt) := by
  refine ⟨Walker.walkCommand_registerAll visitor, ?_, ?_, ?_, ?_⟩
  · intro names root
    have inOrder (node : Command) :
        mannerOf (names.map fun name => (name, .inOrder)) node = .inOrder := by
      rw [mannerOf_same]
      split <;> rfl
    rw [Walker.walkRoot_ofManners_eq_play, walkRoot_eq_play,
      Root.eventsOutside_of_none (by simp [leavesOut, inOrder])]
    exact Visitor.play_endingAt_of_none (by simp [endsAt, inOrder])
  · intro names root
    have named : leavesOut (names.map fun name => (name, .skipping)) = fun node =>
        names.any fun name => EqualUpToCase name node.name := by
      funext node
      rw [leavesOut, mannerOf_same]
      split <;> simp_all
    have proceeds (event : Event) :
        endsAt (names.map fun name => (name, .skipping)) event = false := by
      simp only [endsAt, Option.any_eq_false_iff_get, mannerOf_same]
      intro _
      split <;> simp
    rw [Walker.walkRoot_ofManners_eq_play, named]
    exact Visitor.play_endingAt_of_none fun event _ => proceeds event
  · intro registrations root before node later outside none last
    rw [Walker.walkRoot_ofManners_eq_play, outside]
    refine Visitor.play_endingAt_of_first later ?_ (by simp [endsAt, Event.command?, last])
    intro event member
    cases event with
    | command other => simpa [endsAt, Event.command?] using none other member
    | _ => rfl
  · intro commandWalkers node state next halted
    obtain ⟨header, args⟩ := node
    simp only [Walker.walkCommand, Action.andThen, halted]

/-- A command of which the arguments are left out. -/
def dropped : Command :=
  { Header.named "Drop" with args := [.command { Header.named "limit" with }] }

/-- A command at which the walk is to end. -/
def limited : Command :=
  { Header.named "LIMIT" with args := [.single (.atom (.column (Column.named "b")))] }

/-- A command that holds both, and a column between them. -/
def forked : Command :=
  { Header.named "fork" with
    args := [.command dropped, .single (.atom (.column (Column.named "a"))),
      .seq [.command limited]] }

/-- The manners of these commands. Of the two that a fork has, the later counts. -/
def forkedManners : List (String × Manner) :=
  [("FORK", .stopping), ("DROP", .skipping), ("Limit", .stopping), ("fork", .inOrder)]

/-- The walk of a fork and of a command behind it leaves out what is dropped, and ends where it is
to end. The names are registered in other cases than the commands have, and the one of the fork
twice. -/
theorem walkRoot_forked :
    (Walker.ofManners recorder forkedManners).walkRoot
        (some (.seq [.command forked, .command { Header.named "sort" with }])) #[] =
      (#[.command forked, .command dropped, .single (.atom (.column (Column.named "a"))),
        .column (Column.named "a"), .command limited], .halt) := by
  have fork : mannerOf forkedManners forked = .inOrder := rfl
  have drop : mannerOf forkedManners dropped = .skipping := rfl
  have limit : mannerOf forkedManners limited = .stopping := rfl
  have args : forked.args = [.command dropped, .single (.atom (.column (Column.named "a"))),
      .seq [.command limited]] := rfl
  have outside : Root.eventsOutside (leavesOut forkedManners)
        (some (.seq [.command forked, .command { Header.named "sort" with }])) =
      [.command forked, .command dropped, .single (.atom (.column (Column.named "a"))),
        .column (Column.named "a")] ++
      .command limited :: [.command { Header.named "sort" with }] := by
    simp [Root.eventsOutside, Node.eventsOutside_eq, Node.command?, Node.children, Node.ownEvents,
      leavesOut, fork, drop, limit, args, Item.children, Slot.toNodes, Item.event?, Atom.event?]
  obtain ⟨_, _, _, ends, _⟩ := commandWalkers_of_walks recorder
  have ended := ends forkedManners _ _ limited _ outside (by simp [fork, drop]) limit
  rw [ended]
  rfl

end EsqlTree
