import EsqlTree.Walk.Walker

/-!
# The order of a walk

The events of a tree are listed in pre-order by recursion on the tree alone: no
visitor and no state has a part in the list. Without command walkers, a walk is the
left fold of its visitor over that list, cut off behind the first call that ends the
walk. So the events below a node stand together, and every question about a walk is
one about a prefix of a list.

Calls are observed through a visitor that keeps a log beside the state of another.
It is a visitor like any, so what it logs is what the walk itself calls.
-/

namespace EsqlTree

variable {σ : Type}

/-- The events of an atom: as an item, and then by its kind if it has one. -/
def Atom.events (node : Atom) : List Event := .single (.atom node) :: node.event?.toList

mutual

/-- The event of a function, and the events of its arguments. -/
def FunctionCall.events : FunctionCall → List Event
  | ⟨header, form, args⟩ => .function ⟨header, form, args⟩ :: Slot.allEvents args

/-- The event of an option, and the events of its arguments. -/
def CommandOption.events : CommandOption → List Event
  | ⟨header, args⟩ => .option ⟨header, args⟩ :: Slot.allEvents args

/-- The event of a list, and the events of its values. -/
def ListLiteral.events : ListLiteral → List Event
  | ⟨header, values⟩ => .list ⟨header, values⟩ :: Slot.allEvents values

/-- The events of an item: as an item, then by its kind, then of what hangs below it.
The operand of a cast has none. -/
def Item.events : Item → List Event
  | .atom node => node.events
  | .function node => .single (.function node) :: node.events
  | .option node => .single (.option node) :: node.events
  | .list node => .single (.list node) :: node.events
  | .inlineCast node => [.single (.inlineCast node), .inlineCast node]

/-- The events of a slot. A sequence has no event of its own. -/
def Slot.events : Slot → List Event
  | .single item => item.events
  | .seq slots => Slot.allEvents slots

/-- The events of slots, one after another. -/
def Slot.allEvents : List Slot → List Event
  | [] => []
  | slot :: others => slot.events ++ Slot.allEvents others

end

mutual

/-- The event of a command, and the events of its arguments. -/
def Command.events : Command → List Event
  | ⟨header, args⟩ => .command ⟨header, args⟩ :: Node.allEvents args

/-- The events of a node. A sequence has no event of its own. -/
def Node.events : Node → List Event
  | .command node => node.events
  | .single item => item.events
  | .seq nodes => Node.allEvents nodes

/-- The events of nodes, one after another. -/
def Node.allEvents : List Node → List Event
  | [] => []
  | node :: others => node.events ++ Node.allEvents others

end

/-- The events of a tree; an absent one has none. -/
def Root.events : Root → List Event
  | none => []
  | some node => node.events

namespace Visitor

/-- Calls a visitor for events in order, until a call ends the walk. -/
def play (visitor : Visitor σ) (events : List Event) : Action σ := .all (events.map visitor)

/-- Playing no events calls nobody, so the state stays as it is and the walk goes on. -/
@[simp] theorem play_nil (visitor : Visitor σ) : visitor.play [] = .skip := rfl

/-- The first event is played before the later ones, which are played on the state that its call
leaves, and only if that call does not end the walk. -/
@[simp] theorem play_cons (visitor : Visitor σ) (event : Event) (later : List Event) :
    visitor.play (event :: later) = (visitor event).andThen (visitor.play later) := rfl

/-- Events may be played in two parts. If the first part ends the walk, the second one is not
played, and this is what running two actions in turn means. -/
theorem play_append (visitor : Visitor σ) (front back : List Event) :
    visitor.play (front ++ back) = (visitor.play front).andThen (visitor.play back) := by
  simp only [play, List.map_append, Action.all_append]

/-- The state behind calls of which each runs on the state that the one before left. -/
def after (visitor : Visitor σ) (start : σ) (events : List Event) : σ :=
  events.foldl (fun state event => (visitor event state).1) start

/-- The same calls, each as its event and the state on which it runs. -/
def calls (visitor : Visitor σ) (start : σ) : List Event → List (Event × σ)
  | [] => []
  | event :: later => (event, start) :: visitor.calls (visitor event start).1 later

/-- Without their states, the calls are the events. A state decides what a call does, but not that
it is made. -/
theorem map_fst_calls (visitor : Visitor σ) (start : σ) (events : List Event) :
    (visitor.calls start events).map Prod.fst = events := by
  induction events generalizing start with
  | nil => rfl
  | cons event later inLater => rw [calls, List.map_cons, inLater]

/-- True where none of the calls ends the walk. -/
def Proceeds (visitor : Visitor σ) (start : σ) (events : List Event) : Prop :=
  ∀ call ∈ visitor.calls start events, (visitor call.1 call.2).2 = .proceed

/-- Where nobody is called, no call ends the walk. -/
@[simp] theorem proceeds_nil (visitor : Visitor σ) (start : σ) : visitor.Proceeds start [] := by
  simp [Proceeds, calls]

/-- No call ends the walk if the first one does not and none of the later ones does, on the state
that the first one leaves. -/
@[simp] theorem proceeds_cons (visitor : Visitor σ) (start : σ) (event : Event)
    (later : List Event) :
    visitor.Proceeds start (event :: later) ↔
      (visitor event start).2 = .proceed ∧ visitor.Proceeds (visitor event start).1 later := by
  simp [Proceeds, calls]

/-- Does what a visitor does, and logs each of its calls. -/
def logged (visitor : Visitor σ) : Visitor (σ × List (Event × σ)) := fun event (state, log) =>
  (((visitor event state).1, log ++ [(event, state)]), (visitor event state).2)

/-- Playing events calls a visitor for a prefix of them. Either that is all of them and
no call ends the walk, or it ends with the first call that does. The state and the log
are those of the left fold over that prefix.

The induction is on the events: a first call that halts is the prefix, and a first call
that proceeds hands its state to the later events, whose prefix it extends. -/
theorem play_prefix (visitor : Visitor σ) (events : List Event) (start : σ) :
    ∃ called rest flow, events = called ++ rest ∧
      visitor.play events start = (visitor.after start called, flow) ∧
      (∀ log, visitor.logged.play events (start, log) =
        ((visitor.after start called, log ++ visitor.calls start called), flow)) ∧
      ((flow = .proceed ∧ rest = [] ∧ visitor.Proceeds start called) ∨
        (flow = .halt ∧ ∃ before last, called = before ++ [last] ∧
          visitor.Proceeds start before ∧
          (visitor last (visitor.after start before)).2 = .halt)) := by
  induction events generalizing start with
  | nil =>
    refine ⟨[], [], .proceed, rfl, rfl, ?_, .inl ⟨rfl, rfl, proceeds_nil visitor start⟩⟩
    intro log
    simp [after, calls, Action.skip]
  | cons event later inLater =>
    cases outcome : visitor event start with
    | mk next flow =>
      cases flow with
      | halt =>
        refine ⟨[event], later, .halt, rfl, ?_, ?_, .inr ⟨rfl, [], event, rfl, ?_, ?_⟩⟩
        · simp [Action.andThen, after, outcome]
        · intro log
          simp [Action.andThen, logged, after, calls, outcome]
        · exact proceeds_nil visitor start
        · simp [after, outcome]
      | proceed =>
        obtain ⟨called, rest, flow, split, played, logged, ending⟩ := inLater next
        refine ⟨event :: called, rest, flow, congrArg (event :: ·) split, ?_, ?_, ?_⟩
        · simpa [Action.andThen, after, outcome] using played
        · intro log
          have noted := logged (log ++ [(event, start)])
          simpa [Action.andThen, Visitor.logged, after, calls, outcome] using noted
        · rcases ending with ⟨proceeded, whole, none⟩ | ⟨halted, before, last, cut, none, ended⟩
          · exact .inl ⟨proceeded, whole, by simp [outcome, none]⟩
          · refine .inr ⟨halted, event :: before, last, congrArg (event :: ·) cut, ?_, ?_⟩
            · simp [outcome, none]
            · simpa [after, outcome] using ended

mutual

/-- Walking a function plays its events: its own one, and then those of its arguments. The recursion
is that of the walk, and is mutual with those below down to the slots. -/
theorem walkFunction_eq_play (visitor : Visitor σ) :
    (node : FunctionCall) → visitor.walkFunction node = visitor.play node.events
  | ⟨header, form, args⟩ => by
    simp only [walkFunction, FunctionCall.events, play_cons, walkSlots_eq_play visitor args]

/-- Walking an option plays its events: its own one, and then those of its arguments. -/
theorem walkOption_eq_play (visitor : Visitor σ) :
    (node : CommandOption) → visitor.walkOption node = visitor.play node.events
  | ⟨header, args⟩ => by
    simp only [walkOption, CommandOption.events, play_cons, walkSlots_eq_play visitor args]

/-- Walking a list plays its events: its own one, and then those of its values. -/
theorem walkList_eq_play (visitor : Visitor σ) :
    (node : ListLiteral) → visitor.walkList node = visitor.play node.events
  | ⟨header, values⟩ => by
    simp only [walkList, ListLiteral.events, play_cons, walkSlots_eq_play visitor values]

/-- Walking an item plays its events. The hook of all items is called first, then that of its kind;
an inert atom has no second one, and a cast has nothing behind it. -/
theorem walkItem_eq_play (visitor : Visitor σ) :
    (item : Item) → visitor.walkItem item = visitor.play item.events
  | .atom node => by
    cases kind : node.event? <;>
      simp [walkItem, walkAtom, Item.events, Atom.events, kind]
  | .function node => by
    simp only [walkItem, Item.events, play_cons, walkFunction_eq_play visitor node]
  | .option node => by
    simp only [walkItem, Item.events, play_cons, walkOption_eq_play visitor node]
  | .list node => by
    simp only [walkItem, Item.events, play_cons, walkList_eq_play visitor node]
  | .inlineCast node => by
    simp [walkItem, Item.events]

/-- Walking a slot plays its events. A sequence is walked slot by slot and calls no hook of its own,
as it has no event of its own. -/
theorem walkSlot_eq_play (visitor : Visitor σ) :
    (slot : Slot) → visitor.walkSlot slot = visitor.play slot.events
  | .single item => by
    simp only [walkSlot, Slot.events, walkItem_eq_play visitor item]
  | .seq slots => by
    simp only [walkSlot, Slot.events, walkSlots_eq_play visitor slots]

/-- Walking slots plays the events of each in turn, since playing in two parts is playing the events
of both. -/
theorem walkSlots_eq_play (visitor : Visitor σ) :
    (slots : List Slot) → visitor.walkSlots slots = visitor.play (Slot.allEvents slots)
  | [] => rfl
  | slot :: others => by
    simp only [walkSlots, Slot.allEvents, play_append, walkSlot_eq_play visitor slot,
      walkSlots_eq_play visitor others]

end

end Visitor

namespace Walker

mutual

/-- Without command walkers, walking a command plays its events. A command without a walker of its
own is arranged by default, which walks all of its arguments in order. -/
theorem walkCommand_eq_play (walker : Walker σ) (plain : walker.commandWalkers = []) :
    (node : Command) → walker.walkCommand node = walker.visitor.play node.events
  | ⟨header, args⟩ => by
    have default : walker.arrange ⟨header, args⟩ (walker.walks args) =
        .all (walker.walks args) := by
      simp [arrange, commandWalker?, plain]
    simp only [walkCommand, Command.events, Visitor.play_cons, default,
      walks_eq_play walker plain args]

/-- Without command walkers, walking a node plays its events. Below an item no command is walked, so
there the law for items holds, whatever command walkers there are. -/
theorem walk_eq_play (walker : Walker σ) (plain : walker.commandWalkers = []) :
    (node : Node) → walker.walk node = walker.visitor.play node.events
  | .command node => by
    simp only [walk, Node.events, walkCommand_eq_play walker plain node]
  | .single item => by
    simp only [walk, Node.events, Visitor.walkItem_eq_play]
  | .seq nodes => by
    simp only [walk, Node.events, walks_eq_play walker plain nodes]

/-- Without command walkers, the walks of nodes in order play the events of each in turn, as with
slots. -/
theorem walks_eq_play (walker : Walker σ) (plain : walker.commandWalkers = []) :
    (nodes : List Node) → .all (walker.walks nodes) = walker.visitor.play (Node.allEvents nodes)
  | [] => rfl
  | node :: others => by
    simp only [walks, Action.all, Node.allEvents, Visitor.play_append,
      walk_eq_play walker plain node, walks_eq_play walker plain others]

end

end Walker

/-- A walk without command walkers plays the events of its tree. All that is said of such a walk
from here on is said of a list of events, and the tree has no further part in it. -/
theorem walkRoot_eq_play (visitor : Visitor σ) (root : Root) :
    walkRoot visitor root = visitor.play root.events := by
  cases root with
  | none => rfl
  | some node => exact Walker.walk_eq_play { visitor := visitor } rfl node

/-- A walk without command walkers is the left fold of its visitor over the events of the tree, cut
off behind the first call that ends the walk. The calls, as logged, are those for a prefix of the
events, each on the state that the one before left. If the walk proceeds, the prefix is the whole
list and no call halts; if it halts, the last call of the prefix does and none before it. The walk
plays its events, so this is a property of playing a list. -/
theorem walkRoot_eq_foldl_of_prefix (visitor : Visitor σ) (start : σ) (root : Root) :
    ∃ called rest flow, root.events = called ++ rest ∧
      walkRoot visitor root start = (visitor.after start called, flow) ∧
      walkRoot visitor.logged root (start, []) =
        ((visitor.after start called, visitor.calls start called), flow) ∧
      ((flow = .proceed ∧ rest = [] ∧ visitor.Proceeds start called) ∨
        (flow = .halt ∧ ∃ before last, called = before ++ [last] ∧
          visitor.Proceeds start before ∧
          (visitor last (visitor.after start before)).2 = .halt)) := by
  obtain ⟨called, rest, flow, split, played, logged, ending⟩ :=
    visitor.play_prefix root.events start
  refine ⟨called, rest, flow, split, ?_, ?_, ending⟩
  · rw [walkRoot_eq_play, played]
  · rw [walkRoot_eq_play, logged [], List.nil_append]

end EsqlTree
