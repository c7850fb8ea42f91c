import EsqlTree.Proofs.Walk.Reach
import EsqlTree.Query
import EsqlTree.Trace

/-!
# Questions and events

Each question about a tree is answered by a walk of its own, with a visitor of its own. All
these answers can be read off one list, that of the tree's events: a visitor that collects
nodes picks them from the whole list, and the search for a function goes through the
functions of the list up to the first that is accepted.
-/

namespace EsqlTree

/-- The command of an event of a command. -/
def Event.command? : Event → Option Command
  | .command node => some node
  | _ => none

/-- The function of an event of a function. -/
def Event.function? : Event → Option FunctionCall
  | .function node => some node
  | _ => none

/-- The placeholder of an event of a literal, if the literal is one. -/
def Event.param? : Event → Option Literal
  | .literal node => if node.isParam then some node else none
  | _ => none

/-- A function is picked from its own event alone, so the functions of some events are found by
their events and in their order. -/
theorem Event.function?_eq_some_iff (event : Event) (node : FunctionCall) :
    event.function? = some node ↔ event = .function node := by
  cases event <;> simp [function?]

/-- A placeholder is picked from its own event alone. The event is that of any literal, so that it
is a placeholder is to be said of the node. -/
theorem Event.param?_eq_some_iff (event : Event) (node : Literal) :
    event.param? = some node ↔ node.isParam = true ∧ event = .literal node := by
  cases event with
  | literal other =>
    simp only [param?, Option.ite_none_right_eq_some, Option.some.injEq, literal.injEq]
    constructor
    · rintro ⟨placeholder, rfl⟩
      exact ⟨placeholder, rfl⟩
    · rintro ⟨placeholder, rfl⟩
      exact ⟨placeholder, rfl⟩
  | _ => simp [param?]

/-- A visitor that collects what it picks from an event collects what is picked from all events. The
induction is on the events: what was found so far grows at its end, and no call ends the walk. -/
theorem Visitor.play_eq_collected {α : Type} {visitor : Visitor (Array α)}
    {pick? : Event → Option α}
    (collects : ∀ event found, visitor event found = (found ++ (pick? event).toArray, .proceed))
    (events : List Event) (found : Array α) :
    visitor.play events found = (found ++ (events.filterMap pick?).toArray, .proceed) := by
  induction events generalizing found with
  | nil => simp [Action.skip]
  | cons event later inLater =>
    simp only [play_cons, Action.andThen, collects, inLater]
    cases picked : pick? event <;> simp [picked]

/-- What a walk collects is picked from the events of the tree. This is the one law behind every
question that is answered with a list; a question has to show what its visitor picks from a single
event. -/
theorem walkRoot_eq_collected {α : Type} {visitor : Visitor (Array α)} {pick? : Event → Option α}
    (collects : ∀ event found, visitor event found = (found ++ (pick? event).toArray, .proceed))
    (root : Root) : (walkRoot visitor root #[]).1.toList = root.events.filterMap pick? := by
  rw [walkRoot_eq_play, Visitor.play_eq_collected collects]
  simp

/-- A recorder picks every event, whatever its hook, and never ends the walk. -/
theorem recorder_eq (event : Event) (found : Array Event) :
    recorder event found = (found ++ (some event).toArray, .proceed) := by
  simp [recorder, Action.update]

/-- A trace lists the events of the tree. The recorder leaves nothing out and adds nothing, so
picking from all events gives them back. -/
theorem trace_eq_events (root : Root) : trace root = root.events := by
  rw [trace, walkRoot_eq_collected recorder_eq, List.filterMap_some]

/-- The commands of a tree are those of its events. The callback is registered under the hook of
commands alone, so at any other event nothing is picked. -/
theorem commands_eq_filterMap (root : Root) :
    commands root = root.events.filterMap Event.command? := by
  refine walkRoot_eq_collected (fun event found => ?_) root
  cases event <;>
    simp [Callbacks.visitor, Callbacks.on, Callbacks.onFallible, Callbacks.empty, Event.hook,
      Event.command?, Action.update, Action.skip]

/-- The placeholders of a tree are those of its events. The callback is registered under the hook of
literals and looks at each literal for itself. -/
theorem params_eq_filterMap (root : Root) : params root = root.events.filterMap Event.param? := by
  refine walkRoot_eq_collected (fun event found => ?_) root
  cases event with
  | literal node =>
    cases placeholder : node.isParam <;>
      simp [Callbacks.visitor, Callbacks.on, Callbacks.onFallible, Event.hook, Event.param?,
        Action.update, placeholder]
  | _ =>
    simp [Callbacks.visitor, Callbacks.on, Callbacks.onFallible, Callbacks.empty, Event.hook,
      Event.param?, Action.skip]

/-- The functions of a tree, in the order of the walk. -/
def Root.functions (root : Root) : List FunctionCall := root.events.filterMap Event.function?

/-- The functions of a tree are those that it reaches. Their order is that of the walk, but which
they are does not depend on it. -/
theorem Root.mem_functions_iff (node : FunctionCall) (root : Root) :
    node ∈ root.functions ↔ root.Reaches (.single (.function node)) := by
  simp only [functions, List.mem_filterMap, Event.function?_eq_some_iff, exists_eq_right,
    Root.function_mem_events_iff]

/-- The first of some functions that a predicate with a state accepts, and the state in which
the predicate is left. It is asked about no function behind that one. -/
def firstAccepted {π : Type} (accepts : FunctionCall → π → Bool × π) (start : π) :
    List FunctionCall → Option FunctionCall × π
  | [] => (none, start)
  | node :: others =>
    match accepts node start with
    | (true, asked) => (some node, asked)
    | (false, asked) => firstAccepted accepts asked others

/-- The finder asks about the functions of the events in order. The induction is on the events: one
of another kind is passed over, and a function is asked about in the state that the question before
left, until one is accepted and the walk ends. -/
theorem functionFinder_play_eq {π : Type} (accepts : FunctionCall → π → Bool × π)
    (events : List Event) (start : π) :
    ((functionFinder accepts).play events (start, none)).1 =
      (firstAccepted accepts start (events.filterMap Event.function?)).swap := by
  induction events generalizing start with
  | nil => rfl
  | cons event later inLater =>
    rw [Visitor.play_cons]
    cases event with
    | function node =>
      rcases outcome : accepts node start with ⟨accepted, asked⟩
      cases accepted with
      | true => simp [Action.andThen, functionFinder, Event.function?, firstAccepted, outcome]
      | false =>
        simpa [Action.andThen, functionFinder, Event.function?, firstAccepted, outcome]
          using inLater asked
    | _ =>
      simpa only [Action.andThen, functionFinder, List.filterMap_cons, Event.function?]
        using inLater start

/-- A search asks about the functions of the tree in order and stops at the first that is accepted.
The walk is played on the events, from which the functions can be picked beforehand. -/
theorem findFunctionWith_eq_firstAccepted {π : Type} (accepts : FunctionCall → π → Bool × π)
    (start : π) (root : Root) :
    findFunctionWith accepts start root = firstAccepted accepts start root.functions := by
  rw [findFunctionWith, walkRoot_eq_play, functionFinder_play_eq, Root.functions]
  rfl

/-- A predicate without a state accepts the first function that it is true of, as the search of a
list does. -/
theorem firstAccepted_eq_find? (accepts : FunctionCall → Bool) (nodes : List FunctionCall) :
    (firstAccepted (fun node (_ : Unit) => (accepts node, ())) () nodes).1 =
      nodes.find? accepts := by
  induction nodes with
  | nil => rfl
  | cons node others inOthers =>
    cases accepted : accepts node <;> simp [firstAccepted, accepted, inOthers]

/-- A search finds the first function of the tree that is accepted, in the order of the walk, and
none if no function is. -/
theorem findFunction_eq_find? (accepts : FunctionCall → Bool) (root : Root) :
    findFunction accepts root = root.functions.find? accepts := by
  rw [findFunction, findFunctionWith_eq_firstAccepted, firstAccepted_eq_find?]

/-- The function that is found is accepted. Its events stand together among those of the tree, and
in front of them is no event of a function that is accepted. The functions are parted at the one
that is found; its event parts the events there, and the block around that event is the one that the
tree gives. -/
theorem events_eq_of_findFunction_eq_some {accepts : FunctionCall → Bool} {root : Root}
    {node : FunctionCall} (found : findFunction accepts root = some node) :
    accepts node = true ∧ ∃ before after,
      root.events = before ++ (Item.function node).events ++ after ∧
        ∀ other, .function other ∈ before → accepts other = false := by
  rw [findFunction_eq_find?, List.find?_eq_some_iff_append] at found
  obtain ⟨accepted, others, _, listed, refused⟩ := found
  -- Where the functions are parted by the one that is found, so are the events.
  obtain ⟨front, later, parted, picked, pickedLater⟩ := List.filterMap_eq_append_iff.mp listed
  obtain ⟨between, event, rest, rfl, noneBetween, own, _⟩ :=
    List.filterMap_eq_cons_iff.mp pickedLater
  obtain rfl := (event.function?_eq_some_iff node).mp own
  rw [← List.append_assoc] at parted
  obtain ⟨before, after, split, block⟩ := root.blocksStandTogether _ node rest parted
  refine ⟨accepted, before, after, ?_, ?_⟩
  · rw [parted, split, block, Item.events, List.append_assoc, List.append_assoc]
    rfl
  · intro other inBefore
    have inFront : .function other ∈ front ++ between := by
      rw [split]
      exact List.mem_append_left _ inBefore
    rcases List.mem_append.mp inFront with member | member
    · have listed : other ∈ others := by
        rw [← picked]
        exact List.mem_filterMap.mpr ⟨_, member, rfl⟩
      simpa using refused other listed
    · have absent := noneBetween _ member
      contradiction

/-- A tree has a function of a name exactly if it reaches one. In particular what stands below a
cast is not reached, and a function there is not had. -/
theorem hasFunction_eq_true_iff (name : String) (root : Root) :
    hasFunction name root = true ↔
      ∃ node, root.Reaches (.single (.function node)) ∧ node.name = name := by
  simp only [hasFunction, findFunction_eq_find?, List.find?_isSome, beq_iff_eq,
    Root.mem_functions_iff]

end EsqlTree
