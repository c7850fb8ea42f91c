import EsqlTree.Proofs.Walk.Queries

/-!
# What callbacks are called for

Callbacks are set one after another, in any order, and of those that are set for one hook the
last one counts. A walk calls them for the events whose hook has one, in the order of the trace,
and goes through the whole tree: no callback has a say in whether it goes on, and an event whose
hook has none does nothing. So what a callback is called for is a matter of its own hook alone.

Calls are observed through callbacks that keep a log beside the state of others. They are
callbacks like any, so what they log is what the walk itself calls.
-/

namespace EsqlTree

variable {σ : Type}

/-- What is done to a state for an event. -/
abbrev Callback (σ : Type) := Event → σ → σ

/-- Callbacks in the order in which they are set, each with its hook. -/
abbrev Subscriptions (σ : Type) := List (Hook × Callback σ)

namespace Subscriptions

/-- The hooks for which a callback is set. -/
def hooks (subscriptions : Subscriptions σ) : List Hook := subscriptions.map Prod.fst

/-- The callbacks that are in place when all have been set. -/
def callbacks (subscriptions : Subscriptions σ) : Callbacks σ :=
  subscriptions.foldl (fun earlier entry => earlier.on entry.1 entry.2) .empty

/-- The callback that was set last for a hook, with its position. -/
def current? (subscriptions : Subscriptions σ) (hook : Hook) :
    Option ((Hook × Callback σ) × Nat) :=
  subscriptions.zipIdx.findRev? fun entry => entry.1.1 = hook

/-- An event is answered by the callback that was set last for its hook. The induction is on the
callbacks with those in place before them held general, since each later one takes the place of the
earlier one of its hook. -/
theorem visitor_callbacks (subscriptions : Subscriptions σ) (event : Event) :
    subscriptions.callbacks.visitor event =
      match subscriptions.findRev? fun entry => entry.1 = event.hook with
      | some entry => .update (entry.2 event)
      | none => .skip := by
  have inPlace (earlier : Callbacks σ) :
      (subscriptions.foldl (fun earlier entry => earlier.on entry.1 entry.2) earlier).callback?
          event.hook =
        ((subscriptions.findRev? fun entry => entry.1 = event.hook).map
          fun entry event => .update (entry.2 event)).or (earlier.callback? event.hook) := by
    induction subscriptions generalizing earlier with
    | nil => rfl
    | cons entry others inOthers =>
      rw [List.foldl_cons, inOthers, List.findRev?]
      cases others.findRev? fun entry => entry.1 = event.hook with
      | some later => rfl
      | none =>
        by_cases same : entry.1 = event.hook
        · simp [Callbacks.on, Callbacks.onFallible, same]
        · simp [Callbacks.on, Callbacks.onFallible, same, Ne.symm same]
  rw [Callbacks.visitor, callbacks, inPlace, Callbacks.empty]
  cases subscriptions.findRev? fun entry => entry.1 = event.hook <;> rfl

/-- The position tells a callback apart from others; without it, it is the last one of its hook. The
positions are added to the list first, and forgetting them gives the list back. -/
theorem findRev?_eq_map_current? (subscriptions : Subscriptions σ) (hook : Hook) :
    (subscriptions.findRev? fun entry => entry.1 = hook) =
      (subscriptions.current? hook).map Prod.fst := by
  have forgotten : subscriptions = subscriptions.zipIdx.map Prod.fst :=
    (List.zipIdx_map_fst 0 subscriptions).symm
  calc
    _ = (subscriptions.zipIdx.map Prod.fst).findRev? fun entry => entry.1 = hook :=
      congrArg (List.findRev? fun entry => entry.1 = hook) forgotten
    _ = (subscriptions.current? hook).map Prod.fst := by
      rw [current?, List.findRev?_eq_find?_reverse, List.findRev?_eq_find?_reverse,
        ← List.map_reverse, List.find?_map]
      rfl

/-- Behind the callback that was set last for a hook, no other is set for that hook. It is the first
one from the back, so all that were passed over on the way are of other hooks. -/
theorem eq_append_of_current? {subscriptions : Subscriptions σ} {hook : Hook}
    {found : (Hook × Callback σ) × Nat} (last : subscriptions.current? hook = some found) :
    ∃ before after, subscriptions = before ++ (hook, found.1.2) :: after ∧
      before.length = found.2 ∧ hook ∉ hooks after := by
  rw [current?, List.findRev?_eq_find?_reverse, List.find?_eq_some_iff_append] at last
  obtain ⟨same, later, earlier, split, others⟩ := last
  have inOrder := congrArg List.reverse split
  rw [List.reverse_reverse, List.reverse_append, List.reverse_cons, List.append_assoc,
    List.singleton_append] at inOrder
  obtain ⟨before, rest, rfl, _, behind⟩ := List.zipIdx_eq_append_iff.mp inOrder
  obtain ⟨entry, after, rfl, rfl, behind⟩ := List.zipIdx_eq_cons_iff.mp behind.symm
  obtain rfl : entry.1 = hook := by simpa using same
  refine ⟨before, after, rfl, (Nat.zero_add _).symm, ?_⟩
  intro again
  obtain ⟨entry, member, same⟩ := List.mem_map.mp again
  rw [← List.zipIdx_map_fst (0 + before.length + 1) after] at member
  obtain ⟨placed, inAfter, rfl⟩ := List.mem_map.mp member
  rw [← (List.cons.inj behind).2, List.mem_reverse] at inAfter
  have refused := others placed inAfter
  simp [same] at refused

/-- The callback that was set last for a hook is found at its position, which is as many places from
the start as there are callbacks in front of it. -/
theorem getElem?_of_current? {subscriptions : Subscriptions σ} {hook : Hook}
    {found : (Hook × Callback σ) × Nat} (last : subscriptions.current? hook = some found) :
    subscriptions[found.2]? = some (hook, found.1.2) := by
  obtain ⟨before, after, split, position, _⟩ := eq_append_of_current? last
  rw [← position, split]
  simp

/-- A hook has a callback exactly if one was set for it, since a search from the back finds one
whenever there is any. -/
theorem isSome_current?_iff (subscriptions : Subscriptions σ) (hook : Hook) :
    (subscriptions.current? hook).isSome ↔ hook ∈ subscriptions.hooks := by
  rw [← Option.isSome_map (f := Prod.fst), ← findRev?_eq_map_current?,
    List.findRev?_eq_find?_reverse, List.find?_isSome]
  simp [hooks]

/-- The calls that events make: for each whose hook has a callback, the position of that callback
and the event. -/
def callsAt (subscriptions : Subscriptions σ) (events : List Event) : List (Nat × Event) :=
  events.filterMap fun event =>
    (subscriptions.current? event.hook).map fun found => (found.2, event)

/-- Makes one call: the callback at a position is called for an event. -/
def perform (subscriptions : Subscriptions σ) (state : σ) (call : Nat × Event) : σ :=
  match subscriptions[call.1]? with
  | some (_, callback) => callback call.2 state
  | none => state

/-- Callbacks that do what others do, and log each call by the position of the callback and the
event for which it is called. -/
def logged (subscriptions : Subscriptions σ) : Subscriptions (σ × List (Nat × Event)) :=
  subscriptions.zipIdx.map fun ((hook, callback), position) =>
    (hook, fun event (state, log) => (callback event state, log ++ [(position, event)]))

/-- Events play their calls, each on the state that the one before left, and no call ends the walk.
The plain callbacks and the logging ones are followed together, since both sides of the induction
step look up the same callback. -/
theorem play_callbacks (subscriptions : Subscriptions σ) (events : List Event) (start : σ) :
    subscriptions.callbacks.visitor.play events start =
        ((subscriptions.callsAt events).foldl subscriptions.perform start, .proceed) ∧
      ∀ log, subscriptions.logged.callbacks.visitor.play events (start, log) =
        (((subscriptions.callsAt events).foldl subscriptions.perform start,
          log ++ subscriptions.callsAt events), .proceed) := by
  induction events generalizing start with
  | nil => simp [callsAt, Action.skip]
  | cons event later inLater =>
    have found : (subscriptions.logged.findRev? fun entry => entry.1 = event.hook) =
        (subscriptions.current? event.hook).map fun ((hook, callback), position) =>
          (hook, fun event (state, log) => (callback event state, log ++ [(position, event)])) := by
      rw [logged, current?, List.findRev?_eq_find?_reverse, List.findRev?_eq_find?_reverse,
        ← List.map_reverse, List.find?_map]
      rfl
    simp only [Visitor.play_cons, Action.andThen, visitor_callbacks, found,
      findRev?_eq_map_current?, callsAt, List.filterMap_cons]
    cases current : subscriptions.current? event.hook with
    | none => simpa [Action.skip, callsAt] using inLater start
    | some last =>
      obtain ⟨played, logs⟩ := inLater (last.1.2 event start)
      constructor
      · simpa [Action.update, callsAt, perform, getElem?_of_current? current] using played
      · intro log
        have noted := logs (log ++ [(last.2, event)])
        simpa [Action.update, callsAt, perform, getElem?_of_current? current] using noted

/-- The calls of a walk in order, as the callbacks log them. -/
def calls (subscriptions : Subscriptions σ) (start : σ) (root : Root) : List (Nat × Event) :=
  (walkRoot subscriptions.logged.callbacks.visitor root (start, [])).1.2

/-- The events for which a walk calls the callback at a position. -/
def received (subscriptions : Subscriptions σ) (start : σ) (root : Root) (position : Nat) :
    List Event :=
  ((subscriptions.calls start root).filter fun call => call.1 = position).map Prod.snd

/-- The calls of a walk are those that its trace makes, because the walk plays the events of the
tree and each call is logged as it is made. -/
theorem calls_eq_callsAt (subscriptions : Subscriptions σ) (start : σ) (root : Root) :
    subscriptions.calls start root = subscriptions.callsAt (trace root) := by
  obtain ⟨_, logs⟩ := subscriptions.play_callbacks root.events start
  rw [calls, walkRoot_eq_play, logs, trace_eq_events, List.nil_append]

/-- Only events whose hook has a callback make calls. Without the positions, the calls are the
events that pass this test, in their order. -/
theorem map_snd_callsAt (subscriptions : Subscriptions σ) (events : List Event) :
    (subscriptions.callsAt events).map Prod.snd =
      events.filter fun event => event.hook ∈ subscriptions.hooks := by
  rw [callsAt, List.map_filterMap, ← List.filterMap_eq_filter]
  congr 1
  funext event
  have set := subscriptions.isSome_current?_iff event.hook
  cases current : subscriptions.current? event.hook with
  | none =>
    have unset : event.hook ∉ subscriptions.hooks := by simp [← set, current]
    simp [Option.guard, unset]
  | some found =>
    have set : event.hook ∈ subscriptions.hooks := by simp [← set, current]
    simp [Option.guard, set]

/-- The callback that was set last for a hook receives the events of that hook, all of them and no
others: events of other hooks go to callbacks at other positions. -/
theorem received_of_current? {subscriptions : Subscriptions σ} {hook : Hook}
    {found : (Hook × Callback σ) × Nat} (last : subscriptions.current? hook = some found)
    (start : σ) (root : Root) :
    subscriptions.received start root found.2 =
      (trace root).filter fun event => event.hook = hook := by
  rw [received, calls_eq_callsAt, callsAt, List.filter_filterMap, List.map_filterMap,
    ← List.filterMap_eq_filter]
  congr 1
  funext event
  by_cases same : event.hook = hook
  · simp [Option.guard, same, last]
  · cases current : subscriptions.current? event.hook with
    | none => simp [Option.guard, same]
    | some other =>
      -- Two hooks do not share a position.
      have apart : other.2 ≠ found.2 := by
        intro shared
        have here := getElem?_of_current? current
        rw [shared, getElem?_of_current? last] at here
        simp_all
      simp [Option.guard, same, apart]

end Subscriptions

/-- Whatever callbacks are set, in whatever order, a walk calls them for exactly the events of the
trace whose hook has one, in the order of the trace, and proceeds to the end.

Of the callbacks that are set for one hook, the call goes to the last. Each call runs on the state
that the one before left, and so the walk that logs nothing ends as the one that logs its calls. A
callback that is in place is called for the same events whatever other callbacks there are, before
or behind it, and whatever they do to the state.

Proof: the walk plays the events of the tree, and playing an event calls the one callback that is in
place for its hook. Which one it is depends on the settings and not on the state, so the calls can
be listed before they are made. -/
theorem callbacks_called_in_order (subscriptions : Subscriptions σ) (start : σ) (root : Root) :
    (subscriptions.calls start root).map Prod.snd =
        (trace root).filter (fun event => event.hook ∈ subscriptions.hooks) ∧
      (∀ position event, (position, event) ∈ subscriptions.calls start root →
        ∃ before callback after, subscriptions = before ++ (event.hook, callback) :: after ∧
          before.length = position ∧ event.hook ∉ Subscriptions.hooks after) ∧
      walkRoot subscriptions.callbacks.visitor root start =
        ((subscriptions.calls start root).foldl subscriptions.perform start, .proceed) ∧
      ∀ {τ : Type} (others : Subscriptions τ) (begun : τ) (hook : Hook)
          (own : (Hook × Callback σ) × Nat) (other : (Hook × Callback τ) × Nat),
        subscriptions.current? hook = some own → others.current? hook = some other →
          subscriptions.received start root own.2 = others.received begun root other.2 := by
  refine ⟨?_, ?_, ?_, ?_⟩
  · rw [subscriptions.calls_eq_callsAt, subscriptions.map_snd_callsAt]
  · intro position event called
    rw [subscriptions.calls_eq_callsAt, Subscriptions.callsAt, List.mem_filterMap] at called
    obtain ⟨_, _, made⟩ := called
    obtain ⟨found, last, same⟩ := Option.map_eq_some_iff.mp made
    obtain ⟨rfl, rfl⟩ := Prod.mk.inj same
    obtain ⟨before, after, split, length, unset⟩ := Subscriptions.eq_append_of_current? last
    exact ⟨before, found.1.2, after, split, length, unset⟩
  · obtain ⟨played, _⟩ := subscriptions.play_callbacks root.events start
    rw [walkRoot_eq_play, played, subscriptions.calls_eq_callsAt, trace_eq_events]
  · intro τ others begun hook own other last lastOther
    rw [Subscriptions.received_of_current? last, Subscriptions.received_of_current? lastOther]

/-- A command that compares a column with a number. -/
def comparison : Root :=
  some (.command { Header.named "where" with
    args := [.single (.function { Header.named ">" with
      args := [.single (.atom (.column (Column.named "a"))),
        .single (.atom (.literal (Literal.ofText .integer "1")))] })] })

/-- Callbacks that count, the one for columns set twice. -/
def countingTwice : Subscriptions Nat :=
  [(.column, fun _ count => count + 100), (.literal, fun _ count => count + 1),
    (.column, fun _ count => count * 2)]

/-- A callback for columns alone. -/
def namingColumns : Subscriptions (List String) :=
  [(.column, fun event names => names ++ [event.header.name])]

/-- The callback for columns that counts is called for the one column of the comparison, as it would
be alone. The one that was set first for columns is not called. -/
theorem received_comparison :
    (countingTwice.calls 5 comparison).map Prod.fst = [2, 1] ∧
      walkRoot countingTwice.callbacks.visitor comparison 5 = (11, .proceed) ∧
      countingTwice.received 5 comparison 2 = [.column (Column.named "a")] ∧
      countingTwice.received 5 comparison 2 = namingColumns.received [] comparison 0 := by
  obtain ⟨_, _, _, same⟩ := callbacks_called_in_order countingTwice 5 comparison
  refine ⟨rfl, rfl, rfl, ?_⟩
  exact same namingColumns [] .column _ _ rfl rfl

end EsqlTree
