import EsqlTree.Proofs.Walk.CommandWalkers
import EsqlTree.Proofs.Walk.Notes

/-!
# Sequences make no difference

A sequence has no event of its own, so how nodes are bracketed makes no difference to a walk. To
open a nested sequence is to put its elements in its place, or nothing if it has none. Where
sequences alone lead to it, a walk after that makes the same calls on the same nodes. Further down
the nodes above it become other nodes, but nothing that a trace shows of them changes.

A walker keeps nothing of a walk but what the visitor makes of its own state. So trees may be
walked one after another or in one sequence, and a walk that was ended early leaves no trace in
the next.
-/

namespace EsqlTree

variable {σ : Type}

/-- One nested sequence to which sequences alone lead is opened. -/
inductive Node.Opens : Node → Node → Prop where
  | here (before inner after : List Node) :
      Node.Opens (.seq (before ++ .seq inner :: after)) (.seq (before ++ inner ++ after))
  | within (before : List Node) {old new : Node} (after : List Node) (opened : Node.Opens old new) :
      Node.Opens (.seq (before ++ old :: after)) (.seq (before ++ new :: after))

mutual

/-- One sequence among slots is opened, or one somewhere in a slot. -/
inductive Slot.OpensAmong : List Slot → List Slot → Prop where
  | here (before inner after : List Slot) :
      Slot.OpensAmong (before ++ .seq inner :: after) (before ++ inner ++ after)
  | within (before : List Slot) {old new : Slot} (after : List Slot)
      (opened : Slot.OpensAnywhere old new) :
      Slot.OpensAmong (before ++ old :: after) (before ++ new :: after)

/-- One nested sequence in a slot is opened. -/
inductive Slot.OpensAnywhere : Slot → Slot → Prop where
  | seq {old new : List Slot} (opened : Slot.OpensAmong old new) :
      Slot.OpensAnywhere (.seq old) (.seq new)
  | single {old new : Item} (opened : Item.OpensAnywhere old new) :
      Slot.OpensAnywhere (.single old) (.single new)

/-- One nested sequence is opened in the arguments or values of an item, at any depth. Operands
of casts are no exception, although no walk goes there. -/
inductive Item.OpensAnywhere : Item → Item → Prop where
  | function (header : Header) (form : Option CallForm) {old new : List Slot}
      (opened : Slot.OpensAmong old new) :
      Item.OpensAnywhere (.function ⟨header, form, old⟩) (.function ⟨header, form, new⟩)
  | option (header : Header) {old new : List Slot} (opened : Slot.OpensAmong old new) :
      Item.OpensAnywhere (.option ⟨header, old⟩) (.option ⟨header, new⟩)
  | list (header : Header) {old new : List Slot} (opened : Slot.OpensAmong old new) :
      Item.OpensAnywhere (.list ⟨header, old⟩) (.list ⟨header, new⟩)
  | inlineCast (header : Header) {old new : Slot} (castType : String)
      (opened : Slot.OpensAnywhere old new) :
      Item.OpensAnywhere (.inlineCast ⟨header, old, castType⟩) (.inlineCast ⟨header, new, castType⟩)

end

mutual

/-- One sequence among nodes is opened, or one somewhere in a node. -/
inductive Node.OpensAmong : List Node → List Node → Prop where
  | here (before inner after : List Node) :
      Node.OpensAmong (before ++ .seq inner :: after) (before ++ inner ++ after)
  | within (before : List Node) {old new : Node} (after : List Node)
      (opened : Node.OpensAnywhere old new) :
      Node.OpensAmong (before ++ old :: after) (before ++ new :: after)

/-- One nested sequence in a node is opened, at any depth. -/
inductive Node.OpensAnywhere : Node → Node → Prop where
  | seq {old new : List Node} (opened : Node.OpensAmong old new) :
      Node.OpensAnywhere (.seq old) (.seq new)
  | command (header : Header) {old new : List Node} (opened : Node.OpensAmong old new) :
      Node.OpensAnywhere (.command ⟨header, old⟩) (.command ⟨header, new⟩)
  | single {old new : Item} (opened : Item.OpensAnywhere old new) :
      Node.OpensAnywhere (.single old) (.single new)

end

namespace Walker

/-- Nodes are walked each on its own. The definition runs along the list for its termination, and
here it is a map. -/
theorem walks_eq_map (walker : Walker σ) (nodes : List Node) :
    walker.walks nodes = nodes.map walker.walk := by
  induction nodes with
  | nil => rfl
  | cons node others inOthers => rw [walks, inOthers, List.map_cons]

/-- A sequence is walked as its nodes are, one after another, and has nothing of its own. -/
theorem walk_seq (walker : Walker σ) (nodes : List Node) :
    walker.walk (.seq nodes) = .all (nodes.map walker.walk) := by
  rw [walk, walks_eq_map]

/-- Trees are walked one after another as the sequence of those that are not absent. An absent tree
is walked by doing nothing, so leaving it out changes nothing. -/
theorem walkRoot_seq (walker : Walker σ) (roots : List Root) :
    walker.walkRoot (some (.seq (roots.filterMap id))) = .all (roots.map walker.walkRoot) := by
  rw [walkRoot, walk_seq]
  induction roots with
  | nil => rfl
  | cons root others inOthers =>
    cases root with
    | none => simpa [Action.all, walkRoot] using inOthers
    | some node => simpa [Action.all, walkRoot] using congrArg (walker.walk node).andThen inOthers

/-- To open a sequence to which sequences alone lead changes nothing about a walk, whatever command
walkers there are. Doing one thing after another is associative, and no command stands above the
sequence. -/
theorem walk_eq_of_opens (walker : Walker σ) {old new : Node} (opened : old.Opens new) :
    walker.walk old = walker.walk new := by
  induction opened with
  | here before inner after =>
    simp only [walk_seq, List.map_append, List.map_cons, Action.all_append, Action.all,
      Action.andThen_assoc]
  | within before after _ inner =>
    simp only [walk_seq, List.map_append, List.map_cons, Action.all_append, Action.all, inner]

end Walker

/-- The events of slots are those of each, one after another. -/
theorem Slot.allEvents_eq_flatMap (slots : List Slot) :
    Slot.allEvents slots = slots.flatMap Slot.events := by
  induction slots with
  | nil => rfl
  | cons slot others inOthers => rw [allEvents, inOthers, List.flatMap_cons]

mutual

/-- To open a sequence among slots changes nothing that a trace shows of them. The events are the
same ones where it is opened, and show the same where one of the slots has changed below. -/
theorem Slot.OpensAmong.notes_eq {old new : List Slot} : Slot.OpensAmong old new →
    (Slot.allEvents old).map Event.note = (Slot.allEvents new).map Event.note
  | .here before inner after => by
    simp only [Slot.allEvents_eq_flatMap, List.flatMap_append, List.flatMap_cons, Slot.events,
      List.append_assoc]
  | .within before after opened => by
    simp only [Slot.allEvents_eq_flatMap, List.flatMap_append, List.flatMap_cons, List.map_append,
      opened.notes_eq]

/-- To open a sequence in a slot changes nothing that a trace shows of it, be it a sequence or a
single item. -/
theorem Slot.OpensAnywhere.notes_eq {old new : Slot} : old.OpensAnywhere new →
    old.events.map Event.note = new.events.map Event.note
  | .seq opened => opened.notes_eq
  | .single opened => opened.notes_eq

/-- To open a sequence in an item changes nothing that a trace shows of it. The item has become
another one, but its header has not, and no event comes from the operand of a cast. -/
theorem Item.OpensAnywhere.notes_eq {old new : Item} : old.OpensAnywhere new →
    old.events.map Event.note = new.events.map Event.note
  | .function header form opened => by
    simp only [Item.events, FunctionCall.events, List.map_cons, opened.notes_eq]
    rfl
  | .option header opened => by
    simp only [Item.events, CommandOption.events, List.map_cons, opened.notes_eq]
    rfl
  | .list header opened => by
    simp only [Item.events, ListLiteral.events, List.map_cons, opened.notes_eq]
    rfl
  | .inlineCast _ _ _ => rfl

end

/-- True where whether the arguments of a command are left out does not hang on the arguments. -/
def GoesByHeader (leaves : Command → Bool) : Prop :=
  ∀ header old new, leaves ⟨header, old⟩ = leaves ⟨header, new⟩

mutual

/-- To open a sequence among nodes changes nothing that a trace shows of them. A sequence hides
nothing, so the events outside of it are those of its elements. -/
theorem Node.OpensAmong.notes_eq {leaves : Command → Bool} (byHeader : GoesByHeader leaves)
    {old new : List Node} : Node.OpensAmong old new →
    (old.flatMap (Node.eventsOutside leaves)).map Event.note =
      (new.flatMap (Node.eventsOutside leaves)).map Event.note
  | .here before inner after => by
    have opened : (Node.seq inner).eventsOutside leaves =
        inner.flatMap (Node.eventsOutside leaves) := by
      rw [Node.eventsOutside_eq]
      rfl
    simp only [List.flatMap_append, List.flatMap_cons, opened, List.append_assoc]
  | .within before after opened => by
    simp only [List.flatMap_append, List.flatMap_cons, List.map_append, opened.notes_eq byHeader]

/-- To open a sequence in a node changes nothing that a trace shows of it. The arguments of a
command are left out before if and only if they are after, as its header decides. -/
theorem Node.OpensAnywhere.notes_eq {leaves : Command → Bool} (byHeader : GoesByHeader leaves)
    {old new : Node} : old.OpensAnywhere new →
    (old.eventsOutside leaves).map Event.note = (new.eventsOutside leaves).map Event.note
  | .seq opened => by
    rw [Node.eventsOutside_eq, Node.eventsOutside_eq]
    exact opened.notes_eq byHeader
  | @Node.OpensAnywhere.command header old new opened => by
    have below := opened.notes_eq byHeader
    have same := byHeader header old new
    rw [Node.eventsOutside_eq, Node.eventsOutside_eq, List.map_append, List.map_append]
    congr 1
    cases left : leaves ⟨header, new⟩ with
    | true => simp [Node.command?, same, left]
    | false => simpa [Node.command?, Node.children, same, left] using below
  | .single opened => by
    rw [Node.eventsOutside_single, Node.eventsOutside_single]
    exact opened.notes_eq

end

/-- True of registrations by which arguments are walked in order or left out, and no walk is
ended. -/
def Proceeding (registrations : List (String × Manner)) : Prop :=
  ∀ entry ∈ registrations, entry.2 = .inOrder ∨ entry.2 = .skipping

/-- No command is one at which the walk is to end, if none is registered as such: its manner is one
of those registered, or in order. -/
theorem mannerOf_ne_stopping {registrations : List (String × Manner)}
    (proceeding : Proceeding registrations) (node : Command) :
    mannerOf registrations node ≠ .stopping := by
  rw [mannerOf, List.findRev?_eq_find?_reverse]
  split
  · rename_i name manner found
    have member : (name, manner) ∈ registrations :=
      List.mem_reverse.mp (List.mem_of_find?_eq_some found)
    rcases proceeding _ member with rfl | rfl <;> simp
  · simp

/-- A walk that no command walker ends plays the events outside of what is left out, and these alone
decide how it ends. -/
theorem Walker.walkRoot_ofManners_of_proceeding {registrations : List (String × Manner)}
    (proceeding : Proceeding registrations) (visitor : Visitor σ) (root : Root) :
    (ofManners visitor registrations).walkRoot root =
      visitor.play (root.eventsOutside (leavesOut registrations)) := by
  rw [walkRoot_ofManners_eq_play]
  refine Visitor.play_endingAt_of_none fun event _ => ?_
  simp [endsAt, mannerOf_ne_stopping proceeding]

/-- The trace of a walk beside command walkers. -/
def traceBeside (registrations : List (String × Manner)) (root : Root) : List Event :=
  ((Walker.ofManners recorder registrations).walkRoot root #[]).1.toList

/-- A trace beside command walkers lists the events outside of what they leave out. The visitor only
collects, and never ends the walk. -/
theorem traceBeside_eq {registrations : List (String × Manner)}
    (proceeding : Proceeding registrations) (root : Root) :
    traceBeside registrations root = root.eventsOutside (leavesOut registrations) := by
  rw [traceBeside, Walker.walkRoot_ofManners_of_proceeding proceeding,
    Visitor.play_eq_collected recorder_eq]
  simp

/-- Walks trees one after another with one walker, each on the state that the one before left,
whether or not that walk was ended early; says how each of them ended. -/
def Walker.walkInTurn (walker : Walker σ) : List Root → σ → σ × List Flow
  | [], state => (state, [])
  | root :: others, state =>
    let (next, flow) := walker.walkRoot root state
    let (last, flows) := walker.walkInTurn others next
    (last, flow :: flows)

/-- What was logged before has no part in what is logged of a walk. The walk with an empty log and
the one with any other make the same calls and end alike. -/
theorem Walker.walkRoot_logged {registrations : List (String × Manner)}
    (proceeding : Proceeding registrations) (visitor : Visitor σ) (root : Root) (start : σ) :
    ∃ last calls flow, (ofManners visitor registrations).walkRoot root start = (last, flow) ∧
      ∀ log, (ofManners visitor.logged registrations).walkRoot root (start, log) =
        ((last, log ++ calls), flow) := by
  obtain ⟨called, _, flow, _, played, logs, _⟩ :=
    visitor.play_prefix (root.eventsOutside (leavesOut registrations)) start
  refine ⟨visitor.after start called, visitor.calls start called, flow, ?_, ?_⟩
  · rw [walkRoot_ofManners_of_proceeding proceeding, played]
  · intro log
    rw [walkRoot_ofManners_of_proceeding proceeding, logs]

/-- How trees are put into sequences makes no difference to a walk, whatever visitor it calls; one
that logs its calls is among them. Command walkers may walk arguments in order or leave them out.

Trees that are walked one after another, up to the first walk that ends early, are walked as the
sequence of them. To open a sequence to which sequences alone lead changes nothing about a walk. To
open one anywhere in the tree changes nothing that a trace shows. And if a walk ended early, the
next one with the same walker makes the calls, and ends in the state and the way, of a walk with a
new walker in the state that was left.

Proof: a sequence is walked as the actions of its elements in turn, and actions in turn are
associative. A walk that logs its calls appends to the log that it is given and never reads it. -/
theorem walks_of_sequences (visitor : Visitor σ) (registrations : List (String × Manner))
    (proceeding : Proceeding registrations) :
    (∀ roots : List Root,
        (Walker.ofManners visitor registrations).walkRoot (some (.seq (roots.filterMap id))) =
          .all (roots.map (Walker.ofManners visitor registrations).walkRoot)) ∧
      (∀ old new : Node, old.Opens new →
        (Walker.ofManners visitor registrations).walk old =
          (Walker.ofManners visitor registrations).walk new) ∧
      (∀ old new : Node, old.OpensAnywhere new →
        (traceBeside registrations (some old)).map Event.note =
          (traceBeside registrations (some new)).map Event.note) ∧
      ∀ (earlier next : Root) (start state : σ) (log : List (Event × σ)),
        (Walker.ofManners visitor.logged registrations).walkRoot earlier (start, []) =
          ((state, log), .halt) →
        ∃ last calls flow,
          (Walker.ofManners visitor registrations).walkRoot next state = (last, flow) ∧
          (Walker.ofManners visitor.logged registrations).walkRoot next (state, []) =
            ((last, calls), flow) ∧
          (Walker.ofManners visitor.logged registrations).walkInTurn [earlier, next] (start, []) =
            ((last, log ++ calls), [.halt, flow]) := by
  refine ⟨Walker.walkRoot_seq _, fun old new => Walker.walk_eq_of_opens _, ?_, ?_⟩
  · intro old new opened
    rw [traceBeside_eq proceeding, traceBeside_eq proceeding]
    exact opened.notes_eq fun _ _ _ => rfl
  · intro earlier next start state log ended
    obtain ⟨last, calls, flow, walked, logs⟩ :=
      Walker.walkRoot_logged proceeding visitor next state
    refine ⟨last, calls, flow, walked, logs [], ?_⟩
    simp [Walker.walkInTurn, ended, logs]

/-- A fork as in `forked`, in which no sequence is nested. -/
def unbracketed : Command :=
  { Header.named "fork" with
    args := [.command dropped, .single (.atom (.column (Column.named "a"))), .command limited] }

/-- The arguments of one command are left out, those of another are walked in order. -/
def dropping : List (String × Manner) := [("drop", .skipping), ("fork", .inOrder)]

/-- Counts events, and ends the walk at the third. -/
def countingToThree : Visitor Nat := fun _ count =>
  (count + 1, if count = 2 then .halt else .proceed)

/-- A fork is walked alike in one sequence and in two, shows the same with its own sequence opened,
and leaves a walker on which the walk of a column goes on as on a new one. -/
theorem walks_bracketed :
    Proceeding dropping ∧
      (Walker.ofManners countingToThree dropping).walkRoot
          (some (.seq [.command forked, .seq []])) 0 =
        Action.all ([some (.command forked), none, some (.seq [])].map
          (Walker.ofManners countingToThree dropping).walkRoot) 0 ∧
      (Walker.ofManners countingToThree dropping).walk (.seq [.seq [.command forked], .seq []]) 0 =
        (3, .halt) ∧
      (traceBeside dropping (some (.command forked))).map Event.note =
        [⟨.command, "command", "fork", {}⟩, ⟨.command, "command", "Drop", {}⟩,
          ⟨.single, "column", "a", {}⟩, ⟨.column, "column", "a", {}⟩,
          ⟨.command, "command", "LIMIT", {}⟩, ⟨.single, "column", "b", {}⟩,
          ⟨.column, "column", "b", {}⟩] ∧
      ∃ log, (Walker.ofManners countingToThree.logged dropping).walkInTurn
          [some (.command forked), some (.single (.atom (.column (Column.named "c"))))] (0, []) =
        ((5, log), [.halt, .proceed]) := by
  have proceeding : Proceeding dropping := by simp [Proceeding, dropping]
  obtain ⟨inTurn, opened, shown, next⟩ := walks_of_sequences countingToThree dropping proceeding
  refine ⟨proceeding, ?_, ?_, ?_, ?_⟩
  · exact congrFun (inTurn [some (.command forked), none, some (.seq [])]) 0
  · have spread := opened _ _ (.here [] [.command forked] [.seq []])
    exact (congrFun spread 0).trans rfl
  · have among : Node.OpensAnywhere (.command forked) (.command unbracketed) :=
      .command _ (.here [.command dropped, .single (.atom (.column (Column.named "a")))]
        [.command limited] [])
    exact (shown _ _ among).trans rfl
  · obtain ⟨last, calls, flow, walked, _, both⟩ :=
      next (some (.command forked)) (some (.single (.atom (.column (Column.named "c"))))) 0 3 _ rfl
    obtain ⟨rfl, rfl⟩ := Prod.mk.inj (walked.symm.trans rfl : (last, flow) = (5, .proceed))
    exact ⟨_, both⟩

end EsqlTree
