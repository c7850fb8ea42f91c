import EsqlTree.Proofs.Walk.Positions
import EsqlTree.Proofs.Walk.Queries
import Mathlib.Data.List.Basic

/-!
# Nothing left out, nothing twice

A question that asks for all nodes of a sort is answered by a list in which each of them
stands once for every address at which the walk enters it, in pre-order. The search for a
function asks its predicate about the functions of such a list one after another, up to the
first that is accepted, and never twice about the function at one address.

Questions put to a predicate are observed through one that keeps a log beside the state of
another. It is a predicate like any, so what it logs is what the search itself asks.
-/

namespace EsqlTree

/-- The function that a node is, if it is one. -/
def Node.function? : Node → Option FunctionCall
  | .single (.function node) => some node
  | _ => none

/-- The placeholder that a node is, if it is a literal of that type. -/
def Node.param? : Node → Option Literal
  | .single (.atom (.literal node)) => if node.literalType = .param then some node else none
  | _ => none

/-- A function stands where the node is that function. Only the constructor of function calls gives
one, so the other kinds of node are all refuted at once. -/
theorem Node.function?_eq_some_iff (target : Node) (node : FunctionCall) :
    target.function? = some node ↔ target = .single (.function node) := by
  unfold function?
  split
  · simp
  · rename_i other
    simp only [reduceCtorEq, false_iff]
    exact fun same => other node same

/-- Of the events of a node its own command is picked. A command has one event, and the events of an
item are never those of a command. -/
theorem Node.filterMap_command?_ownEvents (node : Node) :
    node.ownEvents.filterMap Event.command? = node.command?.toList := by
  rcases node with command | (atom | _ | _ | _ | _) | nodes
  case single.atom => cases atom <;> rfl
  all_goals rfl

/-- Of the events of a node its own function is picked, and only once: the first event of the item
tells no kind, and the second is that of the function. -/
theorem Node.filterMap_function?_ownEvents (node : Node) :
    node.ownEvents.filterMap Event.function? = node.function?.toList := by
  rcases node with command | (atom | _ | _ | _ | _) | nodes
  case single.atom => cases atom <;> rfl
  all_goals rfl

/-- Of the events of a node its own placeholder is picked. Literals of other types have the same
events, so here the type decides and not the hook. -/
theorem Node.filterMap_param?_ownEvents (node : Node) :
    node.ownEvents.filterMap Event.param? = node.param?.toList := by
  rcases node with command | (atom | _ | _ | _ | _) | nodes
  case single.atom =>
    cases atom with
    | literal node =>
      by_cases placeholder : node.literalType = .param <;>
        simp [ownEvents, Item.event?, Atom.event?, List.filterMap_cons, Event.param?,
          Literal.isParam, param?, placeholder]
    | _ => rfl
  all_goals rfl

/-- True of a list that has every picked node of a tree exactly once and in pre-order: each
entry stands at an address of its own, the addresses ascend, and they are all the addresses
at which a node is picked. -/
def Root.Lists {α : Type} (root : Root) (pick? : Node → Option α) (found : List α) : Prop :=
  ∃ standing : List (Address × α), found = standing.map Prod.snd ∧
    (standing.map Prod.fst).Pairwise (· < ·) ∧
    ∀ address node, (address, node) ∈ standing ↔ (root.nodeAt? address).bind pick? = some node

/-- Picking from the events of a tree lists the picked nodes, if from the events of each node just
the node itself is picked. The list of standing nodes is made from the spots: their addresses
ascend, and a spot is in the tree exactly if its node stands at its address. -/
theorem Root.lists_filterMap_events {α : Type} {ofEvent? : Event → Option α}
    {ofNode? : Node → Option α}
    (own : ∀ node : Node, node.ownEvents.filterMap ofEvent? = (ofNode? node).toList)
    (root : Root) : root.Lists ofNode? (root.events.filterMap ofEvent?) := by
  let stand? (spot : Spot) : Option (Address × α) :=
    (ofNode? spot.node).map fun picked => (spot.address, picked)
  refine ⟨root.spots.filterMap stand?, ?_, ?_, ?_⟩
  · rw [root.events_eq_flatMap, List.filterMap_flatMap, List.map_filterMap]
    simp only [own, stand?, Option.map_map, Function.comp_def, Option.map_id']
    rw [List.filterMap_eq_flatMap_toList]
  · rw [List.pairwise_map, List.pairwise_filterMap]
    refine (List.pairwise_map.mp root.pairwise_spots).imp ?_
    intro left right before first standsLeft second standsRight
    obtain ⟨_, _, rfl⟩ := Option.map_eq_some_iff.mp standsLeft
    obtain ⟨_, _, rfl⟩ := Option.map_eq_some_iff.mp standsRight
    exact before
  · intro address node
    simp only [List.mem_filterMap, stand?, root.mem_spots_iff, Option.map_eq_some_iff,
      Prod.mk.injEq, Option.bind_eq_some_iff]
    constructor
    · rintro ⟨spot, stands, picked, pickedHere, rfl, rfl⟩
      exact ⟨spot.node, stands, pickedHere⟩
    · rintro ⟨target, stands, pickedHere⟩
      exact ⟨⟨address, target⟩, stands, node, pickedHere, rfl, rfl⟩

/-- A predicate on functions with a state of its own, which each question may change. -/
abbrev Predicate (π : Type) := FunctionCall → π → Bool × π

namespace Predicate

variable {π : Type}

/-- The state in which a predicate is left by questions about functions in order. -/
def after (accepts : Predicate π) (start : π) (asked : List FunctionCall) : π :=
  asked.foldl (fun state node => (accepts node state).2) start

/-- The same questions, each as its function and the state in which it is put. -/
def questions (accepts : Predicate π) (start : π) : List FunctionCall → List (FunctionCall × π)
  | [] => []
  | node :: others => (node, start) :: accepts.questions (accepts node start).2 others

/-- True where each of the questions is answered in the negative. -/
def Rejects (accepts : Predicate π) (start : π) (asked : List FunctionCall) : Prop :=
  ∀ question ∈ accepts.questions start asked, (accepts question.1 question.2).1 = false

/-- Answers as a predicate does, and logs each question that is put to it. -/
def logged (accepts : Predicate π) : Predicate (π × List (FunctionCall × π)) :=
  fun node (state, log) =>
    ((accepts node state).1, (accepts node state).2, log ++ [(node, state)])

@[simp] theorem rejects_nil (accepts : Predicate π) (start : π) : accepts.Rejects start [] := by
  simp [Rejects, questions]

@[simp] theorem rejects_cons (accepts : Predicate π) (start : π) (node : FunctionCall)
    (others : List FunctionCall) :
    accepts.Rejects start (node :: others) ↔
      (accepts node start).1 = false ∧ accepts.Rejects (accepts node start).2 others := by
  simp [Rejects, questions]

/-- A search finds nothing exactly if every function is rejected, each in the state that the
questions before it have left. -/
theorem firstAccepted_eq_none_iff (accepts : Predicate π) (nodes : List FunctionCall)
    (start : π) : (firstAccepted accepts start nodes).1 = none ↔ accepts.Rejects start nodes := by
  induction nodes generalizing start with
  | nil => simp [firstAccepted]
  | cons node others inOthers =>
    rcases outcome : accepts node start with ⟨accepted, next⟩
    cases accepted <;> simp [firstAccepted, outcome, inOthers]

/-- A search puts questions about a prefix of the functions. Either that is all of them and
each is rejected, or it ends with the first that is accepted, which is what is found.

The induction is on the functions: one that is accepted is the prefix, and one that is rejected
leaves the state in which the others are asked about. -/
theorem firstAccepted_prefix (accepts : Predicate π) (nodes : List FunctionCall) (start : π) :
    ∃ found asked rest, nodes = asked ++ rest ∧
      firstAccepted accepts start nodes = (found, accepts.after start asked) ∧
      (∀ log, firstAccepted accepts.logged (start, log) nodes =
        (found, accepts.after start asked, log ++ accepts.questions start asked)) ∧
      ((found = none ∧ rest = [] ∧ accepts.Rejects start asked) ∨
        ∃ before last, found = some last ∧ asked = before ++ [last] ∧
          accepts.Rejects start before ∧ (accepts last (accepts.after start before)).1 = true) := by
  induction nodes generalizing start with
  | nil =>
    refine ⟨none, [], [], rfl, rfl, ?_, .inl ⟨rfl, rfl, accepts.rejects_nil start⟩⟩
    intro log
    simp [firstAccepted, after, questions]
  | cons node others inOthers =>
    rcases outcome : accepts node start with ⟨accepted, next⟩
    cases accepted with
    | true =>
      refine ⟨some node, [node], others, rfl, ?_, ?_, .inr ⟨[], node, rfl, rfl, ?_, ?_⟩⟩
      · simp [firstAccepted, after, outcome]
      · intro log
        simp [firstAccepted, logged, after, questions, outcome]
      · exact accepts.rejects_nil start
      · simp [after, outcome]
    | false =>
      obtain ⟨found, asked, rest, split, searched, logs, ending⟩ := inOthers next
      refine ⟨found, node :: asked, rest, congrArg (node :: ·) split, ?_, ?_, ?_⟩
      · simpa [firstAccepted, after, outcome] using searched
      · intro log
        have noted := logs (log ++ [(node, start)])
        simpa [firstAccepted, logged, after, questions, outcome] using noted
      · rcases ending with ⟨none, whole, rejected⟩ | ⟨before, last, hit, cut, rejected, accepted⟩
        · exact .inl ⟨none, whole, by simp [outcome, rejected]⟩
        · refine .inr ⟨node :: before, last, hit, congrArg (node :: ·) cut, ?_, ?_⟩
          · simp [outcome, rejected]
          · simpa [after, outcome] using accepted

end Predicate

/-- Every function of which a walk notifies a callback, in the order of the calls. -/
def functionsCalledBack (root : Root) : List FunctionCall :=
  let callbacks : Callbacks (Array FunctionCall) :=
    Callbacks.empty.on .function fun event found =>
      match event with
      | .function node => found.push node
      | _ => found
  (walkRoot callbacks.visitor root #[]).1.toList

/-- A callback is notified of the functions of the tree. It is set for the hook of functions alone,
so every other event leaves what it has collected as it was. -/
theorem functionsCalledBack_eq (root : Root) : functionsCalledBack root = root.functions := by
  refine walkRoot_eq_collected (fun event found => ?_) root
  cases event <;>
    simp [Callbacks.visitor, Callbacks.on, Callbacks.onFallible, Callbacks.empty, Event.hook,
      Event.function?, Action.update, Action.skip]

/-- Each question about a tree is answered from the nodes that the walk enters, each of them
counting once for its address, in pre-order.

The commands and the placeholders are listed completely. A search for a function puts its
questions about a prefix of the complete list of functions, one each, every question in the state
that the one before left; the prefix ends with the first function that is accepted, which is
found, and nothing is found exactly if all functions are asked about and rejected. For a predicate
without a state this is the first match among the functions that a callback is notified of in a
full walk, and there is a function of a name exactly if one of that name stands at some
address. -/
theorem answers_in_preorder (root : Root) :
    root.Lists Node.command? (commands root) ∧
      root.Lists Node.param? (params root) ∧
      root.Lists Node.function? root.functions ∧
      (∀ {π : Type} (accepts : Predicate π) (start : π),
        ∃ found asked rest, root.functions = asked ++ rest ∧
          findFunctionWith accepts start root = (found, accepts.after start asked) ∧
          findFunctionWith accepts.logged (start, []) root =
            (found, accepts.after start asked, accepts.questions start asked) ∧
          ((found = none ∧ rest = [] ∧ accepts.Rejects start asked) ∨
            ∃ before last, found = some last ∧ asked = before ++ [last] ∧
              accepts.Rejects start before ∧
              (accepts last (accepts.after start before)).1 = true) ∧
          (found = none ↔ accepts.Rejects start root.functions)) ∧
      (∀ accepts : FunctionCall → Bool,
        findFunction accepts root = (functionsCalledBack root).find? accepts) ∧
      ∀ name, hasFunction name root = true ↔
        ∃ address node, root.nodeAt? address = some (.single (.function node)) ∧
          node.name = name := by
  have listed : root.Lists Node.function? root.functions :=
    root.lists_filterMap_events Node.filterMap_function?_ownEvents
  refine ⟨?_, ?_, listed, ?_, ?_, ?_⟩
  · rw [commands_eq_filterMap]
    exact root.lists_filterMap_events Node.filterMap_command?_ownEvents
  · rw [params_eq_filterMap]
    exact root.lists_filterMap_events Node.filterMap_param?_ownEvents
  · intro π accepts start
    obtain ⟨found, asked, rest, split, searched, logs, ending⟩ :=
      accepts.firstAccepted_prefix root.functions start
    have nothing := accepts.firstAccepted_eq_none_iff root.functions start
    rw [searched] at nothing
    refine ⟨found, asked, rest, split, ?_, ?_, ending, nothing⟩
    · rw [findFunctionWith_eq_firstAccepted, searched]
    · rw [findFunctionWith_eq_firstAccepted, logs [], List.nil_append]
  · intro accepts
    rw [findFunction_eq_find?, functionsCalledBack_eq]
  · intro name
    obtain ⟨standing, same, _, complete⟩ := listed
    simp only [hasFunction, findFunction_eq_find?, List.find?_isSome, beq_iff_eq, same,
      List.mem_map, Prod.exists, exists_eq_right, complete, Option.bind_eq_some_iff,
      Node.function?_eq_some_iff]
    constructor
    · rintro ⟨node, ⟨address, stands⟩, named⟩
      exact ⟨address, node, stands, named⟩
    · rintro ⟨address, node, stands, named⟩
      exact ⟨node, ⟨address, stands⟩, named⟩

end EsqlTree
