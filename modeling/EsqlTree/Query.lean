import EsqlTree.Walk.Callbacks

/-!
# Questions about a tree

Each question is answered by one walk. What a walk does not reach does not count:
neither what hangs below a cast nor anything of an inert item.
-/

namespace EsqlTree

/-- Every command, in the order of the walk. -/
def commands (root : Root) : List Command :=
  let callbacks : Callbacks (Array Command) :=
    Callbacks.empty.on .command fun event found =>
      match event with
      | .command node => found.push node
      | _ => found
  (walkRoot callbacks.visitor root #[]).1.toList

/-- Every placeholder, in the order of the walk. -/
def params (root : Root) : List Literal :=
  let callbacks : Callbacks (Array Literal) :=
    Callbacks.empty.on .literal fun event found =>
      match event with
      | .literal node => if node.isParam then found.push node else found
      | _ => found
  (walkRoot callbacks.visitor root #[]).1.toList

/-- The visitor that asks a predicate about each function until it accepts one, and
ends the walk there. The predicate has a state of its own. -/
def functionFinder {π : Type} (accepts : FunctionCall → π → Bool × π) :
    Visitor (π × Option FunctionCall) := fun event state =>
  match event with
  | .function node =>
    match accepts node state.1 with
    | (true, asked) => ((asked, some node), .halt)
    | (false, asked) => ((asked, state.2), .proceed)
  | _ => (state, .proceed)

/-- The first function that a predicate accepts, and the state in which the predicate
is left. -/
def findFunctionWith {π : Type} (accepts : FunctionCall → π → Bool × π) (start : π)
    (root : Root) : Option FunctionCall × π :=
  let state := (walkRoot (functionFinder accepts) root (start, none)).1
  (state.2, state.1)

/-- The first function that a predicate accepts. -/
def findFunction (accepts : FunctionCall → Bool) (root : Root) : Option FunctionCall :=
  (findFunctionWith (fun node (_ : Unit) => (accepts node, ())) () root).1

/-- Whether there is a function of exactly this name. -/
def hasFunction (name : String) (root : Root) : Bool :=
  (findFunction (fun node => node.name == name) root).isSome

end EsqlTree
