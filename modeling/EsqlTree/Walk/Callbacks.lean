import EsqlTree.Walk.Walker

/-!
# Walking with callbacks

Where only some events matter, a callback is set for each of their hooks; the other
events do nothing. A callback that is set again replaces the earlier one. Callbacks
have no say in whether the walk goes on: it ends early only if one fails.
-/

namespace EsqlTree

variable {σ : Type}

/-- The callbacks that are set, by hook. A callback that halts has failed. -/
structure Callbacks (σ : Type) where
  /-- The callback of a hook, if one is set. -/
  callback? : Hook → Option (Visitor σ) := fun _ => none

namespace Callbacks

/-- No callbacks. -/
def empty : Callbacks σ := {}

/-- Sets a callback that may fail. -/
def onFallible (callbacks : Callbacks σ) (hook : Hook) (callback : Visitor σ) : Callbacks σ where
  callback? := fun other => if other = hook then some callback else callbacks.callback? other

/-- Sets a callback. -/
def on (callbacks : Callbacks σ) (hook : Hook) (callback : Event → σ → σ) : Callbacks σ :=
  callbacks.onFallible hook fun event => .update (callback event)

/-- The hooks that have a callback. -/
def hooks (callbacks : Callbacks σ) : List Hook :=
  Hook.all.filter fun hook => (callbacks.callback? hook).isSome

/-- The text that shows which hooks have a callback. -/
def describe (callbacks : Callbacks σ) : String :=
  "[" ++ String.intercalate ", " (callbacks.hooks.map fun hook => "\"" ++ hook.name ++ "\"") ++ "]"

/-- Calls the callback of an event's hook, if it has one. -/
def visitor (callbacks : Callbacks σ) : Visitor σ := fun event =>
  match callbacks.callback? event.hook with
  | some callback => callback event
  | none => .skip

end Callbacks

end EsqlTree
