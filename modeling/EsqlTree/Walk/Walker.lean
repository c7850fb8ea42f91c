import EsqlTree.Text.Ascii
import EsqlTree.Walk.Event

/-!
# Walking a tree

A walk goes through a tree once, depth first and from left to right, and calls a
visitor for each event. A node is reported before what hangs below it. Sequences are
entered at any depth and reported nowhere. The walk goes below commands, functions,
options and lists; it does not go below a cast.

The arguments of a command are walked in order, unless a command walker is
registered under the command's name. A command walker is given the walk of each
argument and decides which of them run, in which order and how often. Names of
command walkers are compared up to the case of ASCII letters, and of two registered
under one name the later counts.
-/

namespace EsqlTree

variable {σ : Type}

/-- What to do about the arguments of a command, given the walk of each of them. -/
abbrev CommandWalker (σ : Type) := Command → List (Action σ) → Action σ

/-- A visitor, and the command walkers registered beside it. -/
structure Walker (σ : Type) where
  /-- What is called for each event. -/
  visitor : Visitor σ
  /-- Lower-case names and command walkers, the one registered last standing first. -/
  commandWalkers : List (String × CommandWalker σ) := []

/-- Reports an atom by its kind, if it has one. -/
def Visitor.walkAtom (visitor : Visitor σ) (node : Atom) : Action σ :=
  match node.event? with
  | some event => visitor event
  | none => .skip

mutual

/-- Reports a function, and walks its arguments. -/
def Visitor.walkFunction (visitor : Visitor σ) : FunctionCall → Action σ
  | ⟨header, form, args⟩ =>
    (visitor (.function ⟨header, form, args⟩)).andThen (visitor.walkSlots args)

/-- Reports an option, and walks its arguments. -/
def Visitor.walkOption (visitor : Visitor σ) : CommandOption → Action σ
  | ⟨header, args⟩ => (visitor (.option ⟨header, args⟩)).andThen (visitor.walkSlots args)

/-- Reports a list, and walks its values. -/
def Visitor.walkList (visitor : Visitor σ) : ListLiteral → Action σ
  | ⟨header, values⟩ => (visitor (.list ⟨header, values⟩)).andThen (visitor.walkSlots values)

/-- Reports an item, and then by its kind, with what hangs below it. -/
def Visitor.walkItem (visitor : Visitor σ) : Item → Action σ
  | .atom node => (visitor (.single (.atom node))).andThen (visitor.walkAtom node)
  | .function node => (visitor (.single (.function node))).andThen (visitor.walkFunction node)
  | .option node => (visitor (.single (.option node))).andThen (visitor.walkOption node)
  | .list node => (visitor (.single (.list node))).andThen (visitor.walkList node)
  | .inlineCast node =>
    (visitor (.single (.inlineCast node))).andThen (visitor (.inlineCast node))

/-- Walks a slot: its item, or each slot of its sequence. -/
def Visitor.walkSlot (visitor : Visitor σ) : Slot → Action σ
  | .single item => visitor.walkItem item
  | .seq slots => visitor.walkSlots slots

/-- Walks slots in order. -/
def Visitor.walkSlots (visitor : Visitor σ) : List Slot → Action σ
  | [] => .skip
  | slot :: others => (visitor.walkSlot slot).andThen (visitor.walkSlots others)

end

/-- Reports a mode, below which nothing hangs. -/
def Visitor.walkMode (visitor : Visitor σ) (node : CommandMode) : Action σ :=
  visitor (.mode node)

namespace Walker

/-- Registers a command walker under a name, in the place of an earlier one. -/
def register (walker : Walker σ) (name : String) (commandWalker : CommandWalker σ) : Walker σ :=
  { walker with
    commandWalkers := (Text.lower name, commandWalker) :: walker.commandWalkers }

/-- The command walker for commands of a name. -/
def commandWalker? (walker : Walker σ) (name : String) : Option (CommandWalker σ) :=
  (walker.commandWalkers.find? fun entry => entry.1 = Text.lower name).map Prod.snd

/-- The walk of a command's arguments, given the walk of each of them. -/
def arrange (walker : Walker σ) (node : Command) (argumentWalks : List (Action σ)) : Action σ :=
  match walker.commandWalker? node.name with
  | some commandWalker => commandWalker node argumentWalks
  | none => .all argumentWalks

mutual

/-- Reports a command, and walks its arguments as its command walker says. -/
def walkCommand (walker : Walker σ) : Command → Action σ
  | ⟨header, args⟩ =>
    (walker.visitor (.command ⟨header, args⟩)).andThen
      (walker.arrange ⟨header, args⟩ (walker.walks args))

/-- Walks a node: a command, an item, or each node of a sequence. -/
def walk (walker : Walker σ) : Node → Action σ
  | .command node => walker.walkCommand node
  | .single item => walker.visitor.walkItem item
  | .seq nodes => .all (walker.walks nodes)

/-- The walk of each of some nodes. -/
def walks (walker : Walker σ) : List Node → List (Action σ)
  | [] => []
  | node :: others => walker.walk node :: walker.walks others

end

/-- Walks nodes in order. -/
def walkAll (walker : Walker σ) (nodes : List Node) : Action σ := .all (walker.walks nodes)

/-- Walks the arguments of a command in order, whatever its name. -/
def walkArgs (walker : Walker σ) (node : Command) : Action σ := walker.walkAll node.args

/-- Walks a tree; an absent one has nothing to report. -/
def walkRoot (walker : Walker σ) : Root → Action σ
  | none => .skip
  | some node => walker.walk node

end Walker

namespace CommandWalker

/-- Leaves the arguments out. -/
def skipping : CommandWalker σ := fun _ _ => .skip

/-- Ends the walk at the command. -/
def stopping : CommandWalker σ := fun _ _ => .stop

/-- Walks the arguments in order, as is done without a command walker. -/
def inOrder : CommandWalker σ := fun _ argumentWalks => .all argumentWalks

/-- Walks the arguments in order twice. -/
def twice : CommandWalker σ := fun _ argumentWalks =>
  (Action.all argumentWalks).andThen (.all argumentWalks)

/-- Walks the arguments from the last to the first. -/
def reversed : CommandWalker σ := fun _ argumentWalks => .all argumentWalks.reverse

/-- Walks the first argument only. -/
def firstOnly : CommandWalker σ := fun _ argumentWalks => .all (argumentWalks.take 1)

end CommandWalker

/-- Walks a tree with a visitor and no command walkers. -/
def walkRoot (visitor : Visitor σ) (root : Root) : Action σ :=
  ({ visitor := visitor : Walker σ }).walkRoot root

end EsqlTree
