import EsqlTree.Proofs.Walk.Listing
import EsqlTree.Proofs.Walk.Notes

/-!
# What a cast holds does not show

A walk reports a cast and goes no further. Trees that differ in nothing but the operands of their
casts are therefore reported alike, and every question about them has the same answer. That two
trees differ in nothing else is said by taking the operands out of all casts: what is left of the
one is what is left of the other.

Casts are not alone in this. Below the kinds of leaves, and below items that have no kind, nothing
is reported either.
-/

namespace EsqlTree

/-- A cast with nothing in the place of its operand. -/
def InlineCast.withoutOperands (node : InlineCast) : InlineCast := { node with value := .seq [] }

mutual

/-- A function with the operands taken out of all casts below it. -/
def FunctionCall.withoutOperands : FunctionCall → FunctionCall
  | ⟨header, form, args⟩ => ⟨header, form, Slot.eachWithoutOperands args⟩

/-- An option with the operands taken out of all casts below it. -/
def CommandOption.withoutOperands : CommandOption → CommandOption
  | ⟨header, args⟩ => ⟨header, Slot.eachWithoutOperands args⟩

/-- A list with the operands taken out of all casts below it. -/
def ListLiteral.withoutOperands : ListLiteral → ListLiteral
  | ⟨header, values⟩ => ⟨header, Slot.eachWithoutOperands values⟩

/-- An item with the operands taken out of all casts. -/
def Item.withoutOperands : Item → Item
  | .atom node => .atom node
  | .function node => .function node.withoutOperands
  | .option node => .option node.withoutOperands
  | .list node => .list node.withoutOperands
  | .inlineCast node => .inlineCast node.withoutOperands

/-- A slot with the operands taken out of all casts. -/
def Slot.withoutOperands : Slot → Slot
  | .single item => .single item.withoutOperands
  | .seq slots => .seq (Slot.eachWithoutOperands slots)

/-- Slots with the operands taken out of all casts, one by one. -/
def Slot.eachWithoutOperands : List Slot → List Slot
  | [] => []
  | slot :: others => slot.withoutOperands :: Slot.eachWithoutOperands others

end

mutual

/-- A command with the operands taken out of all casts below it. -/
def Command.withoutOperands : Command → Command
  | ⟨header, args⟩ => ⟨header, Node.eachWithoutOperands args⟩

/-- A node with the operands taken out of all casts. -/
def Node.withoutOperands : Node → Node
  | .command node => .command node.withoutOperands
  | .single item => .single item.withoutOperands
  | .seq nodes => .seq (Node.eachWithoutOperands nodes)

/-- Nodes with the operands taken out of all casts, one by one. -/
def Node.eachWithoutOperands : List Node → List Node
  | [] => []
  | node :: others => node.withoutOperands :: Node.eachWithoutOperands others

end

/-- A tree with the operands taken out of all casts. -/
def Root.withoutOperands (root : Root) : Root := root.map Node.withoutOperands

@[simp] theorem FunctionCall.toHeader_withoutOperands (node : FunctionCall) :
    node.withoutOperands.toHeader = node.toHeader := by
  cases node
  rfl

@[simp] theorem CommandOption.toHeader_withoutOperands (node : CommandOption) :
    node.withoutOperands.toHeader = node.toHeader := by
  cases node
  rfl

@[simp] theorem ListLiteral.toHeader_withoutOperands (node : ListLiteral) :
    node.withoutOperands.toHeader = node.toHeader := by
  cases node
  rfl

@[simp] theorem Command.toHeader_withoutOperands (node : Command) :
    node.withoutOperands.toHeader = node.toHeader := by
  cases node
  rfl

/-- An event of the same node without operands. -/
def Event.withoutOperands : Event → Event
  | .command node => .command node.withoutOperands
  | .option node => .option node.withoutOperands
  | .single item => .single item.withoutOperands
  | .function node => .function node.withoutOperands
  | .list node => .list node.withoutOperands
  | .inlineCast node => .inlineCast node.withoutOperands
  | event => event

mutual

/-- The events of an item do not depend on operands but for the nodes that they show. Its slots have
theirs by the laws below, and a cast has no event from its operand that could be missed. -/
theorem Item.events_withoutOperands : (item : Item) →
    item.withoutOperands.events = item.events.map Event.withoutOperands
  | .atom node => by cases node <;> rfl
  | .function ⟨header, form, args⟩ => by
    have below := Slot.allEvents_withoutOperands args
    simp only [Item.withoutOperands, FunctionCall.withoutOperands, Item.events,
      FunctionCall.events, below, List.map_cons, Event.withoutOperands]
  | .option ⟨header, args⟩ => by
    have below := Slot.allEvents_withoutOperands args
    simp only [Item.withoutOperands, CommandOption.withoutOperands, Item.events,
      CommandOption.events, below, List.map_cons, Event.withoutOperands]
  | .list ⟨header, values⟩ => by
    have below := Slot.allEvents_withoutOperands values
    simp only [Item.withoutOperands, ListLiteral.withoutOperands, Item.events, ListLiteral.events,
      below, List.map_cons, Event.withoutOperands]
  -- Here the operand is lost, and there was no event below it.
  | .inlineCast _ => rfl

/-- The events of a slot do not depend on operands but for the nodes that they show, be it a single
item or a sequence. -/
theorem Slot.events_withoutOperands : (slot : Slot) →
    slot.withoutOperands.events = slot.events.map Event.withoutOperands
  | .single item => Item.events_withoutOperands item
  | .seq slots => Slot.allEvents_withoutOperands slots

/-- The events of slots do not depend on operands but for the nodes that they show, since those of
each do not. -/
theorem Slot.allEvents_withoutOperands : (slots : List Slot) →
    Slot.allEvents (Slot.eachWithoutOperands slots) =
      (Slot.allEvents slots).map Event.withoutOperands
  | [] => rfl
  | slot :: others => by
    rw [Slot.eachWithoutOperands, Slot.allEvents, Slot.allEvents, List.map_append,
      Slot.events_withoutOperands slot, Slot.allEvents_withoutOperands others]

end

mutual

/-- The events of a node do not depend on operands but for the nodes that they show. The event of a
command shows its arguments without operands, and the rest is below it. -/
theorem Node.events_withoutOperands : (node : Node) →
    node.withoutOperands.events = node.events.map Event.withoutOperands
  | .command ⟨header, args⟩ => by
    have below := Node.allEvents_withoutOperands args
    simp only [Node.withoutOperands, Command.withoutOperands, Node.events, Command.events, below,
      List.map_cons, Event.withoutOperands]
  | .single item => item.events_withoutOperands
  | .seq nodes => Node.allEvents_withoutOperands nodes

/-- The events of nodes do not depend on operands but for the nodes that they show, since those of
each do not. -/
theorem Node.allEvents_withoutOperands : (nodes : List Node) →
    Node.allEvents (Node.eachWithoutOperands nodes) =
      (Node.allEvents nodes).map Event.withoutOperands
  | [] => rfl
  | node :: others => by
    rw [Node.eachWithoutOperands, Node.allEvents, Node.allEvents, List.map_append,
      Node.events_withoutOperands node, Node.allEvents_withoutOperands others]

end

/-- The events of a tree do not depend on operands but for the nodes that they show. This is the law
of its node, or says nothing of a tree that is absent. -/
theorem Root.events_withoutOperands (root : Root) :
    root.withoutOperands.events = root.events.map Event.withoutOperands := by
  cases root with
  | none => rfl
  | some node => exact node.events_withoutOperands

/-- An event without operands has the header that it has with them, as operands hang below a node
and not in its header. -/
theorem Event.header_withoutOperands (event : Event) :
    event.withoutOperands.header = event.header := by
  cases event with
  | single item =>
    cases item with
    | inlineCast node => rfl
    | _ => simp [withoutOperands, Item.withoutOperands, header, Item.header]
  | _ => simp [withoutOperands, header, InlineCast.withoutOperands]

/-- A trace shows nothing of operands: hook and tag are told by the constructors, name and location
by the header. -/
theorem Event.note_withoutOperands (event : Event) : event.withoutOperands.note = event.note := by
  have unchanged : event.withoutOperands.hook = event.hook ∧
      event.withoutOperands.tag = event.tag := by
    cases event with
    | single item => cases item <;> exact ⟨rfl, rfl⟩
    | _ => exact ⟨rfl, rfl⟩
  rw [note, unchanged.1, unchanged.2, event.header_withoutOperands, note]

/-- Where a question picks nodes from events, the nodes without operands are picked from the events
without operands. Each of the questions below needs only to be checked event by event. -/
theorem Root.filterMap_events_withoutOperands {α : Type} {pick? : Event → Option α} {change : α → α}
    (commutes : ∀ event : Event, pick? event.withoutOperands = (pick? event).map change)
    (root : Root) :
    root.withoutOperands.events.filterMap pick? = (root.events.filterMap pick?).map change := by
  rw [root.events_withoutOperands, List.filterMap_map, List.map_filterMap]
  apply List.filterMap_congr
  intro event _
  exact commutes event

/-- The commands of a tree without operands are those of the tree, without operands. A cast can hold
no command that the question would find. -/
theorem commands_withoutOperands (root : Root) :
    commands root.withoutOperands = (commands root).map Command.withoutOperands := by
  rw [commands_eq_filterMap, commands_eq_filterMap]
  apply root.filterMap_events_withoutOperands
  intro event
  cases event <;> rfl

/-- The placeholders of a tree without operands are those of the tree. A literal has no operand
below it, so it is picked unchanged. -/
theorem params_withoutOperands (root : Root) : params root.withoutOperands = params root := by
  rw [params_eq_filterMap, params_eq_filterMap, ← List.map_id (root.events.filterMap Event.param?)]
  apply root.filterMap_events_withoutOperands
  intro event
  cases event <;> simp [Event.withoutOperands, Event.param?]

/-- The functions of a tree without operands are those of the tree, without operands. So a function
in an operand is not among them either way. -/
theorem Root.functions_withoutOperands (root : Root) :
    root.withoutOperands.functions = root.functions.map FunctionCall.withoutOperands := by
  apply root.filterMap_events_withoutOperands
  intro event
  cases event <;> rfl

/-- There is a function of a name exactly if one of the functions that are reported has it. So the
headers of these functions decide, and the search needs not be followed. -/
theorem hasFunction_eq_any (name : String) (root : Root) :
    hasFunction name root = (root.functions.map FunctionCall.toHeader).any (·.name == name) := by
  rw [hasFunction, findFunction_eq_find?, List.any_map, ← List.isSome_find?]
  rfl

/-- The item of which an event is, if it is not of a command. -/
def Event.item? : Event → Option Item
  | .command _ => none
  | .option node => some (.option node)
  | .mode node => some (.atom (.mode node))
  | .single item => some item
  | .source node => some (.atom (.source node))
  | .function node => some (.function node)
  | .column node => some (.atom (.column node))
  | .literal node => some (.atom (.literal node))
  | .list node => some (.list node)
  | .timeInterval node => some (.atom (.timeInterval node))
  | .inlineCast node => some (.inlineCast node)
  | .unclassified node => some (.atom (.unclassified node))

/-- The events of a leaf, or of an item that has no kind, are its own: one for all items, and one by
its kind if it has one. Functions, options and lists are refuted, as their kinds are not of leaves.
-/
theorem Item.events_of_leaf {item : Item} (leaf : ∀ kind ∈ item.kind?, kind.isLeaf = true) :
    item.events.map Event.hook = .single :: (item.kind?.map Kind.hook).toList ∧
      ∀ event ∈ item.events, event.item? = some item := by
  cases item with
  | atom node => cases node <;> simp [events, Atom.events, Atom.event?, Event.hook, kind?,
      Atom.kind?, Kind.hook, Event.item?]
  | function node => exact absurd (leaf .function rfl) (by decide)
  | option node => exact absurd (leaf .option rfl) (by decide)
  | list node => exact absurd (leaf .list rfl) (by decide)
  | inlineCast node => simp [events, Event.hook, kind?, Kind.hook, Event.item?]

/-- Operands of casts are invisible to walks. Two trees that differ in operands alone are traced
alike; their commands, their placeholders and the functions that a full walk calls back are the same
one by one, but for the operands somewhere below; and for every name either both or neither have a
function of it.

A walk of a leaf, or of an item that has no kind, calls its visitor for that item alone: by the hook
for all items, and then by that of its kind if it has one. This is so whatever the visitor does and
whatever command walkers there are.

Proof: no event holds anything of an operand but in the node that it reports, and the note of an
event leaves that out. Both trees are compared with the tree in which all operands are taken out,
which is one for the two. -/
theorem operands_invisible (old new : Root) (same : old.withoutOperands = new.withoutOperands) :
    (trace old).map Event.note = (trace new).map Event.note ∧
      (commands old).map Command.toHeader = (commands new).map Command.toHeader ∧
      params old = params new ∧
      (functionsCalledBack old).map FunctionCall.toHeader =
        (functionsCalledBack new).map FunctionCall.toHeader ∧
      (∀ name, hasFunction name old = hasFunction name new) ∧
      ∀ {σ : Type} (walker : Walker σ) (item : Item),
        (∀ kind ∈ item.kind?, kind.isLeaf = true) →
          ∃ events, walker.walk (.single item) = walker.visitor.play events ∧
            walker.visitor.walkSlot (.single item) = walker.visitor.play events ∧
            events.map Event.hook = .single :: (item.kind?.map Kind.hook).toList ∧
            ∀ event ∈ events, event.item? = some item := by
  have traced (root : Root) :
      (trace root).map Event.note = (trace root.withoutOperands).map Event.note := by
    simp only [trace_eq_events, root.events_withoutOperands, List.map_map, Function.comp_def,
      Event.note_withoutOperands]
  have headed (root : Root) : (commands root).map Command.toHeader =
      (commands root.withoutOperands).map Command.toHeader := by
    simp only [commands_withoutOperands, List.map_map, Function.comp_def,
      Command.toHeader_withoutOperands]
  have called (root : Root) : root.functions.map FunctionCall.toHeader =
      root.withoutOperands.functions.map FunctionCall.toHeader := by
    simp only [root.functions_withoutOperands, List.map_map, Function.comp_def,
      FunctionCall.toHeader_withoutOperands]
  refine ⟨?_, ?_, ?_, ?_, ?_, ?_⟩
  · rw [traced old, same, ← traced new]
  · rw [headed old, same, ← headed new]
  · rw [← params_withoutOperands old, same, params_withoutOperands new]
  · rw [functionsCalledBack_eq, functionsCalledBack_eq, called old, same, ← called new]
  · intro name
    rw [hasFunction_eq_any, hasFunction_eq_any, called old, same, ← called new]
  · intro σ walker item leaf
    refine ⟨item.events, ?_, ?_, item.events_of_leaf leaf⟩
    · rw [Walker.walk, Visitor.walkItem_eq_play]
    · rw [Visitor.walkSlot, Visitor.walkItem_eq_play]

/-- A command with a cast and, in the argument of a function, another cast. -/
def castingRow (outer inner : Slot) : Command :=
  Command.named "row"
    [.single (.inlineCast (InlineCast.named "a::long" outer "long")),
      .single (.function (FunctionCall.named "abs"
        [.single (.inlineCast (InlineCast.named "b::int" inner "int"))]))]

/-- A column. -/
def plainOperand : Slot := .single (.atom (.column (Column.named "a")))

/-- A function of a placeholder, and a cast of a column. -/
def crowdedOperand : Slot :=
  .seq [.single (.function (FunctionCall.named "f"
      [.single (.atom (.literal (Literal.param "?p")))])),
    .single (.inlineCast (InlineCast.named "c::ip" plainOperand "ip"))]

/-- Two rows that cast different operands are traced alike, and in neither of them is the function
or the placeholder of an operand found, although the operand as a tree of its own has it. A cast of
the crowded operand is walked as itself. -/
theorem operands_invisible_castingRow :
    (trace (some (.command (castingRow plainOperand crowdedOperand)))).map Event.note =
        (trace (some (.command (castingRow crowdedOperand plainOperand)))).map Event.note ∧
      params (some (.command (castingRow plainOperand crowdedOperand))) =
        params (some (.command (castingRow crowdedOperand plainOperand))) ∧
      hasFunction "f" (some (.command (castingRow plainOperand crowdedOperand))) =
        hasFunction "f" (some (.command (castingRow crowdedOperand plainOperand))) ∧
      hasFunction "f" (some (crowdedOperand.toNode)) = true ∧
      ∃ events, ({ visitor := recorder : Walker (Array Event) }).walk
          (.single (.inlineCast (InlineCast.named "d::ip" crowdedOperand "ip"))) =
            recorder.play events ∧
        events.map Event.hook = [.single, .inlineCast] := by
  obtain ⟨traced, _, placeholders, _, functions, leaf⟩ :=
    operands_invisible (some (.command (castingRow plainOperand crowdedOperand)))
      (some (.command (castingRow crowdedOperand plainOperand))) rfl
  have cast : ∀ kind, Item.kind? (.inlineCast (InlineCast.named "d::ip" crowdedOperand "ip")) =
      some kind → kind.isLeaf = true := by
    simp [Item.kind?, Kind.isLeaf]
  obtain ⟨events, walked, _, hooks, _⟩ := leaf { visitor := recorder } _ cast
  exact ⟨traced, placeholders, functions "f", rfl, events, walked, hooks⟩

end EsqlTree
