import EsqlTree.Proofs.Load.Reading
import EsqlTree.Proofs.Walk.Queries

/-!
# The trace of a value

What a trace shows of its events can be told from the JSON value alone. The notes below
are listed by going through the value: they read tags, names and locations off the
objects as they stand, and they build no tree. Where a value is loaded, the trace of the
tree is that list.
-/

namespace EsqlTree

open Json (Value Members lookup)

/-- What a trace shows of an event. -/
structure Note where
  /-- The hook that is called. -/
  hook : Hook
  /-- The tag of the node. -/
  tag : String
  /-- The name of the node. -/
  name : String
  /-- The location of the node. -/
  location : Location
deriving DecidableEq

/-- What a trace shows of an event. -/
def Event.note (event : Event) : Note :=
  ⟨event.hook, event.tag, event.header.name, event.header.location⟩

/-- The hook by which nodes of a kind are reported. -/
def Kind.hook : Kind → Hook
  | .command => .command
  | .option => .option
  | .mode => .mode
  | .function => .function
  | .source => .source
  | .column => .column
  | .literal => .literal
  | .list => .list
  | .timeInterval => .timeInterval
  | .inlineCast => .inlineCast
  | .unknown => .unclassified

/-- The integer under a key; it is zero if there is none. -/
def offsetIn (key : String) (ends : Members) : UInt32 :=
  match lookup key ends with
  | some (.number (.integer n)) => UInt32.ofNat n.val.toNat
  | _ => 0

/-- The location under `location`; it is at the start if there is none. -/
def locationIn (members : Members) : Location :=
  match lookup "location" members with
  | some (.object ends) => ⟨offsetIn "min" ends, offsetIn "max" ends⟩
  | _ => ⟨0, 0⟩

/-- The note of an object with a tag. -/
def noteIn (hook : Hook) (tag : String) (members : Members) : Note :=
  ⟨hook, tag, nameIn members, locationIn members⟩

mutual

/-- The notes of a value that stands in a place. Commands count only where a node may
stand; any other object is an item there. -/
def notes (place : Place) (value : Value) : List Note :=
  match value with
  | .array elements => notesOfEach place elements
  | .object members =>
    match lookup "type" members with
    | some (.string tag) =>
      if place = .node ∧ tag = Kind.command.tag then
        noteIn .command tag members :: notesUnder .node "args" members
      else noteIn .single tag members :: notesOfKind tag members
    | _ => []
  | _ => []
termination_by (sizeOf value, 0)

/-- The notes of an item behind that of the hook for all items: one by its kind, and
those of what the walk goes into. -/
def notesOfKind (tag : String) (members : Members) : List Note :=
  match Kind.ofTag? tag with
  | none | some .command => []
  | some .function => noteIn .function tag members :: notesUnder .slot "args" members
  | some .option => noteIn .option tag members :: notesUnder .slot "args" members
  | some .list => noteIn .list tag members :: notesUnder .slot "values" members
  | some kind => [noteIn kind.hook tag members]
termination_by (sizeOf members, 1)

/-- The notes of the elements under a key. -/
def notesUnder (place : Place) (key : String) (members : Members) : List Note :=
  match _found : lookup key members with
  | some (.array elements) => notesOfEach place elements
  | _ => []
termination_by (sizeOf members, 0)
decreasing_by
  have smaller := Json.sizeOf_lookup _found
  simp only [Value.array.sizeOf_spec] at smaller
  apply Prod.Lex.left
  omega

/-- The notes of elements, one after another. -/
def notesOfEach (place : Place) (elements : List Value) : List Note :=
  match elements with
  | [] => []
  | element :: others => notes place element ++ notesOfEach place others
termination_by (sizeOf elements, 0)

end

section

variable {members : Members}

/-- An offset that agrees with the members is the one read off them, as an offset is written as the
integer that it is. -/
theorem offsetIn_eq {key : String} {offset : UInt32}
    (found : lookup key members = some (.number (.ofUInt32 offset))) :
    offsetIn key members = offset := by
  simp [offsetIn, found, Json.Number.ofUInt32]

/-- A header that agrees with the members has the name and the location that are read off them. An
absent location and one that is null are read as the start. -/
theorem HeaderReading.noteIn_eq {header : Header} (headed : HeaderReading members header)
    (hook : Hook) (tag : String) :
    noteIn hook tag members = ⟨hook, tag, header.name, header.location⟩ := by
  have location : locationIn members = header.location := by
    rcases headed.location with ⟨found, start⟩ | ⟨ends, found, min, max⟩
    · rcases Json.given_eq_none_iff.mp found with absent | null <;> simp_all [locationIn]
    · obtain ⟨there, _⟩ := Json.given_eq_some_iff.mp found
      simp only [locationIn, there, offsetIn_eq min, offsetIn_eq max]
  rw [noteIn, headed.nameIn_eq, location]

/-- An event is noted by what is read off the members of its node, since the header of the event is
that of the node. -/
theorem HeaderReading.note_eq (event : Event) (headed : HeaderReading members event.header) :
    event.note = noteIn event.hook event.tag members := (headed.noteIn_eq event.hook event.tag).symm

/-- The notes of the elements that are found under a key. The lookup is part of the definition, for
its termination, and is taken away here once. -/
theorem notesUnder_eq {place : Place} {key : String} {elements : List Value}
    (found : lookup key members = some (.array elements)) :
    notesUnder place key members = notesOfEach place elements := by
  rw [notesUnder]
  split <;> simp_all

/-- The events of an atom, but for the first, are noted by its kind. An inert node has none, because
its tag names no kind, or that of commands. -/
theorem AtomReading.notes_eq {node : Atom} (own : AtomReading members node)
    (headed : HeaderReading members node.header) :
    node.event?.toList.map Event.note = notesOfKind node.tag members := by
  cases own with
  | inert other =>
    rcases Kind.ofTag?_eq_none_or other with unknown | command
    · simp [Atom.event?, Atom.tag, notesOfKind, unknown]
    · simp [Atom.event?, Atom.tag, notesOfKind, command, Kind.ofTag?_tag]
  | _ =>
    simp [Atom.event?, Atom.tag, notesOfKind, Kind.ofTag?_tag, Event.note, Event.hook,
      Event.tag, Event.header, Kind.hook, headed.noteIn_eq, Atom.header]

end

mutual

/-- The events of an item are noted by the hook for all items, and behind that by its kind. What a
function, an option or a list holds follows by the readings of its slots. -/
theorem ItemReading.notes_eq {members : Members} {item : Item} (own : ItemReading members item)
    (headed : HeaderReading members item.header) :
    item.events.map Event.note =
      noteIn .single item.tag members :: notesOfKind item.tag members := by
  have first : (Event.single item).note = noteIn .single item.tag members :=
    headed.note_eq (.single item)
  cases own with
  | atom own =>
    rw [Item.events, Atom.events, List.map_cons, first, own.notes_eq headed, Item.tag]
  | @function _ header form elements args subtype found below =>
    have second := headed.note_eq (.function ⟨header, form, args⟩)
    rw [Item.events, FunctionCall.events, List.map_cons, List.map_cons, first, second,
      below.notes_eq, ← notesUnder_eq found]
    simp only [Item.tag, notesOfKind, Kind.ofTag?_tag]
    rfl
  | @option _ header elements args found below =>
    have second := headed.note_eq (.option ⟨header, args⟩)
    rw [Item.events, CommandOption.events, List.map_cons, List.map_cons, first, second,
      below.notes_eq, ← notesUnder_eq found]
    simp only [Item.tag, notesOfKind, Kind.ofTag?_tag]
    rfl
  | @list _ header elements values found below =>
    have second := headed.note_eq (.list ⟨header, values⟩)
    rw [Item.events, ListLiteral.events, List.map_cons, List.map_cons, first, second,
      below.notes_eq, ← notesUnder_eq found]
    simp only [Item.tag, notesOfKind, Kind.ofTag?_tag]
    rfl
  | @inlineCast _ header operand value castType found below type =>
    -- The operand has notes of its own, but the walk does not go there.
    have second := headed.note_eq (.inlineCast ⟨header, value, castType⟩)
    rw [Item.events, List.map_cons, List.map_cons, List.map_nil, first, second]
    simp only [Item.tag, notesOfKind, Kind.ofTag?_tag]
    rfl

/-- The events of a slot are noted as they stand in its value. A command has no place there, so any
object is an item. -/
theorem SlotReading.notes_eq {value : Value} {slot : Slot} (reading : SlotReading value slot) :
    slot.events.map Event.note = notes .slot value := by
  cases reading with
  | single tagged headed own =>
    rw [Slot.events, own.notes_eq headed]
    simp [notes, tagged]
  | seq below => rw [Slot.events, notes, below.notes_eq]

/-- The events of slots are noted one after another, as the readings go along the elements. -/
theorem SlotReadings.notes_eq {elements : List Value} {slots : List Slot}
    (readings : SlotReadings elements slots) :
    (Slot.allEvents slots).map Event.note = notesOfEach .slot elements := by
  cases readings with
  | nil => simp [Slot.allEvents, notesOfEach]
  | cons first rest =>
    rw [Slot.allEvents, notesOfEach, List.map_append, first.notes_eq, rest.notes_eq]

end

mutual

/-- The events of a node are noted as they stand in its value. Where a node may stand the tag
decides whether an object is a command or an item, in the reading as in the notes. -/
theorem NodeReading.notes_eq {value : Value} {node : Node} (reading : NodeReading value node) :
    node.events.map Event.note = notes .node value := by
  cases reading with
  | @command members header elements args tagged headed found below =>
    have first := headed.note_eq (.command ⟨header, args⟩)
    rw [Node.events, Command.events, List.map_cons, first, below.notes_eq,
      ← notesUnder_eq found]
    simp only [notes, tagged, and_self, if_true]
    rfl
  | single other tagged headed own =>
    rw [Node.events, own.notes_eq headed]
    simp [notes, tagged, other]
  | seq below => rw [Node.events, notes, below.notes_eq]

/-- The events of nodes are noted one after another, as the readings go along the elements. -/
theorem NodeReadings.notes_eq {elements : List Value} {nodes : List Node}
    (readings : NodeReadings elements nodes) :
    (Node.allEvents nodes).map Event.note = notesOfEach .node elements := by
  cases readings with
  | nil => simp [Node.allEvents, notesOfEach]
  | cons first rest =>
    rw [Node.allEvents, notesOfEach, List.map_append, first.notes_eq, rest.notes_eq]

end

/-- The trace of a loaded tree shows the notes of the value from which it was loaded, in
their order and nothing else.

Proof: loading keeps the sorts of nodes, their headers and their order. The trace of what is loaded
is read off its events, and so by recursion on the tree both lists are made of the same notes. -/
theorem map_note_trace_eq_notes (value : Value) (root : Root)
    (loaded : Load.root value = .ok root) :
    (trace root).map Event.note = notes .node value := by
  rw [trace_eq_events]
  cases Load.rootReading_of_ok loaded with
  | absent => simp [Root.events, notes]
  | present reading => exact reading.notes_eq

/-- A command with a command among the arguments of a function, an unrecognised node, and
a cast whose operand is a function. -/
def crowded : Value :=
  .array [.array [.object [("type", .string "command"), ("name", .string "where"), ("args", .array [
    .object [("type", .string "function"), ("name", .string "f"), ("args", .array [.array [
      .object [("type", .string "command"), ("name", .string "inner"), ("args", .array [
        .object [("type", .string "mode")]])]]])],
    .object [("type", .string "inlineCast"), ("castType", .string "long"),
      ("location", .object [("min", .number (.ofUInt32 3)), ("max", .number (.ofUInt32 9))]),
      ("value", .object [("type", .string "function"), ("args", .array [])])],
    .object [("type", .string "hint"), ("args", .array [.object [("type", .string "mode")]])]])]]]

/-- The trace of the crowded command shows neither the arguments of the command in the slot, nor the
operand, nor what hangs below the unrecognised node. -/
theorem trace_crowded :
    ∃ root, Load.root crowded = .ok root ∧
      (trace root).map Event.note = notes .node crowded ∧
      notes .node crowded =
        [⟨.command, "command", "where", {}⟩, ⟨.single, "function", "f", {}⟩,
          ⟨.function, "function", "f", {}⟩, ⟨.single, "command", "inner", {}⟩,
          ⟨.single, "inlineCast", "", ⟨3, 9⟩⟩, ⟨.inlineCast, "inlineCast", "", ⟨3, 9⟩⟩,
          ⟨.single, "hint", "", {}⟩] := by
  have three : Json.Number.ofUInt32 3 = .integer ⟨3, by decide, by decide⟩ := rfl
  have nine : Json.Number.ofUInt32 9 = .integer ⟨9, by decide, by decide⟩ := rfl
  have told : notes .node crowded =
      [⟨.command, "command", "where", {}⟩, ⟨.single, "function", "f", {}⟩,
        ⟨.function, "function", "f", {}⟩, ⟨.single, "command", "inner", {}⟩,
        ⟨.single, "inlineCast", "", ⟨3, 9⟩⟩, ⟨.inlineCast, "inlineCast", "", ⟨3, 9⟩⟩,
        ⟨.single, "hint", "", {}⟩] := by
    rw [crowded, three, nine]
    cbv
  have accepted : (Load.root crowded).isOk = true := by decide +kernel
  cases loaded : Load.root crowded with
  | ok root => exact ⟨root, rfl, map_note_trace_eq_notes crowded root loaded, told⟩
  | error fault =>
    rw [loaded] at accepted
    contradiction

end EsqlTree
