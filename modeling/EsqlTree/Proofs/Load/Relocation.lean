import EsqlTree.Proofs.Load.Fields
import Mathlib.Data.List.Forall2

/-!
# A value is loaded alike at every path

The path at which a value is loaded tells where the value stands. It goes into the faults that are
found there and below, and nothing else depends on it: a value that is loaded on its own is loaded
as the same tree wherever it stands, and one that is refused is refused for the same fault, whose
path begins where the value stands. The elements of an array are therefore loaded as each of them
is on its own, up to the first that is refused.
-/

namespace EsqlTree

open Json (Value Members lookup)

/-- The steps of a path, taken from where another path leads. -/
def Path.under (path base : Path) : Path := { base with steps := base.steps ++ path.steps }

/-- A step behind a path that is moved is moved with it. Both sides have the steps of the base, then
those of the path, then this one. -/
theorem Path.child_under (path base : Path) (step : Step) :
    (path.child step).under base = (path.under base).child step := by
  simp only [under, child, List.append_assoc]

/-- No steps from where a path leads end there. So a value that is loaded on its own stands, once it
is moved, where the base leads. -/
@[simp] theorem Path.top_under (base : Path) : ({} : Path).under base = base := by
  simp only [under, List.append_nil]

/-- The text of steps stands behind the text of the path to which they are moved. A path is written
step by step behind its origin, and moving it changes only what stands before its steps. -/
theorem Path.render_under (path base : Path) :
    (path.under base).render = base.render ++ String.join (path.steps.map Step.render) := by
  simp only [render, under, List.map_append, String.join_append, String.append_assoc]

/-- The fault that the value at the end of a path has, if that is the one it has on its own. -/
def Fault.under (base : Path) : Fault → Fault
  | .notANode path found => .notANode (path.under base) found
  | .missingType path => .missingType (path.under base)
  | .missingField path kind field => .missingField (path.under base) kind field
  | .invalidField path field expected => .invalidField (path.under base) field expected

/-- Moving a fault moves its path. Every fault has one, whatever else it tells. -/
@[simp] theorem Fault.path_under (base : Path) (fault : Fault) :
    (fault.under base).path = fault.path.under base := by
  cases fault <;> rfl

/-- A fault is another one, said of the value at the end of a path: all but its path is the same,
and in the text of that, the text of the given path stands in place of the `$` at the front. -/
structure Fault.SaidAt (own : Fault) (base : Path) (fault : Fault) : Prop where
  /-- The fault is the other one, moved. -/
  moved : fault = own.under base
  /-- The `$` at the front of its path is replaced. -/
  text : ∃ rest, own.path.render = "$" ++ rest ∧ fault.path.render = base.render ++ rest

namespace Load

section

variable {ε ε' α β : Type} {f : ε → ε'}

@[simp] theorem mapError_ok (value : α) :
    (Except.ok value : Except ε α).mapError f = .ok value := rfl

@[simp] theorem mapError_error (error : ε) :
    (Except.error error : Except ε α).mapError f = .error (f error) := rfl

/-- The errors of two steps are replaced by replacing those of each. This takes a reader apart into
the readers that it calls in turn: each of them is replaced by itself, and where the first one
fails, the second has no part. -/
theorem bind_eq_mapError {first : Except ε α} {other : Except ε' α} {next : α → Except ε β}
    {otherNext : α → Except ε' β} (atFirst : other = first.mapError f)
    (atNext : ∀ value, otherNext value = (next value).mapError f) :
    (other >>= otherNext) = (first >>= next).mapError f := by
  subst atFirst
  cases first with
  | error error => rfl
  | ok value => exact atNext value

/-- A step whose value is only put to use fails exactly if it does alone, and with the same error,
since putting the value to use cannot fail. -/
theorem bind_ok_eq_error_iff {first : Except ε α} {make : α → β} {error : ε} :
    (first >>= fun value => .ok (make value)) = .error error ↔ first = .error error := by
  cases first <;> simp

end

/-- A reader makes use of its path for its fault alone: where the path is taken from the end of
another one, only the fault is moved there. -/
def Relocates {α : Type} (read : Path → Except Fault α) : Prop :=
  ∀ path base, read (path.under base) = (read path).mapError (Fault.under base)

/-- What is read at a path is what is read at the top, with its fault moved to the path. This is the
case in which the path that is moved has no steps, and it is all that the laws about whole values
need. -/
theorem Relocates.eq_top {α : Type} {read : Path → Except Fault α} (relocates : Relocates read)
    (path : Path) : read path = (read {}).mapError (Fault.under path) := by
  rw [← relocates {} path, Path.top_under]

/-- A reader of what a step leads to makes use of the path of its node for its fault alone. The step
is the last of the path in both readings, so it is moved along. -/
theorem Relocates.child {α : Type} {read : Path → Except Fault α} (relocates : Relocates read)
    (step : Step) : Relocates fun path => read (path.child step) := by
  intro path base
  have moved := relocates (path.child step) base
  rwa [Path.child_under] at moved

section

variable {members : Members} {field : Field} {kind : Kind}

/-- The tag of a node is read alike at every path. It is found or missed by the members, and the
path only tells where it is missing. -/
theorem tagOf_relocates : Relocates (tagOf members) := by
  intro path base
  unfold tagOf
  split <;> rfl

/-- A string that may be absent is read alike at every path. Only a value that is no string makes
use of the path, in its refusal. -/
theorem optionalString_relocates : Relocates (optionalString members field) := by
  intro path base
  unfold optionalString
  split <;> rfl

/-- A truth value that may be absent is read alike at every path. Only a value that is none makes
use of the path, in its refusal. -/
theorem optionalBoolean_relocates : Relocates (optionalBoolean members field) := by
  intro path base
  unfold optionalBoolean
  split <;> rfl

/-- A tag that may be absent is read alike at every path. It is a string that may be absent, and
then one that must be known; either may be refused, and both refusals name the field at the path. -/
theorem optionalTag_relocates {α : Type} {ofTag? : String → Option α} {expected : Expectation} :
    Relocates (optionalTag ofTag? expected members field) := by
  intro path base
  refine bind_eq_mapError (optionalString_relocates path base) fun given => ?_
  cases given with
  | none => rfl
  | some tag =>
    cases known : ofTag? tag <;> simp only [known] <;> rfl

/-- A field that may not be absent is read alike at every path. The value that is found is handed on
as it is, and the path is used where none is. -/
theorem required_relocates : Relocates (required members field kind) := by
  intro path base
  unfold required
  split <;> rfl

/-- A string that may not be absent is read alike at every path: the field first, and then what is
found there. -/
theorem requiredString_relocates : Relocates (requiredString members field kind) := by
  intro path base
  refine bind_eq_mapError (required_relocates path base) fun ⟨value, _⟩ => ?_
  cases value <;> rfl

/-- An array that may not be absent is read alike at every path: the field first, and then what is
found there. -/
theorem requiredArray_relocates : Relocates (requiredArray members field kind) := by
  intro path base
  refine bind_eq_mapError (required_relocates path base) fun ⟨value, _⟩ => ?_
  cases value <;> rfl

/-- A location is read alike at every path. An absent one is that of the start, and there are two
refusals, of what is no object and of ends that are no offsets. -/
theorem location_relocates : Relocates (Load.location members) := by
  intro path base
  unfold Load.location
  split
  · rfl
  · rfl
  · split <;> rfl
  · rfl

/-- The parts of a column are read alike at every path. An absent list is empty, and there are two
refusals, of what is no array and of an element that is no string. -/
theorem parts_relocates : Relocates (Load.parts members) := by
  intro path base
  unfold Load.parts
  split
  · rfl
  · rfl
  · split <;> rfl
  · rfl

/-- The type of a literal is read alike at every path: a string that may not be absent, which must
then be the tag of a type. -/
theorem literalType_relocates : Relocates (Load.literalType members) := by
  intro path base
  refine bind_eq_mapError (requiredString_relocates path base) fun tag => ?_
  cases LiteralType.ofTag? tag <;> rfl

/-- The value of a literal is read alike at every path. An absent one is told from the text of the
literal, where nothing can be refused. -/
theorem scalar_relocates {type : LiteralType} {text : String} :
    Relocates (Load.scalar type text members) := by
  intro path base
  unfold Load.scalar
  split <;> rfl

/-- The kind of a placeholder is read alike at every path. An absent one is told from the text of
the literal, where nothing can be refused. -/
theorem paramKind_relocates {type : LiteralType} {text : String} :
    Relocates (Load.paramKind type text members) := by
  intro path base
  refine bind_eq_mapError (optionalTag_relocates path base) fun given => ?_
  cases given <;> rfl

/-- The quantity of a time span is read alike at every path. It is refused where it is absent, no
integer, or an integer beyond its bounds. -/
theorem quantity_relocates : Relocates (Load.quantity members) := by
  intro path base
  refine bind_eq_mapError (required_relocates path base) fun ⟨value, _⟩ => ?_
  split
  · split <;> rfl
  · rfl

/-- The header of a node is read alike at every path. Its four fields are read in turn, and the
first of them that is refused ends the reading at either path. -/
theorem header_relocates : Relocates (Load.header members) := by
  intro path base
  refine bind_eq_mapError (optionalString_relocates path base) fun name => ?_
  refine bind_eq_mapError (optionalString_relocates path base) fun text => ?_
  refine bind_eq_mapError (location_relocates path base) fun location => ?_
  exact bind_eq_mapError (optionalBoolean_relocates path base) fun incomplete => rfl

/-- A source is read alike at every path, field by field behind its header. -/
theorem source_relocates {header : Header} : Relocates (Load.source header members) := by
  intro path base
  refine bind_eq_mapError (optionalTag_relocates path base) fun sourceType => ?_
  refine bind_eq_mapError (optionalString_relocates path base) fun cluster => ?_
  exact bind_eq_mapError (optionalString_relocates path base) fun index => rfl

/-- A column is read alike at every path, field by field behind its header. -/
theorem column_relocates {header : Header} : Relocates (Load.column header members) := by
  intro path base
  refine bind_eq_mapError (parts_relocates path base) fun parts => ?_
  exact bind_eq_mapError (optionalBoolean_relocates path base) fun quoted => rfl

/-- A literal is read alike at every path, field by field behind its header. Its value and its kind
depend on its type and its text, but these are the same at either path. -/
theorem literal_relocates {header : Header} : Relocates (Load.literal header members) := by
  intro path base
  refine bind_eq_mapError (literalType_relocates path base) fun literalType => ?_
  refine bind_eq_mapError (scalar_relocates path base) fun value => ?_
  exact bind_eq_mapError (paramKind_relocates path base) fun paramKind => rfl

/-- A time span is read alike at every path, field by field behind its header. -/
theorem timeInterval_relocates {header : Header} :
    Relocates (Load.timeInterval header members) := by
  intro path base
  refine bind_eq_mapError (quantity_relocates path base) fun quantity => ?_
  exact bind_eq_mapError (requiredString_relocates path base) fun unit => rfl

end

-- The recursion goes down the value. A child is loaded one step behind the path of its node, and
-- `Relocates.child` moves that step along, so the same base serves at every depth.
mutual

/-- An item is read alike at every path. The cases are those of its tag; where it has children, each
is loaded one step further on, at either path. -/
theorem item_relocates (tag : String) (members : Members) : Relocates (Load.item tag members) := by
  intro path base
  rw [Load.item, Load.item]
  refine bind_eq_mapError (header_relocates path base) fun header => ?_
  cases Kind.ofTag? tag with
  | none => rfl
  | some kind =>
    cases kind with
    | function =>
      refine bind_eq_mapError (optionalTag_relocates path base) fun form => ?_
      refine bind_eq_mapError (requiredArray_relocates path base) fun ⟨elements, smaller⟩ => ?_
      exact bind_eq_mapError ((slots_relocates elements 0).child .args path base) fun args => rfl
    | option =>
      refine bind_eq_mapError (requiredArray_relocates path base) fun ⟨elements, smaller⟩ => ?_
      exact bind_eq_mapError ((slots_relocates elements 0).child .args path base) fun args => rfl
    | list =>
      refine bind_eq_mapError (requiredArray_relocates path base) fun ⟨elements, smaller⟩ => ?_
      exact bind_eq_mapError ((slots_relocates elements 0).child .values path base) fun _ => rfl
    | inlineCast =>
      refine bind_eq_mapError (required_relocates path base) fun ⟨operand, smaller⟩ => ?_
      refine bind_eq_mapError ((slot_relocates operand).child .value path base) fun value => ?_
      exact bind_eq_mapError (requiredString_relocates path base) fun castType => rfl
    | source => exact bind_eq_mapError (source_relocates path base) fun node => rfl
    | column => exact bind_eq_mapError (column_relocates path base) fun node => rfl
    | literal => exact bind_eq_mapError (literal_relocates path base) fun node => rfl
    | timeInterval => exact bind_eq_mapError (timeInterval_relocates path base) fun node => rfl
    | command | mode | unknown => rfl
termination_by sizeOf members

/-- A slot is loaded alike at every path. -/
theorem slot_relocates (value : Value) : Relocates (Load.slot value) := by
  intro path base
  cases value with
  | array elements =>
    rw [Load.slot, Load.slot]
    exact bind_eq_mapError (slots_relocates elements 0 path base) fun slots => rfl
  | object members =>
    rw [Load.slot, Load.slot]
    refine bind_eq_mapError (tagOf_relocates path base) fun tag => ?_
    exact bind_eq_mapError (item_relocates tag members path base) fun item => rfl
  | _ => simp [Load.slot, Fault.under]
termination_by sizeOf value

/-- Slots are loaded alike at every path. Each has its position as a further step, and the first
that is refused ends the loading. -/
theorem slots_relocates (elements : List Value) (position : Nat) :
    Relocates (Load.slots elements position) := by
  intro path base
  cases elements with
  | nil => simp [Load.slots]
  | cons element others =>
    rw [Load.slots, Load.slots]
    have atFirst := (slot_relocates element).child (.index position) path base
    refine bind_eq_mapError atFirst fun first => ?_
    exact bind_eq_mapError (slots_relocates others (position + 1) path base) fun rest => rfl
termination_by sizeOf elements

end

mutual

/-- A command is read alike at every path: the header, then the array of its arguments, and then
these, as nodes one step further on. -/
theorem command_relocates (members : Members) : Relocates (Load.command members) := by
  intro path base
  rw [Load.command, Load.command]
  refine bind_eq_mapError (header_relocates path base) fun header => ?_
  refine bind_eq_mapError (requiredArray_relocates path base) fun ⟨elements, smaller⟩ => ?_
  exact bind_eq_mapError ((nodes_relocates elements 0).child .args path base) fun args => rfl
termination_by sizeOf members

/-- A node is loaded alike at every path. An array is a sequence of nodes, and of objects those with
the tag of a command are read as one and all others as an item. -/
theorem node_relocates (value : Value) : Relocates (Load.node value) := by
  intro path base
  cases value with
  | array elements =>
    rw [Load.node, Load.node]
    exact bind_eq_mapError (nodes_relocates elements 0 path base) fun nodes => rfl
  | object members =>
    rw [Load.node, Load.node]
    refine bind_eq_mapError (tagOf_relocates path base) fun tag => ?_
    by_cases command : tag = Kind.command.tag
    · rw [if_pos command, if_pos command]
      exact bind_eq_mapError (command_relocates members path base) fun node => rfl
    · rw [if_neg command, if_neg command]
      exact bind_eq_mapError (item_relocates tag members path base) fun item => rfl
  | _ => simp [Load.node, Fault.under]
termination_by sizeOf value

/-- Nodes are loaded alike at every path. Each has its position as a further step, and the first
that is refused ends the loading. -/
theorem nodes_relocates (elements : List Value) (position : Nat) :
    Relocates (Load.nodes elements position) := by
  intro path base
  cases elements with
  | nil => simp [Load.nodes]
  | cons element others =>
    rw [Load.nodes, Load.nodes]
    have atFirst := (node_relocates element).child (.index position) path base
    refine bind_eq_mapError atFirst fun first => ?_
    exact bind_eq_mapError (nodes_relocates others (position + 1) path base) fun rest => rfl
termination_by sizeOf elements

end

section

variable {α : Type} {load : Value → Path → Except Fault α}
  {each : List Value → Nat → Path → Except Fault (List α)}

/-- Of some elements, the one at a position is the first that is refused on its own, and it is
refused for a fault. What is behind it does not matter. -/
structure FirstRefused (load : Value → Path → Except Fault α) (elements : List Value)
    (position : Nat) (own : Fault) : Prop where
  /-- Those before it are loaded. -/
  earlier : ∀ element ∈ elements.take position, ∃ tree, load element {} = .ok tree
  /-- It is refused. -/
  refused : ∃ element, elements[position]? = some element ∧ load element {} = .error own

/-- The first element is the first that is refused if it is refused. No element stands before it, so
nothing else has to be loaded. -/
theorem firstRefused_zero_iff {element : Value} {others : List Value} {own : Fault} :
    FirstRefused load (element :: others) 0 own ↔ load element {} = .error own := by
  constructor
  · rintro ⟨_, _, ⟨⟩, refused⟩
    exact refused
  · intro refused
    exact ⟨by simp, element, rfl, refused⟩

/-- A later element is the first that is refused if it is that behind the first, which is not. With
this and the case of the first element, claims about positions go by recursion on the elements. -/
theorem firstRefused_succ_iff {element : Value} {others : List Value} {position : Nat}
    {own : Fault} : FirstRefused load (element :: others) (position + 1) own ↔
      (∃ tree, load element {} = .ok tree) ∧ FirstRefused load others position own := by
  constructor
  · rintro ⟨earlier, refused⟩
    rw [List.take_succ_cons, List.forall_mem_cons] at earlier
    exact ⟨earlier.1, earlier.2, refused⟩
  · rintro ⟨loaded, earlier, refused⟩
    refine ⟨?_, refused⟩
    rw [List.take_succ_cons, List.forall_mem_cons]
    exact ⟨loaded, earlier⟩

/-- A reader of elements takes them in turn, each with its position behind the path. -/
structure InTurn (load : Value → Path → Except Fault α)
    (each : List Value → Nat → Path → Except Fault (List α)) : Prop where
  /-- No elements are loaded as no trees. -/
  nil : ∀ position path, each [] position path = .ok []
  /-- The first element is loaded before the others. -/
  cons : ∀ element others position path, each (element :: others) position path = do
    let first ← load element (path.child (.index position))
    let rest ← each others (position + 1) path
    .ok (first :: rest)

/-- Elements are loaded exactly if each is loaded on its own, and as the same trees. The induction
is on the elements: the first is moved to the top, where it is loaded alone, and the others are
loaded from the next position on. -/
theorem InTurn.eq_ok_iff (turn : InTurn load each)
    (relocates : ∀ value, Relocates (load value))
    {elements : List Value} {start : Nat} {path : Path} {trees : List α} :
    each elements start path = .ok trees ↔
      List.Forall₂ (fun element tree => load element {} = .ok tree) elements trees := by
  induction elements generalizing start trees with
  | nil =>
    rw [turn.nil, List.forall₂_nil_left_iff, Except.ok.injEq, eq_comm]
  | cons element others inOthers =>
    rw [turn.cons, (relocates element).eq_top, List.forall₂_cons_left_iff]
    cases loaded : load element {} with
    | error own => simp
    | ok first =>
      rw [mapError_ok, ok_bind, bind_eq_ok_iff]
      constructor
      · rintro ⟨rest, behind, ⟨⟩⟩
        exact ⟨first, rest, rfl, inOthers.mp behind, rfl⟩
      · rintro ⟨_, rest, ⟨⟩, behind, rfl⟩
        exact ⟨rest, inOthers.mpr behind, rfl⟩

/-- Elements are refused exactly if one is refused on its own, and for the fault of the first that
is, said of its position. The induction is on the elements. If the first is refused, the others are
not looked at; otherwise the fault is one of the others, whose positions all count from one more. -/
theorem InTurn.eq_error_iff (turn : InTurn load each)
    (relocates : ∀ value, Relocates (load value))
    {elements : List Value} {start : Nat} {path : Path} {fault : Fault} :
    each elements start path = .error fault ↔ ∃ position own,
      FirstRefused load elements position own ∧
        fault = own.under (path.child (.index (start + position))) := by
  induction elements generalizing start with
  | nil =>
    rw [turn.nil]
    constructor
    · rintro ⟨⟩
    · rintro ⟨position, own, ⟨_, _, ⟨⟩, _⟩, _⟩
  | cons element others inOthers =>
    rw [turn.cons, (relocates element).eq_top]
    cases loaded : load element {} with
    | error refused =>
      rw [mapError_error, error_bind]
      constructor
      · rintro ⟨⟩
        exact ⟨0, refused, firstRefused_zero_iff.mpr loaded, rfl⟩
      · rintro ⟨position, own, first, rfl⟩
        cases position with
        | zero =>
          have same := loaded.symm.trans (firstRefused_zero_iff.mp first)
          rw [Except.error.inj same, Nat.add_zero]
        | succ later =>
          obtain ⟨⟨_, accepted⟩, _⟩ := firstRefused_succ_iff.mp first
          cases loaded.symm.trans accepted
    | ok first =>
      rw [mapError_ok, ok_bind, bind_ok_eq_error_iff, inOthers]
      constructor
      · rintro ⟨position, own, later, rfl⟩
        refine ⟨position + 1, own, firstRefused_succ_iff.mpr ⟨⟨first, loaded⟩, later⟩, ?_⟩
        rw [Nat.add_assoc, Nat.add_comm 1]
      · rintro ⟨position, own, later, rfl⟩
        cases position with
        | zero => cases loaded.symm.trans (firstRefused_zero_iff.mp later)
        | succ position =>
          refine ⟨position, own, (firstRefused_succ_iff.mp later).2, ?_⟩
          rw [Nat.add_assoc, Nat.add_comm 1]

/-- A reader of values uses the path at which it loads a value for its faults alone, and makes a
sequence of the elements of an array, which it loads as if each stood on its own. -/
structure LoadsAnywhere (load : Value → Path → Except Fault α) (sequence : List α → α) : Prop where
  /-- A value is loaded at a path exactly if it is on its own, as the same tree. -/
  ok_iff : ∀ value path tree, load value path = .ok tree ↔ load value {} = .ok tree
  /-- A value is refused at a path exactly if it is on its own, for the same fault, said of the
  path. -/
  error_iff : ∀ value path fault, load value path = .error fault ↔
    ∃ own, load value {} = .error own ∧ own.SaidAt path fault
  /-- An array is loaded exactly if each element is on its own, as the sequence of those trees. -/
  array_ok_iff : ∀ elements path tree, load (.array elements) path = .ok tree ↔
    ∃ trees, List.Forall₂ (fun element tree => load element {} = .ok tree) elements trees ∧
      tree = sequence trees
  /-- An array is refused exactly if some element is on its own, for the fault of the first that
  is, said of its position behind the path. -/
  array_error_iff : ∀ elements path fault, load (.array elements) path = .error fault ↔
    ∃ position own, FirstRefused load elements position own ∧
      own.SaidAt (path.child (.index position)) fault

/-- A fault that is found on its own begins at the top, so its text goes on behind the `$`. That it
begins there is seen by moving it from the top to the top, which leaves it as it is. -/
theorem saidAt_iff {value : Value} {own fault : Fault} {base : Path}
    (relocates : ∀ value, Relocates (load value))
    (refused : load value {} = .error own) : own.SaidAt base fault ↔ fault = own.under base := by
  refine ⟨Fault.SaidAt.moved, fun moved => ⟨moved, ?_⟩⟩
  have atTop : own = own.under {} := by
    have same := (relocates value).eq_top {}
    rw [refused, mapError_error] at same
    exact Except.error.inj same
  refine ⟨String.join (own.path.steps.map Step.render), ?_, ?_⟩
  · rw [atTop, Fault.path_under, Path.render_under]
    rfl
  · rw [moved, Fault.path_under, Path.render_under]

/-- A reader loads anywhere if it makes use of its path for its fault alone and takes the elements
of an array in turn. Nothing else about the reader is used, so that nodes and slots are two cases of
one argument. -/
theorem InTurn.loadsAnywhere {sequence : List α → α} (turn : InTurn load each)
    (array : ∀ elements path,
      load (.array elements) path = each elements 0 path >>= fun trees => .ok (sequence trees))
    (relocates : ∀ value, Relocates (load value)) : LoadsAnywhere load sequence := by
  refine ⟨?_, ?_, ?_, ?_⟩
  · intro value path tree
    rw [(relocates value).eq_top path]
    cases load value {} <;> simp
  · intro value path fault
    rw [(relocates value).eq_top path]
    cases loaded : load value {} with
    | ok tree => simp
    | error own =>
      rw [mapError_error, Except.error.injEq]
      constructor
      · rintro rfl
        exact ⟨own, rfl, (saidAt_iff relocates loaded).mpr rfl⟩
      · rintro ⟨_, ⟨⟩, said⟩
        exact said.moved.symm
  · intro elements path tree
    rw [array, bind_eq_ok_iff]
    simp only [turn.eq_ok_iff relocates, Except.ok.injEq, eq_comm]
  · intro elements path fault
    rw [array, bind_ok_eq_error_iff, turn.eq_error_iff relocates]
    simp only [Nat.zero_add]
    constructor
    · rintro ⟨position, own, first, moved⟩
      obtain ⟨element, _, refused⟩ := first.refused
      exact ⟨position, own, first, (saidAt_iff relocates refused).mpr moved⟩
    · rintro ⟨position, own, first, said⟩
      exact ⟨position, own, first, said.moved⟩

end

end Load

/-- Nodes and slots are loaded alike at every path, whatever its text. A value is loaded as the
same tree as on its own, or refused for the same fault, with the text of the path in place of the
`$`. An array is loaded as the sequence of what its elements are on their own, or refused for the
fault of the first element that is refused, with the path and the element's position in brackets in
place of the `$`.

Proof: every reader passes its path on and puts it into faults, and does nothing else with it. So
each of them relocates, the smaller ones first, and the text of a fault's path begins with that of
its origin. -/
theorem loaded_alike_at_every_path :
    Load.LoadsAnywhere Load.node .seq ∧ Load.LoadsAnywhere Load.slot .seq ∧
      (∀ text : String, Path.render { origin := text } = text) ∧
      ∀ (path : Path) (position : Nat), (path.child (.index position)).render =
        path.render ++ "[" ++ String.ofList (Text.decimal position) ++ "]" := by
  refine ⟨?_, ?_, ?_, ?_⟩
  · have turn : Load.InTurn Load.node Load.nodes :=
      ⟨fun _ _ => by rw [Load.nodes], fun _ _ _ _ => by rw [Load.nodes]⟩
    exact turn.loadsAnywhere (fun _ _ => by rw [Load.node]) Load.node_relocates
  · have turn : Load.InTurn Load.slot Load.slots :=
      ⟨fun _ _ => by rw [Load.slots], fun _ _ _ _ => by rw [Load.slots]⟩
    exact turn.loadsAnywhere (fun _ _ => by rw [Load.slot]) Load.slot_relocates
  · intro text
    simp [Path.render]
  · intro path position
    simp [Path.render, Path.child, Step.render, String.append_assoc]

/-- The second element has no tag, and the third is not looked at. -/
example : Load.node (.array [.array [], .object [], .null]) { origin := "here", steps := [.args] } =
    .error (.missingType { origin := "here", steps := [.args, .index 1] }) := by
  cbv

end EsqlTree
