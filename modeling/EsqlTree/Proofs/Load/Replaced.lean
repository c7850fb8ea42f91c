import EsqlTree.Proofs.Load.FirstFault

/-!
# Objects with another value of one field

A member that is written later hides an earlier one of its key, so an object with one more member is
that object with another value of one field. Where the object is accepted, all that the other one
can be refused for is this value, provided that one rule alone is about the field.
-/

namespace EsqlTree

open Json (Value Members lookup)

/-- The fault of a result, if it is none. -/
def Load.fault? {α : Type} : Except Fault α → Option Fault
  | .ok _ => none
  | .error fault => some fault

/-- The fault with which a value is refused in a place, if it is. -/
def Load.refusal? (place : Place) (value : Value) (path : Path) : Option Fault :=
  match place with
  | .node => fault? (Load.node value path)
  | .slot => fault? (Load.slot value path)

/-- A result that reports faults fails with the first of them, and does not fail if there are none.
-/
theorem Load.Reports.fault?_eq {α : Type} {result : Except Fault α} {faults : List Fault}
    (reported : Reports result faults) : fault? result = faults.head? := by
  cases result with
  | ok value =>
    rw [reports_ok] at reported
    rw [reported]
    rfl
  | error fault => exact ((reports_error fault faults).mp reported).symm

/-- A value is refused with the first of its faults. So what a value is refused for can be told from
the list of its faults, without loading it. -/
theorem Load.refusal?_eq (place : Place) (value : Value) (path : Path) :
    refusal? place value path = (faults place value path).head? := by
  cases place with
  | node => exact (node_reports value path).fault?_eq
  | slot => exact (slot_reports value path).fault?_eq

section

variable {members : Members} {path : Path} {key : String} {value : Value}

/-- One more member does not change what the rule of another field finds, since a rule looks up one
key. -/
theorem Rule.faults_append_of_ne {rule : Rule} (other : rule.field.key ≠ key) :
    rule.faults (members ++ [(key, value)]) path = rule.faults members path := by
  have same : lookup rule.field.key (members ++ [(key, value)]) =
      lookup rule.field.key members := by
    simp [Ne.symm other]
  simp only [Rule.faults, same]

/-- One more member does not change the faults of a field that holds nodes, if it is another one.
What is below that field is not touched either. -/
theorem branchFaults_append_of_ne {branch : Option Branch}
    (other : ∀ field, branch.map Branch.field = some field → field.key ≠ key) :
    branchFaults branch (members ++ [(key, value)]) path = branchFaults branch members path := by
  cases branch with
  | none => simp only [branchFaults]
  | some branch =>
    have apart : branch.field.key ≠ key := other branch.field rfl
    have same : lookup branch.field.key (members ++ [(key, value)]) =
        lookup branch.field.key members := by
      simp [Ne.symm apart]
    cases found : lookup branch.field.key members with
    | none => rw [branchFaults_of_none path (same.trans found), branchFaults_of_none path found]
    | some nodes =>
      rw [branchFaults_of_some path (same.trans found), branchFaults_of_some path found]

/-- What is found of only one element is found of it. The others may stand in front of it or behind
it, as they yield nothing. -/
theorem findSome?_eq_of_only {α β : Type} {f : α → Option β} {a : α} {list : List α}
    (listed : a ∈ list) (only : ∀ b ∈ list, b = a ∨ f b = none) : list.findSome? f = f a := by
  cases found : f a with
  | none =>
    rw [List.findSome?_eq_none_iff]
    intro b member
    rcases only b member with rfl | none
    · exact found
    · exact none
  | some x =>
    have some : (list.findSome? f).isSome = true := by
      rw [List.findSome?_isSome_iff]
      exact ⟨a, listed, by rw [found]; rfl⟩
    obtain ⟨y, first⟩ := Option.isSome_iff_exists.mp some
    obtain ⟨b, member, yields⟩ := List.exists_of_findSome?_eq_some first
    rcases only b member with rfl | none
    · rw [first, ← yields, found]
    · rw [none] at yields
      contradiction

/-- The rules of an object with a tag in a place, but for the field that holds nodes. -/
def plainRules (place : Place) (tag : String) : List Rule :=
  headerRules ++ (Shape.of place tag).before ++ (Shape.of place tag).behind

/-- A field of which nothing else is asked than by one rule, in objects with a tag in a place. -/
structure OnlyRule (place : Place) (tag : String) (rule : Rule) : Prop where
  /-- The rule is one of those of the object. -/
  listed : rule ∈ plainRules place tag
  /-- No other rule is about the field. -/
  only : ∀ other ∈ plainRules place tag, other.field.key = rule.field.key → other = rule
  /-- The field holds no nodes. -/
  plain : ∀ field, (Shape.of place tag).branch.map Branch.field = some field →
    field.key ≠ rule.field.key
  /-- The field is not the tag. -/
  untagged : rule.field.key ≠ "type"

/-- An accepted object with another value of a field is refused for that field or not at all. Every
other rule finds what it found before, when nothing was at fault. -/
theorem Load.refusal?_append {place : Place} {tag : String} {rule : Rule}
    (tagged : lookup "type" members = some (.string tag)) (own : OnlyRule place tag rule)
    (accepted : refusal? place (.object members) path = none) (value : Value) :
    refusal? place (.object (members ++ [(rule.field.key, value)])) path =
      (rule.faults (members ++ [(rule.field.key, value)]) path).head? := by
  obtain ⟨listed, only, plain, untagged⟩ := own
  have taggedStill : lookup "type" (members ++ [(rule.field.key, value)]) = some (.string tag) := by
    simp [untagged, tagged]
  rw [refusal?_eq, List.head?_eq_none_iff, faults_of_tag path tagged] at accepted
  simp only [List.append_eq_nil_iff] at accepted
  obtain ⟨⟨front, nodes⟩, behind⟩ := accepted
  have rules : allFaults (plainRules place tag) members path = [] := by
    rw [plainRules, allFaults_append, front, behind, List.append_nil]
  have acceptedRules := List.flatMap_eq_nil_iff.mp rules
  rw [refusal?_eq, faults_of_tag path taggedStill, branchFaults_append_of_ne plain, nodes,
    List.append_nil, ← allFaults_append, allFaults, List.head?_flatMap]
  -- Every other rule finds what it found before, where it had nothing to report.
  refine findSome?_eq_of_only listed ?_
  intro other member
  by_cases same : other.field.key = rule.field.key
  · exact .inl (only other member same)
  · rw [Rule.faults_append_of_ne same, acceptedRules other member]
    exact .inr rfl

/-- Nothing else is asked of a location in any object. The table is gone through by place and kind.
-/
theorem onlyRule_location (place : Place) (tag : String) :
    OnlyRule place tag ⟨.optional, .location, [.location]⟩ := by
  cases place <;> cases known : Kind.ofTag? tag with
  | none => constructor <;> simp [plainRules, headerRules, Shape.of, known, Field.key]
  | some kind =>
    cases kind <;> constructor <;> simp [plainRules, headerRules, Shape.of, known, Field.key]

/-- Nothing else is asked of the value of a literal, though casts have a field of that key as well.
-/
theorem onlyRule_value (place : Place) :
    OnlyRule place Kind.literal.tag ⟨.optional, .value, [.scalar]⟩ := by
  cases place <;> constructor <;>
    simp [plainRules, headerRules, Shape.of, Kind.ofTag?_tag, Field.key]

/-- Nothing else is asked of the quantity of a time span, and no other kind has a field of that key.
-/
theorem onlyRule_quantity (place : Place) :
    OnlyRule place Kind.timeInterval.tag ⟨.required .timeInterval, .quantity, [.integer]⟩ := by
  cases place <;> constructor <;>
    simp [plainRules, headerRules, Shape.of, Kind.ofTag?_tag, Field.key]

/-- A field that is there and of which one thing is expected is at fault if it does not meet that.
Where it may be left out, `null` is excluded by the hypothesis. -/
theorem Rule.head?_faults {need : Need} {field : Field} {expected : Expectation}
    (found : lookup field.key members = some value) (given : need = .optional → value ≠ .null) :
    (Rule.faults ⟨need, field, [expected]⟩ members path).head? =
      if expected.admits value then none else some (.invalidField path field expected) := by
  cases need with
  | required kind =>
    cases admitted : expected.admits value <;> simp [Rule.faults, found, unmet?, admitted]
  | optional =>
    have notNull : value ≠ .null := given rfl
    cases admitted : expected.admits value <;> simp [Rule.faults, found, unmet?, admitted]

/-- An accepted object with another value of a field is refused exactly if the value does not meet
what is expected there. This is the law above for a rule that expects one thing. -/
theorem Load.refusal?_append_eq {place : Place} {tag : String} {need : Need} {field : Field}
    {expected : Expectation} (tagged : lookup "type" members = some (.string tag))
    (own : OnlyRule place tag ⟨need, field, [expected]⟩)
    (accepted : refusal? place (.object members) path = none)
    (given : need = .optional → value ≠ .null) :
    refusal? place (.object (members ++ [(field.key, value)])) path =
      if expected.admits value then none else some (.invalidField path field expected) := by
  have found : lookup field.key (members ++ [(field.key, value)]) = some value := by simp
  rw [refusal?_append tagged own accepted, Rule.head?_faults found given]

end

end EsqlTree
