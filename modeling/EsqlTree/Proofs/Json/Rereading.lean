import EsqlTree.Proofs.Json.Tokens

/-!
# Values are read as they were written

A value without floating-point numbers is read back from its text exactly if it nests no
more containers than may be open at once; a value that nests more is refused for that
reason and for no other. Writing opens the containers that the value has, so the number
that it nests is told from the value.
-/

namespace EsqlTree.Json

variable {α β : Type} {text rest after : List Char}

mutual

/-- How many containers a value nests. -/
def Value.depth : Value → Nat
  | .array elements => depthOfElements elements + 1
  | .object members => depthOfMembers members + 1
  | _ => 0

/-- How many containers the elements of an array nest. -/
def depthOfElements : List Value → Nat
  | [] => 0
  | element :: others => max element.depth (depthOfElements others)

/-- How many containers the members of an object nest. -/
def depthOfMembers : List (String × Value) → Nat
  | [] => 0
  | (_, value) :: others => max value.depth (depthOfMembers others)

end

mutual

/-- True of a value in which every number is an integer. -/
def Value.Floatless : Value → Prop
  | .number (.float _) => False
  | .array elements => ElementsFloatless elements
  | .object members => MembersFloatless members
  | _ => True

/-- True of elements in which every number is an integer. -/
def ElementsFloatless : List Value → Prop
  | [] => True
  | element :: others => element.Floatless ∧ ElementsFloatless others

/-- True of members in which every number is an integer. -/
def MembersFloatless : List (String × Value) → Prop
  | [] => True
  | (_, value) :: others => value.Floatless ∧ MembersFloatless others

end

/-- Elements have no floating-point numbers exactly if each of them has none. Rows of a result are
made one by one, so this is how a whole result is seen to have none. -/
theorem elementsFloatless_iff (elements : List Value) :
    ElementsFloatless elements ↔ ∀ element ∈ elements, element.Floatless := by
  induction elements with
  | nil => simp [ElementsFloatless]
  | cons element others inOthers =>
    rw [ElementsFloatless, inOthers, List.forall_mem_cons]

/-- Elements nest no more containers than a bound exactly if each of them nests no more. This is how
rows that are made one by one are seen to be shallow. -/
theorem depthOfElements_le_iff (elements : List Value) (bound : Nat) :
    depthOfElements elements ≤ bound ↔ ∀ element ∈ elements, element.depth ≤ bound := by
  induction elements with
  | nil => simp [depthOfElements]
  | cons element others inOthers =>
    rw [depthOfElements, Nat.max_le, inOthers, List.forall_mem_cons]

/-- A reader succeeds with a value and leaves the rest of the text if there is enough
room, and otherwise finds that containers are nested too deeply. -/
structure Fits (enough : Prop) (result : Except Failure (Text.Step text α)) (value : α)
    (rest : List Char) : Prop where
  /-- The value is read where there is room. -/
  yields : enough → Yields result value rest
  /-- There is one reason for refusing it. -/
  refused : ¬ enough → ∃ failure, result = .error failure ∧ failure.reason = .nestedTooDeeply

/-- What needs no room fits, so a reader that always succeeds may stand where one that may fail is
expected. -/
theorem Yields.fits {result : Except Failure (Text.Step text α)} {value : α}
    (yielded : Yields result value rest) : Fits True result value rest :=
  ⟨fun _ => yielded, fun never => absurd trivial never⟩

/-- What needs the same room fits as well. With this, conditions are brought into the form in which
depths are computed. -/
theorem Fits.of_iff {enough needed : Prop} {result : Except Failure (Text.Step text α)}
    {value : α} (same : needed ↔ enough) (fits : Fits enough result value rest) :
    Fits needed result value rest :=
  ⟨fun held => fits.yields (same.mp held), fun failed => fits.refused (mt same.mpr failed)⟩

/-- Two readers in turn fit if each does. If there is room for both, the second goes on where the
first stopped; if not, the first that has none is what fails. -/
theorem Fits.bind {other : List Char} {first : Except Failure (Text.Step text α)}
    {next : Text.Step text α → Except Failure (Text.Step other β)} {value : α} {result : β}
    {enough enoughBehind : Prop} (fits : Fits enough first value rest)
    (continued : ∀ shorter, Fits enoughBehind (next ⟨value, rest, shorter⟩) result after) :
    Fits (enough ∧ enoughBehind) (first >>= next) result after := by
  by_cases room : enough
  · obtain ⟨shorter, rfl⟩ := fits.yields room
    exact (continued shorter).of_iff (by simp only [room, true_and])
  · obtain ⟨failure, rfl, reason⟩ := fits.refused room
    exact ⟨fun both => absurd both.1 room, fun _ => ⟨failure, rfl, reason⟩⟩

/-- What is done with the value that was read needs no room, as when it is put into its container.
-/
theorem Fits.map {other : List Char} {first : Except Failure (Text.Step text α)}
    {next : Text.Step text α → Except Failure (Text.Step other β)} {value : α} {result : β}
    {enough : Prop} (fits : Fits enough first value rest)
    (continued : ∀ shorter, Yields (next ⟨value, rest, shorter⟩) result after) :
    Fits enough (first >>= next) result after :=
  (fits.bind fun shorter => (continued shorter).fits).of_iff (by rw [and_true])

/-- What follows a value that needs no room decides alone, as the value of a member does behind its
key. -/
theorem Fits.behind {other : List Char} {first : Except Failure (Text.Step text α)}
    {next : Text.Step text α → Except Failure (Text.Step other β)} {value : α} {result : β}
    {enough : Prop} (yielded : Yields first value rest)
    (continued : ∀ shorter, Fits enough (next ⟨value, rest, shorter⟩) result after) :
    Fits enough (first >>= next) result after :=
  (yielded.fits.bind continued).of_iff (by rw [true_and])

/-- `null` is read back, letter by letter. -/
theorem readValue_null (room : Nat) (after : List Char) :
    Yields (readValue room (write .null after)) .null after := by
  rw [write, readValue]
  simp only [skipBlanks, isBlank, Char.reduceBEq, Bool.or_self, Bool.false_eq_true, ↓dreduceIte,
    Char.reduceEq, ↓reduceIte, readLetters, bind, Except.bind]
  exact yields_ok _

/-- A truth value is read back, letter by letter, in either case. -/
theorem readValue_boolean (room : Nat) (b : Bool) (after : List Char) :
    Yields (readValue room (write (.boolean b) after)) (.boolean b) after := by
  cases b
  all_goals
    rw [write, writeBoolean, readValue]
    simp only [skipBlanks, isBlank, Char.reduceBEq, Bool.or_self, Bool.false_eq_true, ↓dreduceIte,
      Char.reduceEq, ↓reduceIte, readLetters, bind, Except.bind]
    exact yields_ok _

/-- A string is read from its opening quote on, with the characters that are read up to the closing
one. -/
theorem readValue_quote (room : Nat) {characters : List Char}
    (read : Yields (readCharacters text) characters after) :
    Yields (readValue room ('"' :: text)) (.string (String.ofList characters)) after := by
  rw [readValue]
  simp only [skipBlanks, isBlank, Char.reduceBEq, Bool.or_self, Bool.false_eq_true, ↓dreduceIte,
    Char.reduceEq, ↓reduceIte]
  exact read.bind fun shorter => yields_ok _

/-- A string is read back, its characters being read back one by one. -/
theorem readValue_string (room : Nat) (s : String) (after : List Char) :
    Yields (readValue room (write (.string s) after)) (.string s) after := by
  have read := readValue_quote room (readCharacters_write s.toList after)
  rwa [String.ofList_toList] at read

/-- A digit begins nothing but a number. There are ten digits, and each can be compared with the
marks that begin something else. -/
theorem digitOf_begins {digit : Nat} (small : digit < 10) :
    isBlank (Text.digitOf digit) = false ∧
      Text.digitOf digit ∉ ['[', '\x7b', '"', 'n', 't', 'f', '-', ']'] := by
  have each : ∀ digit : Fin 10, isBlank (Text.digitOf digit.val) = false ∧
      Text.digitOf digit.val ∉ ['[', '\x7b', '"', 'n', 't', 'f', '-', ']'] := by decide
  exact each ⟨digit, small⟩

/-- A number is read from its first digit on, once everything else that a value may begin with is
ruled out. -/
theorem readValue_digit (room : Nat) {first : Nat} (small : first < 10) (text : List Char) :
    readValue room (Text.digitOf first :: text) =
      (readAfterDigit false first text).bind fun part =>
        .ok ⟨.number part.value, part.rest, Nat.lt_succ_of_le part.notLonger⟩ := by
  obtain ⟨noBlank, noOther⟩ := digitOf_begins small
  simp only [List.mem_cons, not_or] at noOther
  rw [readValue]
  split
  · rename_i found
    simp [skipBlanks_cons noBlank] at found
  · rename_i c rest found
    rw [skipBlanks_cons noBlank] at found
    obtain ⟨rfl, rfl⟩ := List.cons.inj found
    simp only [noOther, if_false, Text.digitValue?_digitOf small, bind]
    rfl

/-- A number is read from its minus on, behind which a digit has to stand. -/
theorem readValue_minus (room : Nat) {first : Nat} (small : first < 10) (text : List Char) :
    readValue room ('-' :: Text.digitOf first :: text) =
      (readAfterDigit true first text).bind fun part =>
        .ok ⟨.number part.value, part.rest,
          Nat.lt_succ_of_lt (Nat.lt_succ_of_le part.notLonger)⟩ := by
  rw [readValue]
  simp only [skipBlanks, isBlank, Char.reduceBEq, Bool.or_self, Bool.false_eq_true, ↓dreduceIte,
    Char.reduceEq, ↓reduceIte, readUnsigned, Text.digitValue?_digitOf small, bind]
  cases readAfterDigit true first text <;> rfl

/-- The text of whole digits, behind a minus or behind nothing. -/
def wholeText (negative : Bool) (digits : List Nat) : List Char :=
  if negative then '-' :: digits.map Text.digitOf else digits.map Text.digitOf

/-- Whole digits are read as the number that they are of, and refused if they are of none. Integers
are the case in which there is such a number and it has no exponent. -/
theorem readValue_whole (room : Nat) (negative : Bool) {first : Nat} {others : List Nat}
    (small : ∀ digit ∈ first :: others, digit < 10) (lead : first = 0 → others = [])
    (ends : EndsNumeral after) :
    (∀ number, (Numeral.ofDigits negative (first :: others)).number? = some number →
      Yields (readValue room (wholeText negative (first :: others) ++ after)) (.number number)
        after) ∧
      ((Numeral.ofDigits negative (first :: others)).number? = none →
        ∃ failure, readValue room (wholeText negative (first :: others) ++ after) =
          .error failure) := by
  obtain ⟨smallFirst, smallOthers⟩ := List.forall_mem_cons.mp small
  obtain ⟨part, failure, parts, read⟩ := readAfterDigit_map negative smallOthers lead ends
  constructor
  · intro number denoted
    obtain ⟨value, left⟩ := parts number
    rw [denoted] at read
    cases negative with
    | true =>
      rw [wholeText, if_pos rfl, List.map_cons, List.cons_append, List.cons_append,
        readValue_minus room smallFirst, read]
      exact .of_step (congrArg Value.number value) left
    | false =>
      rw [wholeText, if_neg Bool.false_ne_true, List.map_cons, List.cons_append,
        readValue_digit room smallFirst, read]
      exact .of_step (congrArg Value.number value) left
  · intro refused
    rw [refused] at read
    cases negative with
    | true =>
      rw [wholeText, if_pos rfl, List.map_cons, List.cons_append, List.cons_append,
        readValue_minus room smallFirst, read]
      exact ⟨failure, rfl⟩
    | false =>
      rw [wholeText, if_neg Bool.false_ne_true, List.map_cons, List.cons_append,
        readValue_digit room smallFirst, read]
      exact ⟨failure, rfl⟩

/-- An integer is written as whole digits, of which a zero is the first only if it is the only one.
They are of that integer. -/
theorem write_integer (n : Integer) :
    ∃ negative first others,
      (∀ after, write (.number (.integer n)) after =
        wholeText negative (first :: others) ++ after) ∧
      (∀ digit ∈ first :: others, digit < 10) ∧ (first = 0 → others = []) ∧
      (Numeral.ofDigits negative (first :: others)).number? = some (.integer n) := by
  obtain ⟨first, others, split, lead⟩ := Text.digits_eq_cons n.val.natAbs
  refine ⟨decide (n.val < 0), first, others, ?_, ?_, lead, ?_⟩
  · intro after
    rw [write, writeNumber, Text.signedDecimal, Text.decimal_eq_map_digits, split, wholeText]
    simp only [decide_eq_true_eq]
  · intro digit listed
    exact Text.lt_ten_of_mem_digits n.val.natAbs (split ▸ listed)
  · rw [← split]
    exact number?_digits n

/-- An integer is read back where its numeral ends. If digits followed, they would be taken as part
of it. -/
theorem readValue_integer (room : Nat) (n : Integer) (ends : EndsNumeral after) :
    Yields (readValue room (write (.number (.integer n)) after)) (.number (.integer n)) after := by
  obtain ⟨negative, first, others, written, small, lead, denoted⟩ := write_integer n
  rw [written]
  exact (readValue_whole room negative small lead ends).1 _ denoted

/-- An array fits if there is room for it around its elements. The room is counted down as the
bracket opens, and refusing it there is what nesting too deeply means. -/
theorem readValue_array {depth : Nat} {elements : List Value}
    (fits : ∀ room, Fits (depth ≤ room) (readArray room text) elements rest) (room : Nat) :
    Fits (depth + 1 ≤ room) (readValue room ('[' :: text)) (.array elements) rest := by
  rw [readValue]
  simp only [skipBlanks, isBlank, Char.reduceBEq, Bool.or_self, Bool.false_eq_true, ↓dreduceIte,
    ↓reduceIte]
  cases room with
  | zero => exact ⟨fun enough => absurd enough (by omega), fun _ => ⟨_, rfl, rfl⟩⟩
  | succ room =>
    refine Fits.of_iff Nat.add_le_add_iff_right ?_
    exact (fits room).map fun _ => yields_ok _

/-- An object fits if there is room for it around its members. The room is counted down as the brace
opens, as it is for an array. -/
theorem readValue_object {depth : Nat} {members : Members}
    (fits : ∀ room, Fits (depth ≤ room) (readObject room text) members rest) (room : Nat) :
    Fits (depth + 1 ≤ room) (readValue room ('\x7b' :: text)) (.object members) rest := by
  rw [readValue]
  simp only [skipBlanks, isBlank, Char.reduceBEq, Bool.or_self, Bool.false_eq_true, ↓dreduceIte,
    Char.reduceEq, ↓reduceIte]
  cases room with
  | zero => exact ⟨fun enough => absurd enough (by omega), fun _ => ⟨_, rfl, rfl⟩⟩
  | succ room =>
    refine Fits.of_iff Nat.add_le_add_iff_right ?_
    exact (fits room).map fun _ => yields_ok _

/-- What is written for a value begins with neither a blank nor a closing bracket. So an array that
has elements is not taken for an empty one. -/
theorem write_eq_cons {value : Value} (floatless : value.Floatless) (after : List Char) :
    ∃ c rest, write value after = c :: rest ∧ isBlank c = false ∧ c ≠ ']' := by
  cases value with
  | null => exact ⟨'n', _, by rw [write], by decide, by decide⟩
  | boolean b => cases b <;> exact ⟨_, _, rfl, by decide, by decide⟩
  | number n =>
    cases n with
    | float x => exact absurd floatless (by simp [Value.Floatless])
    | integer n =>
      by_cases negative : n.val < 0
      · rw [write, writeNumber, Text.signedDecimal, if_pos negative]
        exact ⟨'-', _, rfl, by decide, by decide⟩
      · obtain ⟨first, others, split, _⟩ := Text.digits_eq_cons n.val.natAbs
        have small : first < 10 :=
          Text.lt_ten_of_mem_digits n.val.natAbs (by rw [split]; exact List.mem_cons_self)
        obtain ⟨noBlank, noOther⟩ := digitOf_begins small
        simp only [List.mem_cons, not_or] at noOther
        rw [write, writeNumber, Text.signedDecimal, if_neg negative,
          Text.decimal_eq_map_digits, split]
        exact ⟨_, _, rfl, noBlank, by simp only [noOther, ne_eq, not_false_eq_true]⟩
  | string s => exact ⟨'"', _, by rw [write, writeString], by decide, by decide⟩
  | array elements => cases elements <;> exact ⟨'[', _, by rw [write], by decide, by decide⟩
  | object members =>
    rcases members with _ | ⟨⟨key, value⟩, others⟩
    all_goals exact ⟨'\x7b', _, by rw [write], by decide, by decide⟩

/-- A numeral ends where other elements or the closing bracket follow, for what comes first is a
comma or the bracket. -/
theorem endsNumeral_writeElements (elements : List Value) (after : List Char) :
    EndsNumeral (writeElements elements after) := by
  cases elements
  all_goals
    rw [writeElements]
    rintro c rest ⟨⟩
    decide

/-- A numeral ends where other members or the closing brace follow, for what comes first is a comma
or the brace. -/
theorem endsNumeral_writeMembers (members : Members) (after : List Char) :
    EndsNumeral (writeMembers members after) := by
  rcases members with _ | ⟨⟨key, value⟩, others⟩
  all_goals
    rw [writeMembers]
    rintro c rest ⟨⟩
    decide

/-- The elements of an array are read from the first of them on, if its bracket is not closed at
once. -/
theorem readArray_cons (room : Nat) {c : Char} (begins : skipBlanks text = c :: rest)
    (noEnd : c ≠ ']') : readArray room text = readElements room text := by
  rw [readArray]
  split
  · rename_i found
    simp [begins] at found
  · rename_i first others found
    rw [begins] at found
    obtain ⟨rfl, rfl⟩ := List.cons.inj found
    rw [if_neg noEnd]

/-- The last element of an array is read up to the bracket. What was read of the element says where
the bracket is to be looked for. -/
theorem readElements_last {room : Nat} {enough : Prop} {value : Value} {behind : List Char}
    (fits : Fits enough (readValue room text) value behind)
    (bracket : skipBlanks behind = ']' :: after) :
    Fits enough (readElements room text) [value] after := by
  rw [readElements]
  refine fits.map fun shorter => ?_
  split
  · rename_i found
    simp [bracket] at found
  · rename_i mark others found
    rw [bracket] at found
    obtain ⟨rfl, rfl⟩ := List.cons.inj found
    simp only [if_true]
    exact yields_ok _

/-- An element is read up to the comma, and the others are read behind it. Behind the comma there
must be another element, as a bracket would be refused there. -/
theorem readElements_cons {room : Nat} {enough enoughBehind : Prop} {value : Value}
    {others : List Value} {behind next : List Char} {c : Char}
    (fits : Fits enough (readValue room text) value behind)
    (comma : skipBlanks behind = ',' :: next) (begins : skipBlanks next = c :: rest)
    (noEnd : c ≠ ']') (fitsBehind : Fits enoughBehind (readElements room next) others after) :
    Fits (enough ∧ enoughBehind) (readElements room text) (value :: others) after := by
  rw [readElements]
  refine fits.bind fun shorter => ?_
  have goesOn : ¬ (skipBlanks next).head? = some ']' := by
    simpa only [begins, List.head?_cons, Option.some.injEq] using noEnd
  split
  · rename_i found
    simp [comma] at found
  · rename_i mark rest found
    rw [comma] at found
    obtain ⟨rfl, rfl⟩ := List.cons.inj found
    simp only [Char.reduceEq, if_false, if_true, goesOn]
    exact fitsBehind.map fun _ => yields_ok _

/-- The members of an object are read from inside the first key on, if its brace is not closed at
once. -/
theorem readObject_cons {room : Nat} {enough : Prop} {members : Members}
    (quote : skipBlanks text = '"' :: rest)
    (fits : Fits enough (readMembers room rest) members after) :
    Fits enough (readObject room text) members after := by
  rw [readObject]
  split
  · rename_i found
    simp [quote] at found
  · rename_i mark found
    rw [quote] at found
    obtain ⟨rfl, rfl⟩ := List.cons.inj found
    simp only [Char.reduceEq, if_false, if_true]
    exact fits.map fun _ => yields_ok _

/-- The key and the value of a member are read up to what ends it. The key needs no room, so the
value alone decides whether the member fits. -/
theorem readMembers_last {room : Nat} {enough : Prop} (key : String) {value : Value}
    {behind : List Char} (fits : Fits enough (readValue room text) value behind)
    (brace : skipBlanks behind = '\x7d' :: after) :
    Fits enough (readMembers room (writeCharacters key.toList (':' :: text))) [(key, value)]
      after := by
  have readKey := readCharacters_write key.toList (':' :: text)
  rw [readMembers]
  refine .behind readKey fun shorter => ?_
  simp only [skipBlanks, isBlank, Char.reduceBEq, Bool.or_self, Bool.false_eq_true, ↓dreduceIte,
    ↓reduceIte]
  refine fits.map fun shorter => ?_
  split
  · rename_i found
    simp [brace] at found
  · rename_i mark rest found
    rw [brace] at found
    obtain ⟨rfl, rfl⟩ := List.cons.inj found
    simp only [if_true]
    exact .of_step (by simp [Text.Step.andThen, Text.Step.within]) rfl

/-- A member is read up to the comma, and the others are read behind it. Behind the comma there must
be another key, as a brace would be refused there. -/
theorem readMembers_cons {room : Nat} {enough enoughBehind : Prop} (key : String) {value : Value}
    {others : Members} {behind next : List Char}
    (fits : Fits enough (readValue room text) value behind)
    (comma : skipBlanks behind = ',' :: next) (quote : skipBlanks next = '"' :: rest)
    (fitsBehind : Fits enoughBehind (readMembers room rest) others after) :
    Fits (enough ∧ enoughBehind) (readMembers room (writeCharacters key.toList (':' :: text)))
      ((key, value) :: others) after := by
  have readKey := readCharacters_write key.toList (':' :: text)
  rw [readMembers]
  refine .behind readKey fun shorter => ?_
  simp only [skipBlanks, isBlank, Char.reduceBEq, Bool.or_self, Bool.false_eq_true, ↓dreduceIte,
    ↓reduceIte]
  refine fits.bind fun shorter => ?_
  split
  · rename_i found
    simp [comma] at found
  · rename_i mark found
    rw [comma] at found
    obtain ⟨rfl, rfl⟩ := List.cons.inj found
    simp only [Char.reduceEq, if_false, if_true]
    split
    · rename_i found
      simp [quote] at found
    · rename_i mark found
      rw [quote] at found
      obtain ⟨rfl, rfl⟩ := List.cons.inj found
      simp only [if_true]
      refine fitsBehind.map fun shorter => ?_
      exact .of_step (by simp [Text.Step.andThen, Text.Step.within]) rfl

mutual

/-- A value is read back from its text if there is room for the containers that it nests. The
recursion is on the value, with the room and the text behind it held general, since both change on
the way down. -/
theorem readValue_write : (value : Value) → value.Floatless → (room : Nat) →
    (after : List Char) → EndsNumeral after →
      Fits (value.depth ≤ room) (readValue room (write value after)) value after
  | .null, _, room, after, _ => (readValue_null room after).fits.of_iff (by simp [Value.depth])
  | .boolean b, _, room, after, _ =>
    (readValue_boolean room b after).fits.of_iff (by simp [Value.depth])
  | .number (.integer n), _, room, after, ends =>
    (readValue_integer room n ends).fits.of_iff (by simp [Value.depth])
  | .number (.float _), floatless, _, _, _ => absurd floatless (by simp [Value.Floatless])
  | .string s, _, room, after, _ =>
    (readValue_string room s after).fits.of_iff (by simp [Value.depth])
  | .array [], _, room, after, _ => by
    rw [Value.depth, write]
    refine readValue_array (fun room => ?_) room
    rw [readArray]
    simp only [skipBlanks, isBlank, Char.reduceBEq, Bool.or_self, Bool.false_eq_true, ↓dreduceIte,
      ↓reduceIte]
    exact (yields_ok _).fits.of_iff (by simp [depthOfElements])
  | .array (first :: others), floatless, room, after, _ => by
    rw [Value.depth, write]
    refine readValue_array (fun room => ?_) room
    have fits := readElements_write first others floatless.1 floatless.2 room after
    obtain ⟨c, rest, begins, noBlank, noEnd⟩ :=
      write_eq_cons floatless.1 (writeElements others after)
    rw [begins] at fits ⊢
    rw [readArray_cons room (skipBlanks_cons noBlank rest) noEnd]
    exact fits
  | .object [], _, room, after, _ => by
    rw [Value.depth, write]
    refine readValue_object (fun room => ?_) room
    rw [readObject]
    simp only [skipBlanks, isBlank, Char.reduceBEq, Bool.or_self, Bool.false_eq_true, ↓dreduceIte,
      ↓reduceIte]
    exact ⟨fun _ => yields_ok _, fun never => absurd (by simp [depthOfMembers]) never⟩
  | .object ((key, value) :: others), floatless, room, after, _ => by
    rw [Value.depth, write]
    refine readValue_object (fun room => ?_) room
    exact readObject_cons rfl
      (readMembers_write key value others floatless.1 floatless.2 room after)
termination_by value => sizeOf value

/-- Elements are read back from their text up to the bracket. The recursion is on the elements
behind the first, since the last one is followed by no comma. -/
theorem readElements_write (first : Value) : (others : List Value) → first.Floatless →
    ElementsFloatless others → (room : Nat) → (after : List Char) →
      Fits (depthOfElements (first :: others) ≤ room)
        (readElements room (write first (writeElements others after))) (first :: others) after
  | [], floatless, _, room, after => by
    have fits := readValue_write first floatless room _ (endsNumeral_writeElements [] after)
    rw [writeElements] at fits ⊢
    refine (readElements_last fits rfl).of_iff ?_
    simp only [depthOfElements, Nat.max_zero]
  | second :: others, floatless, floatlessBehind, room, after => by
    have fits := readValue_write first floatless room _
      (endsNumeral_writeElements (second :: others) after)
    have fitsBehind :=
      readElements_write second others floatlessBehind.1 floatlessBehind.2 room after
    obtain ⟨c, rest, begins, noBlank, noEnd⟩ :=
      write_eq_cons floatlessBehind.1 (writeElements others after)
    rw [writeElements, begins] at fits ⊢
    rw [begins] at fitsBehind
    refine (readElements_cons fits rfl (skipBlanks_cons noBlank rest) noEnd fitsBehind).of_iff ?_
    rw [depthOfElements, Nat.max_le]
termination_by others => sizeOf first + sizeOf others

/-- Members are read back from their text, from inside the first key up to the brace. The recursion
is on the members behind the first. -/
theorem readMembers_write (key : String) (value : Value) : (others : Members) →
    value.Floatless → MembersFloatless others → (room : Nat) → (after : List Char) →
      Fits (depthOfMembers ((key, value) :: others) ≤ room)
        (readMembers room
          (writeCharacters key.toList (':' :: write value (writeMembers others after))))
        ((key, value) :: others) after
  | [], floatless, _, room, after => by
    have fits := readValue_write value floatless room _ (endsNumeral_writeMembers [] after)
    rw [writeMembers] at fits ⊢
    refine (readMembers_last key fits rfl).of_iff ?_
    simp only [depthOfMembers, Nat.max_zero]
  | (secondKey, second) :: others, floatless, floatlessBehind, room, after => by
    have fits := readValue_write value floatless room _
      (endsNumeral_writeMembers ((secondKey, second) :: others) after)
    have fitsBehind := readMembers_write secondKey second others floatlessBehind.1
      floatlessBehind.2 room after
    rw [writeMembers, writeString] at fits ⊢
    refine (readMembers_cons key fits rfl rfl fitsBehind).of_iff ?_
    rw [depthOfMembers, Nat.max_le]
termination_by others => sizeOf value + sizeOf others

end

/-- A value is read back from its text exactly if no more containers are nested than may be open at
once; otherwise that is why it is refused. Nothing stands behind the value, which is how a whole
text has to end. -/
theorem read_compact {value : Value} (floatless : value.Floatless) :
    (value.depth ≤ nestingLimit → read (compact value) = .ok value) ∧
      (nestingLimit < value.depth →
        ∃ error, read (compact value) = .error error ∧ error.reason = .nestedTooDeeply) := by
  have fits := readValue_write value floatless nestingLimit [] (by rintro c rest ⟨⟩)
  have text : (compact value).toList = write value [] := String.toList_ofList
  constructor
  · intro enough
    obtain ⟨shorter, readWhole⟩ := fits.yields enough
    have root : readRoot (write value []) = .ok value := by
      simp only [readRoot, readWhole, bind, Except.bind, skipBlanks]
    rw [Json.read, text, root]
  · intro deep
    obtain ⟨failure, readWhole, reason⟩ := fits.refused (Nat.not_le_of_lt deep)
    have root : readRoot (write value []) = .error failure := by
      simp only [readRoot, readWhole, bind, Except.bind]
    refine ⟨failure.inText (write value []), ?_, reason⟩
    rw [Json.read, text, root]

end EsqlTree.Json
