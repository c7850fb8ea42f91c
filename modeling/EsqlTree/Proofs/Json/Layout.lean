import EsqlTree.Proofs.Json.Rereading

/-!
# Values laid out over lines

A text that is laid out over lines is the text without blanks, with line ends and spaces
between the tokens. The reader skips these in every place where they stand, so a value is read
back from its lines under the same condition as from its text without blanks.
-/

namespace EsqlTree.Json

variable {α : Type} {text other rest after : List Char}

/-- A space is skipped, as one of the four blanks. -/
theorem skipBlanks_space (after : List Char) : skipBlanks (' ' :: after) = skipBlanks after := by
  rw [skipBlanks, if_pos (by decide)]

/-- The indentation of a line is skipped: its line end, and all the spaces behind it. -/
theorem skipBlanks_newLine (level : Nat) (after : List Char) :
    skipBlanks (newLine level after) = skipBlanks after := by
  have spaces (count : Nat) :
      skipBlanks (List.replicate count ' ' ++ after) = skipBlanks after := by
    induction count with
    | zero => rfl
    | succ count inFewer =>
      rw [List.replicate_succ, List.cons_append, skipBlanks_space, inFewer]
  rw [newLine, skipBlanks, if_pos (by decide), spaces]

/-- A numeral ends where a line does, because a line end is neither a digit nor a point nor an
exponent mark. -/
theorem endsNumeral_newLine (level : Nat) (after : List Char) :
    EndsNumeral (newLine level after) := by
  rw [newLine]
  rintro c rest ⟨⟩
  decide

/-- What was read of a value, without the fact that the rest is shorter. -/
def seen (result : Except Failure (Text.Step text α)) : Except Failure (α × List Char) :=
  result.map fun step => (step.value, step.rest)

/-- What was read is seen alike if what comes of it is. A step that two readers have in common may
be taken off both. -/
theorem seen_bind_eq {β : Type} {first : Except Failure β}
    {next : β → Except Failure (Text.Step text α)}
    {nextOther : β → Except Failure (Text.Step other α)}
    (same : ∀ read, seen (next read) = seen (nextOther read)) :
    seen (first >>= next) = seen (first >>= nextOther) := by
  cases first with
  | error failure => rfl
  | ok read => exact same read

/-- A value is read alike behind other blanks. Reading begins by skipping them, and goes on with
what is left; only the facts about lengths are others. -/
theorem seen_readValue_eq (room : Nat) (same : skipBlanks text = skipBlanks other) :
    seen (readValue room text) = seen (readValue room other) := by
  obtain ⟨result, read⟩ : ∃ result, result = readValue room other := ⟨_, rfl⟩
  rw [← read, readValue]
  rw [readValue] at read
  split <;> rename_i found <;> split at read <;> rename_i foundOther <;>
    simp only [found, foundOther, reduceCtorEq] at same
  · rw [read]
    rfl
  · obtain ⟨rfl, rfl⟩ := List.cons.inj same
    subst read
    -- The texts differ, and with them the facts that the rests are shorter; nothing else does.
    split_ifs
    any_goals exact seen_bind_eq fun _ => rfl
    · cases room with
      | zero => rfl
      | succ room => exact seen_bind_eq fun _ => rfl
    · cases room with
      | zero => rfl
      | succ room => exact seen_bind_eq fun _ => rfl
    · split
      · exact seen_bind_eq fun _ => rfl
      · rfl

/-- What fits behind some blanks fits behind others. So the laws of the text without blanks need not
be proved again for every place where one may stand. -/
theorem Fits.of_skipBlanks {room : Nat} {enough : Prop} {value : Value}
    (fits : Fits enough (readValue room other) value rest)
    (same : skipBlanks text = skipBlanks other) :
    Fits enough (readValue room text) value rest := by
  have alike := seen_readValue_eq room same
  constructor
  · intro held
    obtain ⟨shorter, read⟩ := fits.yields held
    rw [read] at alike
    cases readText : readValue room text with
    | error failure => simp [readText, seen, Except.map] at alike
    | ok step =>
      simp only [readText, seen, Except.map, Except.ok.injEq, Prod.mk.injEq] at alike
      exact .of_step alike.1 alike.2
  · intro failed
    obtain ⟨failure, read, reason⟩ := fits.refused failed
    rw [read] at alike
    cases readText : readValue room text with
    | error other =>
      simp only [readText, seen, Except.map, Except.error.injEq] at alike
      exact ⟨other, rfl, alike ▸ reason⟩
    | ok step => simp [readText, seen, Except.map] at alike

/-- What is laid out for a value begins as its text without blanks does, because lines are only
ended behind an opening bracket or brace. -/
theorem writePretty_eq_cons {value : Value} (floatless : value.Floatless) (level : Nat)
    (after : List Char) :
    ∃ c rest, writePretty level value after = c :: rest ∧ isBlank c = false ∧ c ≠ ']' := by
  cases value with
  | array elements =>
    cases elements <;> exact ⟨'[', _, by rw [writePretty], by decide, by decide⟩
  | object members =>
    rcases members with _ | ⟨⟨key, value⟩, others⟩
    all_goals exact ⟨'\x7b', _, by rw [writePretty], by decide, by decide⟩
  | _ => exact write_eq_cons floatless after

/-- What is laid out for a value is found behind an indentation, and it does not begin as the end of
an array does. -/
theorem skipBlanks_newLine_writePretty {value : Value} (floatless : value.Floatless)
    (level inner : Nat) (after : List Char) :
    ∃ c rest, skipBlanks (newLine level (writePretty inner value after)) = c :: rest ∧
      c ≠ ']' := by
  obtain ⟨c, rest, begins, noBlank, noEnd⟩ := writePretty_eq_cons floatless inner after
  rw [skipBlanks_newLine, begins, skipBlanks_cons noBlank]
  exact ⟨c, rest, rfl, noEnd⟩

/-- A key is found behind an indentation, beginning with its quote. -/
theorem skipBlanks_newLine_writeString (level : Nat) (key : String) (after : List Char) :
    skipBlanks (newLine level (writeString key after)) =
      '"' :: writeCharacters key.toList after := by
  rw [skipBlanks_newLine, writeString, skipBlanks_cons (by decide)]

/-- A numeral ends where other elements or the line of the closing bracket follow, for a comma or a
line end comes first. -/
theorem endsNumeral_writePrettyElements (level : Nat) (elements : List Value) (after : List Char) :
    EndsNumeral (writePrettyElements level elements after) := by
  cases elements with
  | nil => exact endsNumeral_newLine level _
  | cons element others =>
    rw [writePrettyElements]
    rintro c rest ⟨⟩
    decide

/-- A numeral ends where other members or the line of the closing brace follow, for a comma or a
line end comes first. -/
theorem endsNumeral_writePrettyMembers (level : Nat) (members : Members) (after : List Char) :
    EndsNumeral (writePrettyMembers level members after) := by
  rcases members with _ | ⟨⟨key, value⟩, others⟩
  · exact endsNumeral_newLine level _
  · rw [writePrettyMembers]
    rintro c rest ⟨⟩
    decide

mutual

/-- A value is read back from its lines if there is room for the containers that it nests. A
container with elements or members is the only one that has lines of its own; for the others this is
the law of the text without blanks. -/
theorem readValue_writePretty : (value : Value) → value.Floatless → (level room : Nat) →
    (after : List Char) → EndsNumeral after →
      Fits (value.depth ≤ room) (readValue room (writePretty level value after)) value after
  -- Without elements and members a value has one line, and this is its text without blanks.
  | .null, floatless, _, room, after, ends => readValue_write .null floatless room after ends
  | .boolean b, floatless, _, room, after, ends =>
    readValue_write (.boolean b) floatless room after ends
  | .number n, floatless, _, room, after, ends =>
    readValue_write (.number n) floatless room after ends
  | .string s, floatless, _, room, after, ends =>
    readValue_write (.string s) floatless room after ends
  | .array [], floatless, _, room, after, ends =>
    readValue_write (.array []) floatless room after ends
  | .array (first :: others), floatless, level, room, after, _ => by
    rw [Value.depth, writePretty]
    refine readValue_array (fun room => ?_) room
    obtain ⟨c, rest, begins, noEnd⟩ := skipBlanks_newLine_writePretty floatless.1 (level + 1)
      (level + 1) (writePrettyElements level others after)
    rw [readArray_cons room begins noEnd]
    exact readElements_writePretty first others floatless.1 floatless.2 level room after
  | .object [], floatless, _, room, after, ends =>
    readValue_write (.object []) floatless room after ends
  | .object ((key, value) :: others), floatless, level, room, after, _ => by
    rw [Value.depth, writePretty]
    refine readValue_object (fun room => ?_) room
    exact readObject_cons (skipBlanks_newLine_writeString _ _ _)
      (readMembers_writePretty key value others floatless.1 floatless.2 level room after)
termination_by value => sizeOf value

/-- Elements are read back from their lines up to the bracket. The recursion is on the elements
behind the first, since the last one is followed by no comma. -/
theorem readElements_writePretty (first : Value) : (others : List Value) → first.Floatless →
    ElementsFloatless others → (level room : Nat) → (after : List Char) →
      Fits (depthOfElements (first :: others) ≤ room)
        (readElements room (newLine (level + 1)
          (writePretty (level + 1) first (writePrettyElements level others after))))
        (first :: others) after
  | [], floatless, _, level, room, after => by
    have fits := readValue_writePretty first floatless (level + 1) room _
      (endsNumeral_writePrettyElements level [] after)
    have bracket : skipBlanks (writePrettyElements level [] after) = ']' :: after := by
      rw [writePrettyElements, skipBlanks_newLine, skipBlanks_cons (by decide)]
    refine (readElements_last (fits.of_skipBlanks (skipBlanks_newLine _ _)) bracket).of_iff ?_
    simp only [depthOfElements, Nat.max_zero]
  | second :: others, floatless, floatlessBehind, level, room, after => by
    have fits := readValue_writePretty first floatless (level + 1) room _
      (endsNumeral_writePrettyElements level (second :: others) after)
    have fitsBehind := readElements_writePretty second others floatlessBehind.1
      floatlessBehind.2 level room after
    obtain ⟨c, rest, begins, noEnd⟩ := skipBlanks_newLine_writePretty floatlessBehind.1
      (level + 1) (level + 1) (writePrettyElements level others after)
    have comma : skipBlanks (writePrettyElements level (second :: others) after) =
        ',' :: newLine (level + 1) (writePretty (level + 1) second
          (writePrettyElements level others after)) := by
      rw [writePrettyElements, skipBlanks_cons (by decide)]
    refine (readElements_cons (fits.of_skipBlanks (skipBlanks_newLine _ _)) comma begins noEnd
      fitsBehind).of_iff ?_
    rw [depthOfElements, Nat.max_le]
termination_by others => sizeOf first + sizeOf others

/-- Members are read back from their lines, from inside the first key up to the brace. The space
behind the colon is skipped as the indentation is. -/
theorem readMembers_writePretty (key : String) (value : Value) : (others : Members) →
    value.Floatless → MembersFloatless others → (level room : Nat) → (after : List Char) →
      Fits (depthOfMembers ((key, value) :: others) ≤ room)
        (readMembers room (writeCharacters key.toList (':' :: ' ' ::
          writePretty (level + 1) value (writePrettyMembers level others after))))
        ((key, value) :: others) after
  | [], floatless, _, level, room, after => by
    have fits := readValue_writePretty value floatless (level + 1) room _
      (endsNumeral_writePrettyMembers level [] after)
    have brace : skipBlanks (writePrettyMembers level [] after) = '\x7d' :: after := by
      rw [writePrettyMembers, skipBlanks_newLine, skipBlanks_cons (by decide)]
    refine (readMembers_last key (fits.of_skipBlanks (skipBlanks_space _)) brace).of_iff ?_
    simp only [depthOfMembers, Nat.max_zero]
  | (secondKey, second) :: others, floatless, floatlessBehind, level, room, after => by
    have fits := readValue_writePretty value floatless (level + 1) room _
      (endsNumeral_writePrettyMembers level ((secondKey, second) :: others) after)
    have fitsBehind := readMembers_writePretty secondKey second others floatlessBehind.1
      floatlessBehind.2 level room after
    have comma : skipBlanks (writePrettyMembers level ((secondKey, second) :: others) after) =
        ',' :: newLine (level + 1) (writeString secondKey (':' :: ' ' ::
          writePretty (level + 1) second (writePrettyMembers level others after))) := by
      rw [writePrettyMembers, skipBlanks_cons (by decide)]
    refine (readMembers_cons key (fits.of_skipBlanks (skipBlanks_space _)) comma
      (skipBlanks_newLine_writeString _ _ _) fitsBehind).of_iff ?_
    rw [depthOfMembers, Nat.max_le]
termination_by others => sizeOf value + sizeOf others

end

/-- A string is written in front of whatever follows, which is not looked at. -/
theorem writeString_append (s : String) (after more : List Char) :
    writeString s (after ++ more) = writeString s after ++ more := by
  have characters (cs : List Char) :
      writeCharacters cs (after ++ more) = writeCharacters cs after ++ more := by
    induction cs with
    | nil => rfl
    | cons c cs inOthers => rw [writeCharacters, writeCharacters, inOthers, List.append_assoc]
  rw [writeString, writeString, characters, List.cons_append]

/-- A line is written in front of whatever follows, which is not looked at. -/
theorem newLine_append (level : Nat) (after more : List Char) :
    newLine level (after ++ more) = newLine level after ++ more := by
  rw [newLine, newLine, List.cons_append, List.append_assoc]

mutual

/-- A value is laid out in front of whatever follows. The text that is to follow is a parameter of
writing, and this says that it is only put behind. -/
theorem writePretty_append (more : List Char) : (value : Value) → (level : Nat) →
    (after : List Char) →
      writePretty level value (after ++ more) = writePretty level value after ++ more
  | .null, _, _ => rfl
  | .boolean b, _, _ => by cases b <;> rfl
  | .number (.integer n), _, _ => (List.append_assoc _ _ _).symm
  | .number (.float x), _, _ => (List.append_assoc _ _ _).symm
  | .string s, _, after => writeString_append s after more
  | .array [], _, _ => rfl
  | .array (first :: others), level, after => by
    rw [writePretty, writePretty, writePrettyElements_append, writePretty_append, newLine_append,
      List.cons_append]
  | .object [], _, _ => rfl
  | .object ((key, value) :: others), level, after => by
    rw [writePretty, writePretty, writePrettyMembers_append, writePretty_append,
      ← List.cons_append, ← List.cons_append, writeString_append, newLine_append, List.cons_append]

/-- Elements are laid out in front of whatever follows, which stands behind their bracket. -/
theorem writePrettyElements_append (more : List Char) : (elements : List Value) → (level : Nat) →
    (after : List Char) → writePrettyElements level elements (after ++ more) =
      writePrettyElements level elements after ++ more
  | [], level, after => by
    rw [writePrettyElements, writePrettyElements, ← List.cons_append, newLine_append]
  | element :: others, level, after => by
    rw [writePrettyElements, writePrettyElements, writePrettyElements_append, writePretty_append,
      newLine_append, List.cons_append]

/-- Members are laid out in front of whatever follows, which stands behind their brace. -/
theorem writePrettyMembers_append (more : List Char) : (members : Members) → (level : Nat) →
    (after : List Char) → writePrettyMembers level members (after ++ more) =
      writePrettyMembers level members after ++ more
  | [], level, after => by
    rw [writePrettyMembers, writePrettyMembers, ← List.cons_append, newLine_append]
  | (key, value) :: others, level, after => by
    rw [writePrettyMembers, writePrettyMembers, writePrettyMembers_append, writePretty_append,
      ← List.cons_append, ← List.cons_append, writeString_append, newLine_append, List.cons_append]

end

/-- A value is read back from its lines, the last of which may be ended. What stands behind the
value is one blank, and a text may end in blanks. -/
theorem read_pretty {value : Value} (floatless : value.Floatless)
    (enough : value.depth ≤ nestingLimit) : read (pretty value ++ "\n") = .ok value := by
  have ends : EndsNumeral ['\n'] := by
    rintro c rest ⟨⟩
    decide
  have text : (pretty value ++ "\n").toList = writePretty 0 value ['\n'] := by
    rw [String.toList_append, pretty, String.toList_ofList]
    exact (writePretty_append ['\n'] value 0 []).symm
  obtain ⟨shorter, readWhole⟩ :=
    (readValue_writePretty value floatless 0 nestingLimit ['\n'] ends).yields enough
  have root : readRoot (writePretty 0 value ['\n']) = .ok value := by
    simp only [readRoot, readWhole, bind, Except.bind]
    rfl
  rw [Json.read, text, root]

end EsqlTree.Json
