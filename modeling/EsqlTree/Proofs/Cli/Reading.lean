import EsqlTree.Cli.Run

/-!
# What a run reads

A run reads at most one file for its settings, and one text for its tree. Said here is which
file that is, when bytes hold a text at all, and when a text gives settings or a tree. All of
it is said of the surroundings as they are and not of how a run goes about reading them. A run
has an answer exactly if it has settings and a tree, and otherwise it fails.
-/

namespace EsqlTree.Cli

/-- Bytes were read, and they are the encoding of a text. -/
def HoldText (bytes : Except ReadError ByteArray) (text : String) : Prop := bytes = .ok text.toUTF8

/-- No bytes were read, or they are the encoding of no text. -/
inductive HoldNoText : Except ReadError ByteArray → Prop where
  | unread (error : ReadError) : HoldNoText (.error error)
  | undecodable {bytes : ByteArray} (invalid : ¬ bytes.IsValidUTF8) : HoldNoText (.ok bytes)

variable {bytes : Except ReadError ByteArray}

/-- Bytes hold a text or none. Whether they do is decided by whether they are valid UTF-8. -/
theorem holdText_or_holdNoText (bytes : Except ReadError ByteArray) :
    (∃ text, HoldText bytes text) ∨ HoldNoText bytes := by
  cases bytes with
  | error error => exact .inr (.unread error)
  | ok bytes =>
    by_cases valid : bytes.IsValidUTF8
    · exact .inl ⟨.fromUTF8 bytes valid, by rw [HoldText, String.toUTF8_eq_toByteArray]; rfl⟩
    · exact .inr (.undecodable valid)

/-- The text that bytes hold is read, and decoding gives back what was encoded. -/
theorem HoldText.bind_textOf {text : String} (held : HoldText bytes text) :
    bytes >>= textOf = .ok text := by
  obtain rfl : bytes = .ok text.toUTF8 := held
  simp only [bind, Except.bind, textOf, String.fromUTF8?, String.toUTF8_eq_toByteArray,
    dif_pos text.isValidUTF8]
  rfl

/-- Nothing is read from bytes that hold no text, whether they could not be read or are not valid
UTF-8. -/
theorem HoldNoText.bind_textOf (missing : HoldNoText bytes) :
    ∃ error, bytes >>= textOf = .error error := by
  cases missing with
  | unread error => exact ⟨error, rfl⟩
  | undecodable invalid =>
    refine ⟨.notText, ?_⟩
    simp only [bind, Except.bind, textOf, String.fromUTF8?, dif_neg invalid]

/-- Only the text that bytes hold is read. So whether a text was read can be said of the bytes
alone. -/
theorem bind_textOf_eq_ok_iff (text : String) :
    bytes >>= textOf = .ok text ↔ HoldText bytes text := by
  constructor
  · intro read
    rcases holdText_or_holdNoText bytes with ⟨other, held⟩ | missing
    · rw [held.bind_textOf] at read
      exact Except.ok.inj read ▸ held
    · obtain ⟨error, refused⟩ := missing.bind_textOf
      rw [refused] at read
      contradiction
  · exact HoldText.bind_textOf

namespace Surroundings

/-- The file that is to give the settings: the one that is named, or else the first of the
usual ones that is there. -/
inductive Selects (surroundings : Surroundings) : Option String → String → Prop where
  | named (path : String) : Selects surroundings (some path) path
  | first (present : surroundings.isFile "./.esqlwalk.jsonc" = true) :
      Selects surroundings none "./.esqlwalk.jsonc"
  | second (absent : surroundings.isFile "./.esqlwalk.jsonc" = false)
      (present : surroundings.isFile "./.esqlwalk.json" = true) :
      Selects surroundings none "./.esqlwalk.json"

/-- The file at a path gives no settings: it cannot be read as a text, the text cannot be
parsed, or its value is not valid. -/
inductive BadConfiguration (surroundings : Surroundings) (path : String) : Prop where
  | unreadable (missing : HoldNoText (surroundings.bytesAt path))
  | unparsed {text : String} {refusal : Config.Refusal}
      (held : HoldText (surroundings.bytesAt path) text)
      (refused : Config.document text.toList = .error refusal)
  | invalid {text : String} {value : Json.Value} {mismatch : Json.Mismatch}
      (held : HoldText (surroundings.bytesAt path) text)
      (parsed : Config.document text.toList = .ok (some value))
      (mismatched : Settings.ofJson value = .error mismatch)

variable {surroundings : Surroundings}

/-- A file is selected exactly if a run takes its settings from there. The usual ones are looked for
in their order, and only if none is named. -/
theorem selects_iff (named : Option String) (path : String) :
    surroundings.Selects named path ↔ (named <|> surroundings.usualConfiguration?) = some path := by
  cases named with
  | some other =>
    constructor
    · rintro ⟨⟩
      rfl
    · rintro ⟨⟩
      exact .named path
  | none =>
    simp only [usualConfiguration?, usualConfigurations, List.find?_cons, List.find?_nil]
    constructor
    · rintro (_ | present | ⟨absent, present⟩)
      · simp [present]
      · simp [absent, present]
    · intro found
      cases first : surroundings.isFile "./.esqlwalk.jsonc" with
      | true =>
        obtain rfl : "./.esqlwalk.jsonc" = path := by simpa [first] using found
        exact .first first
      | false =>
        cases second : surroundings.isFile "./.esqlwalk.json" with
        | true =>
          obtain rfl : "./.esqlwalk.json" = path := by simpa [first, second] using found
          exact .second first second
        | false => simp [first, second] at found

/-- A file gives no settings exactly if it is bad. The three ways in which it can be are those in
which reading settings fails, one after another. -/
theorem settingsAt_eq_error_iff (path : String) :
    (∃ error, surroundings.settingsAt path = .error error) ↔
      surroundings.BadConfiguration path := by
  constructor
  · rintro ⟨error, failed⟩
    rcases holdText_or_holdNoText (surroundings.bytesAt path) with ⟨text, held⟩ | missing
    · rw [settingsAt, textAt, held.bind_textOf] at failed
      cases parsed : Config.document text.toList with
      | error refusal => exact .unparsed held parsed
      | ok value =>
        cases value with
        | none => simp [Settings.read, parsed] at failed
        | some value =>
          cases valid : Settings.ofJson value with
          | error mismatch => exact .invalid held parsed valid
          | ok settings => simp [Settings.read, parsed, valid] at failed
    · exact .unreadable missing
  · rintro (missing | ⟨held, refused⟩ | ⟨held, parsed, mismatched⟩)
    · obtain ⟨error, unread⟩ := missing.bind_textOf
      simp [settingsAt, textAt, unread]
    · simp [settingsAt, textAt, held.bind_textOf, Settings.read, refused]
    · simp [settingsAt, textAt, held.bind_textOf, Settings.read, parsed, mismatched]

/-- A file gives the settings that are read from its text, if it holds a text at all. -/
theorem settingsAt_eq_ok_iff (path : String) (settings : Settings) :
    surroundings.settingsAt path = .ok settings ↔
      ∃ text, HoldText (surroundings.bytesAt path) text ∧ Settings.read text = .ok settings := by
  constructor
  · intro given
    rcases holdText_or_holdNoText (surroundings.bytesAt path) with ⟨text, held⟩ | missing
    · rw [settingsAt, textAt, held.bind_textOf] at given
      cases valid : Settings.read text with
      | error error => simp [valid] at given
      | ok other => exact ⟨text, held, by simpa [valid] using given⟩
    · obtain ⟨error, failed⟩ := (settingsAt_eq_error_iff path).mpr (.unreadable missing)
      rw [failed] at given
      contradiction
  · rintro ⟨text, held, valid⟩
    simp only [settingsAt, textAt, held.bind_textOf, valid]

/-- A run takes its settings from the file that is selected, and looks at no other. -/
theorem Selects.settings_eq {named : Option String} {path : String}
    (selected : surroundings.Selects named path) :
    surroundings.settings named = surroundings.settingsAt path := by
  rw [settings, (selects_iff named path).mp selected]

/-- A run has no settings exactly if the selected file is bad. Where none is selected there are
always settings, those by default. -/
theorem settings_eq_error_iff (named : Option String) :
    (∃ error, surroundings.settings named = .error error) ↔
      ∃ path, surroundings.Selects named path ∧ surroundings.BadConfiguration path := by
  simp only [selects_iff, ← settingsAt_eq_error_iff, settings]
  cases (named <|> surroundings.usualConfiguration?) <;> simp

/-- The bytes from which the tree of a path is read. -/
def sourceBytes (surroundings : Surroundings) (path : String) : Except ReadError ByteArray :=
  if FilePath.isInput path then surroundings.input else surroundings.bytesAt path

/-- The text of a tree is that of its bytes, be they from a file or from the standard input. -/
theorem source_eq_bind (path : String) :
    surroundings.source path = surroundings.sourceBytes path >>= textOf := by
  rw [source, sourceBytes]
  split <;> rfl

/-- At a path there is the text of a tree. -/
def HoldsTree (surroundings : Surroundings) (path : String) (root : Root) : Prop :=
  ∃ text, HoldText (surroundings.sourceBytes path) text ∧ load text = .ok root

/-- At a path there is no tree: it cannot be read as a text, or the text is refused. -/
inductive BadSource (surroundings : Surroundings) (path : String) : Prop where
  | unreadable (missing : HoldNoText (surroundings.sourceBytes path))
  | refused {text : String} {error : LoadError}
      (held : HoldText (surroundings.sourceBytes path) text) (refused : load text = .error error)

end Surroundings

namespace Invocation

open Surroundings (BadSource)

variable {invocation : Invocation} {surroundings : Surroundings}

/-- The tree of a run is the one that is there: the bytes hold a text, and the text is loaded as the
tree. -/
theorem root_eq_ok_iff (root : Root) :
    invocation.root surroundings = .ok root ↔ surroundings.HoldsTree invocation.file root := by
  rw [Invocation.root, Surroundings.source_eq_bind]
  constructor
  · intro read
    split at read
    · rename_i text found
      refine ⟨text, (bind_textOf_eq_ok_iff text).mp found, ?_⟩
      rw [loadFrom] at read
      split at read
      · rename_i loaded
        rw [loaded]
        exact congrArg Except.ok (Except.ok.inj read)
      · contradiction
    · contradiction
  · rintro ⟨text, held, loaded⟩
    simp [held.bind_textOf, loadFrom, loaded]

/-- There is only one tree at a path, since a run reads one there. -/
theorem tree_unique {other root : Root} (held : surroundings.HoldsTree invocation.file root)
    (heldOther : surroundings.HoldsTree invocation.file other) : other = root :=
  Except.ok.inj (((root_eq_ok_iff other).mpr heldOther).symm.trans ((root_eq_ok_iff root).mpr held))

/-- A run has no tree exactly if there is none: the bytes hold no text, or the text is refused. -/
theorem root_eq_error_iff :
    (∃ error, invocation.root surroundings = .error error) ↔
      surroundings.BadSource invocation.file := by
  rw [Invocation.root, Surroundings.source_eq_bind]
  constructor
  · rintro ⟨error, failed⟩
    rcases holdText_or_holdNoText (surroundings.sourceBytes invocation.file) with
      ⟨text, held⟩ | missing
    · rw [held.bind_textOf] at failed
      cases loaded : load text with
      | error error => exact .refused held loaded
      | ok root => simp [loadFrom, loaded] at failed
    · exact .unreadable missing
  · rintro (missing | ⟨held, refused⟩)
    · obtain ⟨error, unread⟩ := missing.bind_textOf
      simp [unread]
    · simp [held.bind_textOf, loadFrom, refused]

/-- What can be seen of a run. -/
def outcome (invocation : Invocation) (surroundings : Surroundings) : Outcome :=
  .ofAnswer (invocation.answer surroundings)

/-- A run lacks what it needs: the selected configuration is bad, or there is no tree. -/
def Fails (invocation : Invocation) (surroundings : Surroundings) : Prop :=
  (∃ path, surroundings.Selects invocation.config path ∧ surroundings.BadConfiguration path) ∨
    surroundings.BadSource invocation.file

/-- A run has the settings and the tree that it needs. -/
structure Reads (invocation : Invocation) (surroundings : Surroundings) (settings : Settings)
    (root : Root) : Prop where
  /-- The settings are those of the selected configuration, if there is one. -/
  configured : surroundings.settings invocation.config = .ok settings
  /-- The tree is there. -/
  loaded : surroundings.HoldsTree invocation.file root

/-- The format in which a run answers, given its settings. -/
def formatWith (invocation : Invocation) (settings : Settings) : OutputFormat :=
  invocation.format.getD settings.format

/-- A run that has what it needs answers its question. What can be seen of it is the answer, in the
format of the command line or else of the settings. -/
theorem Reads.outcome_eq {settings : Settings} {root : Root}
    (reads : invocation.Reads surroundings settings root) :
    invocation.outcome surroundings = .ofAnswer (.ok
      (invocation.request.answer root settings.functions (invocation.formatWith settings))) := by
  have configured : invocation.settings surroundings = .ok settings := by
    rw [Invocation.settings, reads.configured]
  have loaded : invocation.root surroundings = .ok root := (root_eq_ok_iff root).mpr reads.loaded
  simp only [outcome, answer, configured, loaded, bind, Except.bind]
  rfl

/-- A run has what it needs or lacks it. Settings and tree are looked for in turn, and there is
nothing else that could be missing. -/
theorem fails_or_reads (invocation : Invocation) (surroundings : Surroundings) :
    invocation.Fails surroundings ∨
      ∃ settings root, invocation.Reads surroundings settings root := by
  cases configured : surroundings.settings invocation.config with
  | error error =>
    exact .inl (.inl ((Surroundings.settings_eq_error_iff _).mp ⟨error, configured⟩))
  | ok settings =>
    cases loaded : invocation.root surroundings with
    | error error => exact .inl (.inr (root_eq_error_iff.mp ⟨error, loaded⟩))
    | ok root => exact .inr ⟨settings, root, configured, (root_eq_ok_iff root).mp loaded⟩

/-- A run that lacks what it needs fails and prints nothing, whichever of the two it is that is
missing. -/
theorem outcome_of_fails (fails : invocation.Fails surroundings) :
    invocation.outcome surroundings = ⟨.failure, ""⟩ := by
  rcases fails with bad | bad
  · obtain ⟨error, failed⟩ := (Surroundings.settings_eq_error_iff _).mpr bad
    simp only [outcome, answer, Invocation.settings, failed, bind, Except.bind]
    rfl
  · obtain ⟨error, failed⟩ := root_eq_error_iff.mpr bad
    simp only [outcome, answer, failed, bind, Except.bind]
    cases invocation.settings surroundings <;> rfl

end Invocation

/-- What can be seen of a command line is what can be seen of the run that it asks for. -/
theorem run_eq_outcome {words : List String} {invocation : Invocation}
    (parsed : Arguments.read words = .ok invocation) (surroundings : Surroundings) :
    run words surroundings = invocation.outcome surroundings := by
  rw [run, parsed]
  rfl

end EsqlTree.Cli
