import EsqlTree.Proofs.Cli.Directories
import EsqlTree.Proofs.Cli.Status
import EsqlTree.Proofs.Config.Settings

/-!
# What a configuration decides

A configuration has a part in a run by its settings alone, and these only by the format, where
the command line names none, and by the functions, where a report is asked for. A file that is
not selected has no part, not even if it is no configuration at all.
-/

namespace EsqlTree.Cli

/-- Results that are the same but for the reasons of failures succeed with the same values. A run
that reads such results can differ only in what it tells about a failure. -/
theorem eq_ok_iff_of_toOption_eq {ε α : Type} {first second : Except ε α}
    (same : first.toOption = second.toOption) (value : α) :
    first = .ok value ↔ second = .ok value := by
  cases first <;> cases second <;> simp_all [Except.toOption]

namespace Surroundings

variable {here there : Surroundings}

/-- The files at a path have the same bytes, or both cannot be read. -/
def SameBytes (here there : Surroundings) (path : String) : Prop :=
  (here.bytesAt path).toOption = (there.bytesAt path).toOption

/-- The sources at a path have the same bytes, or both cannot be read. -/
def SameSource (here there : Surroundings) (path : String) : Prop :=
  (here.sourceBytes path).toOption = (there.sourceBytes path).toOption

/-- Files of the same bytes give the same settings. Which settings a file gives depends on its text,
and the text on the bytes that are read. -/
theorem SameBytes.settingsAt_eq_ok_iff {path : String} (same : here.SameBytes there path)
    (settings : Settings) :
    here.settingsAt path = .ok settings ↔ there.settingsAt path = .ok settings := by
  simp only [Surroundings.settingsAt_eq_ok_iff, HoldText, eq_ok_iff_of_toOption_eq same]

/-- Sources of the same bytes hold the same trees, be the one the standard input and the other a
file. -/
theorem SameSource.holdsTree_iff {path : String} (same : here.SameSource there path)
    (root : Root) :
    here.HoldsTree path root ↔ there.HoldsTree path root := by
  simp only [HoldsTree, HoldText, eq_ok_iff_of_toOption_eq same]

end Surroundings

namespace Request

/-- Only a report depends on the functions of the settings. No other request passes them on, so they
may be any at all. -/
theorem answer_eq_of_ne_report {request : Request} (other : request ≠ .report) (root : Root)
    (functions others : List String) (format : OutputFormat) :
    request.answer root functions format = request.answer root others format := by
  cases request with
  | report => exact absurd rfl other
  | _ => rfl

end Request

namespace Invocation

variable {invocation first second : Invocation} {here there : Surroundings}

/-- Two runs have one outcome if each has what it needs exactly if the other does, and both answer
alike. A run that has not what it needs fails, and of a failure no reason is printed to the standard
output, so all failures are one. -/
theorem outcome_eq_of_reads
    (forth : ∀ settings root, first.Reads here settings root →
      ∃ others, second.Reads there others root ∧
        first.request.answer root settings.functions (first.formatWith settings) =
          second.request.answer root others.functions (second.formatWith others))
    (back : ∀ settings root, second.Reads there settings root →
      ∃ others, first.Reads here others root) :
    first.outcome here = second.outcome there := by
  rcases first.fails_or_reads here with fails | ⟨settings, root, reads⟩
  · rcases second.fails_or_reads there with failsToo | ⟨settings, root, reads⟩
    · rw [outcome_of_fails fails, outcome_of_fails failsToo]
    · obtain ⟨others, readsToo⟩ := back settings root reads
      exact absurd fails readsToo.not_fails
  · obtain ⟨others, readsToo, alike⟩ := forth settings root reads
    rw [reads.outcome_eq, readsToo.outcome_eq, alike]

/-- A run for which a file is selected depends on nothing but the bytes of that file and those of
its source. That the file is selected is asked of both surroundings, since it is the presence of
other files that decides it. -/
theorem outcome_eq_of_selects {path : String} (selected : here.Selects invocation.config path)
    (selectedToo : there.Selects invocation.config path) (configuration : here.SameBytes there path)
    (source : here.SameSource there invocation.file) :
    invocation.outcome here = invocation.outcome there := by
  have reads_iff (settings : Settings) (root : Root) :
      invocation.Reads here settings root ↔ invocation.Reads there settings root := by
    have configured : here.settings invocation.config = .ok settings ↔
        there.settings invocation.config = .ok settings := by
      rw [selected.settings_eq, selectedToo.settings_eq]
      exact configuration.settingsAt_eq_ok_iff settings
    have loaded := source.holdsTree_iff root
    constructor
    · intro reads
      exact ⟨configured.mp reads.configured, loaded.mp reads.loaded⟩
    · intro reads
      exact ⟨configured.mpr reads.configured, loaded.mpr reads.loaded⟩
  refine outcome_eq_of_reads ?_ ?_
  · intro settings root reads
    exact ⟨settings, (reads_iff settings root).mp reads, rfl⟩
  · intro settings root reads
    exact ⟨settings, (reads_iff settings root).mpr reads⟩

/-- With a configuration named, no other is read: the named one is selected in all surroundings,
whatever else is there. -/
theorem outcome_eq_of_named {path : String} (named : invocation.config = some path)
    (configuration : here.SameBytes there path) (source : here.SameSource there invocation.file) :
    invocation.outcome here = invocation.outcome there := by
  refine outcome_eq_of_selects ?_ ?_ configuration source
  · rw [named]
    exact .named path
  · rw [named]
    exact .named path

/-- With none named and the first usual configuration there, no other is read. The search ends with
the first file that is there, before it comes to the second. -/
theorem outcome_eq_of_first (unnamed : invocation.config = none)
    (present : here.isFile "./.esqlwalk.jsonc" = true)
    (presentToo : there.isFile "./.esqlwalk.jsonc" = true)
    (configuration : here.SameBytes there "./.esqlwalk.jsonc")
    (source : here.SameSource there invocation.file) :
    invocation.outcome here = invocation.outcome there := by
  refine outcome_eq_of_selects ?_ ?_ configuration source
  · rw [unnamed]
    exact .first present
  · rw [unnamed]
    exact .first presentToo

/-- The files in the working directory that may give settings, by their names. -/
def usualNames : List String := [".esqlwalk.jsonc", ".esqlwalk.json"]

/-- The usual paths lead to these files in the working directory. The dot that the paths begin with
is no part of where they lead. -/
theorem map_ofPath?_usualConfigurations :
    usualConfigurations.map Place.ofPath? = usualNames.map fun name => some (.within [name]) := by
  decide

/-- The source of a run is the standard input, or none of the files of some names. -/
def SourceApart (invocation : Invocation) (names : List String) : Prop :=
  FilePath.isInput invocation.file = true ∨ PathApart invocation.file names

section

variable {here there : Directory} {names : List String}

/-- The source of a run has the same bytes in two directories if it is apart from what differs. The
standard input is the same in both, and a file has the bytes of an entry that is in both. -/
theorem SourceApart.sameSource (apart : invocation.SourceApart names)
    (same : here.SameBut there names) (input : ByteArray) :
    (here.surroundings input).SameSource (there.surroundings input) invocation.file := by
  rw [Surroundings.SameSource, Surroundings.sourceBytes, Surroundings.sourceBytes]
  split
  · rfl
  · rename_i named
    exact same.bytesAt_toOption_eq (apart.resolve_left named)

/-- With another file named, the usual ones in the working directory do not matter. They may be
missing in the one directory and be no configurations in the other. -/
theorem outcome_eq_of_sameBut_usual {path : String} (named : invocation.config = some path)
    (pathApart : PathApart path usualNames) (apart : invocation.SourceApart usualNames)
    (same : here.SameBut there usualNames) (input : ByteArray) :
    invocation.outcome (here.surroundings input) = invocation.outcome (there.surroundings input) :=
  outcome_eq_of_named named (same.bytesAt_toOption_eq pathApart) (apart.sameSource same input)

/-- With none named and the first usual file there, the second one does not matter. The first is
there in both directories, because they differ in the second alone. -/
theorem outcome_eq_of_sameBut_second (unnamed : invocation.config = none)
    (present : here.isFile "./.esqlwalk.jsonc" = true)
    (apart : invocation.SourceApart [".esqlwalk.json"])
    (same : here.SameBut there [".esqlwalk.json"]) (input : ByteArray) :
    invocation.outcome (here.surroundings input) =
      invocation.outcome (there.surroundings input) := by
  have leads : Place.ofPath? "./.esqlwalk.jsonc" = some (.within [".esqlwalk.jsonc"]) :=
    (List.cons.inj map_ofPath?_usualConfigurations).1
  have elsewhere : PathApart "./.esqlwalk.jsonc" [".esqlwalk.json"] := by
    intro name listed
    obtain rfl := List.mem_singleton.mp listed
    rw [leads]
    decide
  exact outcome_eq_of_first unnamed present ((same.isFile_eq elsewhere).symm.trans present)
    (same.bytesAt_toOption_eq elsewhere) (apart.sameSource same input)

end

/-- Two runs ask the same of the same source, and both have settings. -/
structure Compare (first second : Invocation) (here there : Surroundings)
    (settings others : Settings) : Prop where
  /-- The question is the same. -/
  request : second.request = first.request
  /-- The path of the source is the same. -/
  file : second.file = first.file
  /-- There, it has the same bytes. -/
  source : here.SameSource there first.file
  /-- One run has valid settings. -/
  configured : here.settings first.config = .ok settings
  /-- The other has valid settings too. -/
  configuredToo : there.settings second.config = .ok others

namespace Compare

variable {settings others : Settings}

/-- Such runs have one outcome if what their settings have makes no difference to the answer. Both
load the source or neither does, and so neither fails alone. -/
theorem outcome_eq (compare : Compare first second here there settings others)
    (alike : ∀ root, first.request.answer root settings.functions (first.formatWith settings) =
      first.request.answer root others.functions (second.formatWith others)) :
    first.outcome here = second.outcome there := by
  refine outcome_eq_of_reads ?_ ?_
  · intro given root reads
    obtain rfl : settings = given :=
      Except.ok.inj (compare.configured.symm.trans reads.configured)
    have loaded := (compare.source.holdsTree_iff root).mp reads.loaded
    exact ⟨others, ⟨compare.configuredToo, compare.file ▸ loaded⟩, compare.request ▸ alike root⟩
  · intro given root reads
    exact ⟨settings, compare.configured,
      (compare.source.holdsTree_iff root).mpr (compare.file ▸ reads.loaded)⟩

/-- Settings matter by the format in which a run answers, and by the functions in a report. Where
the answer is no report the functions need not be the same. -/
theorem outcome_eq_of_formatWith (compare : Compare first second here there settings others)
    (format : second.formatWith others = first.formatWith settings)
    (functions : first.request = .report → others.functions = settings.functions) :
    first.outcome here = second.outcome there := by
  refine compare.outcome_eq fun root => ?_
  rw [format]
  by_cases report : first.request = .report
  · rw [functions report]
  · exact Request.answer_eq_of_ne_report report root _ _ _

/-- In the search for a function settings do not matter. What is found is printed as JSON, whatever
the format. -/
theorem outcome_eq_of_findFunction (compare : Compare first second here there settings others)
    {name : String} (asked : first.request = .findFunction name) :
    first.outcome here = second.outcome there := by
  refine compare.outcome_eq fun root => ?_
  rw [asked]
  rfl

end Compare

/-- What a run prints and how it ends depend on configurations only so far. With a configuration
named, no other file matters, and the usual ones in the working directory do not, whether they
are there or what they hold; with none named and the first usual one there, the second does not.
Of valid settings the format matters only where the command line names none, and the functions
only in a report; in the search for a function neither matters. A format in the settings does
what the same format on the command line does.

Proof: a run that does not fail answers from its request, its tree, the functions of its settings
and its format. Where these are the same the answers are, and where one run fails for the lack of
settings or of a tree the other lacks it too. -/
theorem outcome_depends_on_configuration (invocation : Invocation) :
    (∀ path, invocation.config = some path →
      (∀ here there : Surroundings, here.SameBytes there path →
        here.SameSource there invocation.file →
        invocation.outcome here = invocation.outcome there) ∧
      (∀ (here there : Directory) (input : ByteArray), here.SameBut there usualNames →
        PathApart path usualNames → invocation.SourceApart usualNames →
        invocation.outcome (here.surroundings input) =
          invocation.outcome (there.surroundings input))) ∧
    (invocation.config = none →
      (∀ here there : Surroundings, here.isFile "./.esqlwalk.jsonc" = true →
        there.isFile "./.esqlwalk.jsonc" = true → here.SameBytes there "./.esqlwalk.jsonc" →
        here.SameSource there invocation.file →
        invocation.outcome here = invocation.outcome there) ∧
      (∀ (here there : Directory) (input : ByteArray), here.SameBut there [".esqlwalk.json"] →
        here.isFile "./.esqlwalk.jsonc" = true → invocation.SourceApart [".esqlwalk.json"] →
        invocation.outcome (here.surroundings input) =
          invocation.outcome (there.surroundings input))) ∧
    (∀ other here there settings others,
      Compare invocation other here there settings others →
      (other.format = invocation.format → others.format = settings.format →
        invocation.request ≠ .report → invocation.outcome here = other.outcome there) ∧
      (∀ format, invocation.format = some format → other.format = some format →
        others.functions = settings.functions → invocation.outcome here = other.outcome there) ∧
      (∀ name, invocation.request = .findFunction name →
        invocation.outcome here = other.outcome there) ∧
      (invocation.format = none → other.format = some settings.format →
        others.functions = settings.functions →
        invocation.outcome here = other.outcome there)) := by
  refine ⟨?_, ?_, ?_⟩
  · intro path named
    refine ⟨fun here there => outcome_eq_of_named named, ?_⟩
    intro here there input same pathApart apart
    exact outcome_eq_of_sameBut_usual named pathApart apart same input
  · intro unnamed
    refine ⟨fun here there => outcome_eq_of_first unnamed, ?_⟩
    intro here there input same present apart
    exact outcome_eq_of_sameBut_second unnamed present apart same input
  · intro other here there settings others compare
    refine ⟨?_, ?_, ?_, ?_⟩
    · intro given format noReport
      refine compare.outcome_eq_of_formatWith ?_ (fun report => absurd report noReport)
      rw [formatWith, formatWith, given, format]
    · intro format given givenToo functions
      refine compare.outcome_eq_of_formatWith ?_ (fun _ => functions)
      rw [formatWith, formatWith, given, givenToo]
      rfl
    · intro name asked
      exact compare.outcome_eq_of_findFunction asked
    · intro unnamed given functions
      refine compare.outcome_eq_of_formatWith ?_ (fun _ => functions)
      rw [formatWith, formatWith, unnamed, given]
      rfl

/-- A configuration of both settings. -/
def averagesText : String :=
  Json.compact (.object [("format", .string "json"), ("functions", .array [.string "avg"])])

/-- A configuration of the same format and of another function, in the other order. -/
def timesText : String :=
  Json.compact (.object [("functions", .array [.string "now"]), ("format", .string "json")])

/-- A configuration of the first function alone. -/
def plainText : String := Json.compact (.object [("functions", .array [.string "avg"])])

/-- The settings of the first configuration. -/
def averages : Settings := ⟨.json, ["avg"]⟩

/-- The settings of the second configuration. -/
def times : Settings := ⟨.json, ["now"]⟩

/-- The settings of the third configuration. It leaves out the format. -/
def plain : Settings := ⟨.text, ["avg"]⟩

/-- Each of the three texts gives its settings. -/
theorem read_configurations :
    Settings.read averagesText = .ok averages ∧ Settings.read timesText = .ok times ∧
      Settings.read plainText = .ok plain := by
  refine ⟨(Settings.read_compact_eq_ok_iff ?_ _).mpr (.members (by simp) (.string .json) rfl),
    (Settings.read_compact_eq_ok_iff ?_ _).mpr (.members (by simp) (.string .json) rfl),
    (Settings.read_compact_eq_ok_iff ?_ _).mpr (.members (by simp) rfl rfl)⟩
  all_goals
    simp [Json.Value.Floatless, Json.MembersFloatless, Json.ElementsFloatless]

/-- The text of a function. -/
def averageCall : String := "\x7b\"type\": \"function\", \"name\": \"avg\", \"args\": []\x7d"

/-- A directory with an empty configuration where one is usual, with the three configurations, and
with the function as source. -/
def tidyDirectory : Directory where
  files := [([".esqlwalk.jsonc"], .empty), (["averages.json"], averagesText.toUTF8),
    (["times.json"], timesText.toUTF8), (["plain.json"], plainText.toUTF8),
    (["query.json"], averageCall.toUTF8)]

/-- The same directory with a second usual file, which is no configuration. -/
def clutteredDirectory : Directory :=
  { tidyDirectory with files := ([".esqlwalk.json"], "\x7b".toUTF8) :: tidyDirectory.files }

/-- The same directory with the first usual file replaced by one that is no configuration. -/
def spoiltDirectory : Directory :=
  { tidyDirectory with files := ([".esqlwalk.jsonc"], "\x7b".toUTF8) :: tidyDirectory.files }

/-- The second usual file is put where nothing was, so the directories differ in this entry alone.
-/
theorem clutteredDirectory_sameBut :
    clutteredDirectory.SameBut tidyDirectory [".esqlwalk.json"] := by
  apply tidyDirectory.sameBut_cons
  have absent : tidyDirectory.entry? [".esqlwalk.json"] = none := rfl
  simp [absent]

/-- The first usual file is put in the place of another. Directories that differ in it alone differ
in the usual ones at most. -/
theorem spoiltDirectory_sameBut : spoiltDirectory.SameBut tidyDirectory usualNames := by
  have first : spoiltDirectory.SameBut tidyDirectory [".esqlwalk.jsonc"] := by
    apply tidyDirectory.sameBut_cons
    have file : tidyDirectory.entry? [".esqlwalk.jsonc"] = some (.file .empty) := rfl
    simp [file]
  exact first.mono (by simp [usualNames])

/-- The run that asks a question of the source there, with a configuration. -/
def queryWith (config : Option String) (request : Request) : Invocation :=
  { request, file := "query.json", config }

/-- The same run with a format on the command line. -/
def formatted (invocation : Invocation) (format : OutputFormat) : Invocation :=
  { invocation with format := some format }

/-- Where the text of a named file gives settings, the run has them: the named file is the one that
is selected, and its text is read. -/
theorem settings_of_named {surroundings : Surroundings} {path text : String} {settings : Settings}
    (held : HoldText (surroundings.bytesAt path) text) (valid : Settings.read text = .ok settings) :
    surroundings.settings (some path) = .ok settings := by
  rw [(Surroundings.Selects.named path).settings_eq, Surroundings.settingsAt_eq_ok_iff]
  exact ⟨text, held, valid⟩

/-- What is at the path of a file that is no configuration is a bad one. The file has the text of an
object that is opened and not closed. -/
theorem badConfiguration_brace {surroundings : Surroundings} {path : String}
    (held : HoldText (surroundings.bytesAt path) "\x7b") : surroundings.BadConfiguration path := by
  have brace : "\x7b".toList = ['\x7b'] := by decide
  obtain ⟨_, opened⟩ := @Config.begins_mark .openBrace '\x7b' (by simp) []
  have unclosed : Config.properties ['\x7b'] [] = .error (.at .unterminatedObject ['\x7b']) := by
    rw [Config.properties, Config.next]
    rfl
  have refused : Config.document "\x7b".toList = .error (.at .unterminatedObject ['\x7b']) := by
    rw [brace, Config.document, opened]
    simp only [bind, Except.bind, Config.valueFrom, unclosed]
  exact .unparsed held refused

/-- What is no configuration does not matter where it is not selected: neither the first usual file
if another is named, nor the second if the first is there. Of two configurations of one format the
list of commands cannot tell which it was, and of two of the same functions a report cannot if the
command line names the format; the search for a function never can. The format of the one
configuration does what the command line does beside the other. -/
theorem outcome_clutteredDirectory :
    let tidy := tidyDirectory.surroundings .empty
    let cluttered := clutteredDirectory.surroundings .empty
    let spoilt := spoiltDirectory.surroundings .empty
    let query := fun config request => queryWith (some config) request
    tidy.settings (some "averages.json") = .ok averages ∧
      tidy.settings (some "times.json") = .ok times ∧
      tidy.settings (some "plain.json") = .ok plain ∧
      (query "averages.json" (.hasFunction "avg")).outcome tidy =
        ⟨.success, "\x7b\n  \"found\": true\n\x7d\n"⟩ ∧
      spoilt.BadConfiguration "./.esqlwalk.jsonc" ∧
      (query "averages.json" .report).outcome spoilt =
        (query "averages.json" .report).outcome tidy ∧
      cluttered.BadConfiguration "./.esqlwalk.json" ∧
      (queryWith none .trace).outcome cluttered = (queryWith none .trace).outcome tidy ∧
      (query "averages.json" .commands).outcome tidy =
        (query "times.json" .commands).outcome tidy ∧
      ((query "averages.json" .report).formatted .text).outcome tidy =
        ((query "plain.json" .report).formatted .text).outcome tidy ∧
      (query "times.json" (.findFunction "avg")).outcome tidy =
        (query "plain.json" (.findFunction "avg")).outcome tidy ∧
      (query "averages.json" .report).outcome tidy =
        ((query "plain.json" .report).formatted .json).outcome tidy := by
  intro tidy cluttered spoilt query
  obtain ⟨readAverages, readTimes, readPlain⟩ := read_configurations
  have settingsAverages : tidy.settings (some "averages.json") = .ok averages :=
    settings_of_named rfl readAverages
  have settingsTimes : tidy.settings (some "times.json") = .ok times :=
    settings_of_named rfl readTimes
  have settingsPlain : tidy.settings (some "plain.json") = .ok plain :=
    settings_of_named rfl readPlain
  have loaded : load averageCall =
      .ok (some (.single (.function { Header.named "avg" with args := [] }))) := by cbv
  have held : HoldText (tidy.sourceBytes "query.json") averageCall := rfl
  have reads : (query "averages.json" (.hasFunction "avg")).Reads tidy averages _ :=
    ⟨settingsAverages, averageCall, held, loaded⟩
  have named := (outcome_depends_on_configuration (query "averages.json" .report)).1 _ rfl
  have unnamed := (outcome_depends_on_configuration (queryWith none .trace)).2.1 rfl
  obtain ⟨_, _, commands⟩ := outcome_depends_on_configuration (query "averages.json" .commands)
  obtain ⟨_, _, reports⟩ :=
    outcome_depends_on_configuration ((query "averages.json" .report).formatted .text)
  obtain ⟨_, _, searches⟩ :=
    outcome_depends_on_configuration (query "times.json" (.findFunction "avg"))
  obtain ⟨_, _, formats⟩ := outcome_depends_on_configuration (query "averages.json" .report)
  refine ⟨settingsAverages, settingsTimes, settingsPlain, ?_, badConfiguration_brace rfl, ?_,
    badConfiguration_brace rfl, ?_, ?_, ?_, ?_, ?_⟩
  · rw [reads.outcome_eq]
    decide
  · exact named.2 _ _ _ spoiltDirectory_sameBut (by decide) (.inr (by decide))
  · exact unnamed.2 _ _ _ clutteredDirectory_sameBut rfl (.inr (by decide))
  · exact (commands (query "times.json" .commands) tidy tidy averages times
      ⟨rfl, rfl, rfl, settingsAverages, settingsTimes⟩).1 rfl rfl (by decide)
  · exact (reports ((query "plain.json" .report).formatted .text) tidy tidy averages plain
      ⟨rfl, rfl, rfl, settingsAverages, settingsPlain⟩).2.1 .text rfl rfl rfl
  · exact (searches (query "plain.json" (.findFunction "avg")) tidy tidy times plain
      ⟨rfl, rfl, rfl, settingsTimes, settingsPlain⟩).2.2.1 "avg" rfl
  · exact (formats ((query "plain.json" .report).formatted .json) tidy tidy averages plain
      ⟨rfl, rfl, rfl, settingsAverages, settingsPlain⟩).2.2.2 rfl rfl rfl

end Invocation

end EsqlTree.Cli
