import EsqlTree.Config.Settings
import EsqlTree.Proofs.Config.Document

/-!
# How settings are given

A value gives settings in one of two ways. In an object the format stands under one key and the
functions under another, either may be left out, and no other key may be there. In an array they
stand in this order, and what is missing at the end is left out. Where the format is left out it is
that of text, and where the functions are left out there are none.

This is said here of the value alone. Reading goes through the keys in ascending order and changes
the settings one by one, and it succeeds exactly with the settings that the value gives.
-/

namespace EsqlTree

namespace Json

/-- Erasing duplicates leaves every key once. The first key is kept and taken out of the others, so
the recursion is on a shorter list, which no longer has it. -/
theorem nodup_eraseDups (keys : List String) : keys.eraseDups.Nodup := by
  cases keys with
  | nil => exact .nil
  | cons key others =>
    rw [List.eraseDups_cons, List.nodup_cons, List.mem_eraseDups, List.mem_filter]
    have fewer : (others.filter fun other => !other == key).length < others.length + 1 :=
      Nat.lt_succ_of_le (List.length_filter_le _ _)
    exact ⟨by simp, nodup_eraseDups _⟩
termination_by keys.length

/-- Among the entries are the keys that can be looked up, with the values that are found there. -/
theorem mem_entries_iff (key : String) (value : Value) (members : Members) :
    (key, value) ∈ entries members ↔ lookup key members = some value := by
  simp only [entries, List.mem_filterMap, List.mem_mergeSort, List.mem_eraseDups]
  constructor
  · rintro ⟨name, _, found⟩
    obtain ⟨other, there, same⟩ := Option.map_eq_some_iff.mp found
    obtain ⟨rfl, rfl⟩ := Prod.mk.inj same
    exact there
  · intro found
    refine ⟨key, ?_, by rw [found]; rfl⟩
    by_cases there : key ∈ members.map Prod.fst
    · exact there
    · rw [(lookup_eq_none_iff key members).mpr there] at found
      contradiction

/-- The keys of entries are those of the members. Whether a key is known can therefore be asked of
the members, before they are put in order. -/
theorem forall_mem_entries_iff (holds : String → Prop) (members : Members) :
    (∀ entry ∈ entries members, holds entry.1) ↔ ∀ member ∈ members, holds member.1 := by
  constructor
  · intro each member among
    have named : member.1 ∈ members.map Prod.fst := List.mem_map_of_mem among
    cases found : lookup member.1 members with
    | none => exact absurd named ((lookup_eq_none_iff member.1 members).mp found)
    | some value => exact each (member.1, value) ((mem_entries_iff _ _ _).mpr found)
  · rintro each ⟨key, value⟩ listed
    have found := (mem_entries_iff key value members).mp listed
    by_cases there : key ∈ members.map Prod.fst
    · obtain ⟨member, among, rfl⟩ := List.mem_map.mp there
      exact each member among
    · rw [(lookup_eq_none_iff key members).mpr there] at found
      contradiction

/-- Every key has one entry. Duplicates are erased before the keys are sorted, and sorting brings in
none. -/
theorem nodup_keys_entries (members : Members) : ((entries members).map Prod.fst).Nodup := by
  have keys : ((members.map Prod.fst).eraseDups.mergeSort
      fun left right => decide (left ≤ right)).Nodup :=
    (List.mergeSort_perm _ _).nodup_iff.mpr (nodup_eraseDups _)
  rw [List.Nodup, List.pairwise_map]
  apply List.Pairwise.filterMap _ _ keys
  intro first second apart left found right foundToo
  obtain ⟨_, _, rfl⟩ := Option.map_eq_some_iff.mp found
  obtain ⟨_, _, rfl⟩ := Option.map_eq_some_iff.mp foundToo
  exact apart

/-- Where every key has one member, a lookup finds that member. No later one can hide it. -/
theorem lookup_eq_some_iff_of_nodup {members : Members} (once : (members.map Prod.fst).Nodup)
    (key : String) (value : Value) : lookup key members = some value ↔ (key, value) ∈ members := by
  induction members with
  | nil => simp
  | cons member others inOthers =>
    obtain ⟨name, first⟩ := member
    obtain ⟨new, others⟩ := List.nodup_cons.mp once
    rw [lookup_cons, Option.or_eq_some_iff, inOthers others, List.mem_cons]
    by_cases same : name = key
    · subst same
      have none := (lookup_eq_none_iff name _).mpr new
      simp [none, eq_comm, or_comm]
    · simp [same, Ne.symm same]

/-- Looking up a key among the entries is looking it up among the members. Of members with one key
both find the last. -/
theorem lookup_entries (key : String) (members : Members) :
    lookup key (entries members) = lookup key members := by
  apply Option.ext
  intro value
  rw [lookup_eq_some_iff_of_nodup (nodup_keys_entries members), mem_entries_iff]

/-- There is one entry exactly if the members have one key. It may have been written more than once,
and then the last value counts. -/
theorem entries_eq_singleton_iff (name : String) (content : Value) (members : Members) :
    entries members = [(name, content)] ↔
      (∀ member ∈ members, member.1 = name) ∧ lookup name members = some content := by
  rw [← forall_mem_entries_iff (· = name), ← mem_entries_iff]
  constructor
  · intro single
    rw [single]
    simp
  · rintro ⟨named, among⟩
    have once := nodup_keys_entries members
    cases listed : entries members with
    | nil =>
      rw [listed] at among
      contradiction
    | cons first others =>
      rw [listed] at named among once
      rw [List.forall_mem_cons] at named
      -- A second entry would have the same key as the first.
      have none : others = [] := by
        cases others with
        | nil => rfl
        | cons second rest =>
          rw [List.map_cons, List.map_cons, named.1, named.2 second List.mem_cons_self] at once
          simp at once
      subst none
      rw [List.mem_singleton.mp among]

end Json

namespace Settings

open Json (Value Members lookup)

/-- A value names a format: as a string, or as the only key of an object in which nothing is given
for it. -/
inductive NamesFormat : Value → OutputFormat → Prop where
  | string (format : OutputFormat) : NamesFormat (.string format.name) format
  | key {members : Members} {format : OutputFormat}
      (only : ∀ member ∈ members, member.1 = format.name)
      (empty : lookup format.name members = some .null) : NamesFormat (.object members) format

/-- A value lists functions: it is the array of their names. -/
def ListsFunctions (value : Value) (names : List String) : Prop :=
  value = .array (names.map .string)

/-- What is given counts, and otherwise the default does. -/
def Chosen {α : Type} (stands : Value → α → Prop) (default : α) (given : Option Value)
    (chosen : α) : Prop :=
  match given with
  | some value => stands value chosen
  | none => chosen = default

/-- A value gives settings. -/
inductive Gives : Value → Settings → Prop where
  /-- An object gives them by their keys. -/
  | members {members : Members} {settings : Settings}
      (known : ∀ member ∈ members, member.1 = "format" ∨ member.1 = "functions")
      (format : Chosen NamesFormat .text (lookup "format" members) settings.format)
      (functions : Chosen ListsFunctions [] (lookup "functions" members) settings.functions) :
      Gives (.object members) settings
  /-- An array gives them by their places. -/
  | places {elements : List Value} {settings : Settings} (short : elements.length ≤ 2)
      (format : Chosen NamesFormat .text elements[0]? settings.format)
      (functions : Chosen ListsFunctions [] elements[1]? settings.functions) :
      Gives (.array elements) settings

/-- A name is that of a format exactly if it is the one of that format. The search for it is through
all formats, and it can find no other. -/
theorem formatNamed_eq_ok_iff (name : String) (format : OutputFormat) :
    formatNamed name = .ok format ↔ name = format.name := by
  constructor
  · intro named
    cases found : OutputFormat.ofName? name with
    | none => simp [formatNamed, found] at named
    | some other =>
      obtain rfl : other = format := by simpa [formatNamed, found] using named
      have holds := (List.find?_eq_some_iff_append.mp found).1
      exact (of_decide_eq_true holds).symm
  · rintro rfl
    rw [formatNamed, OutputFormat.ofName?_name]

/-- A format is read from a value exactly if the value names it. A string is taken as the name; an
object must have one entry, whose key is the name and whose value is null. -/
theorem formatOf_eq_ok_iff (value : Value) (format : OutputFormat) :
    formatOf value = .ok format ↔ NamesFormat value format := by
  constructor
  · intro read
    cases value with
    | string name =>
      obtain rfl := (formatNamed_eq_ok_iff name format).mp read
      exact .string format
    | object members =>
      rcases listed : Json.entries members with _ | ⟨⟨name, content⟩, _ | ⟨second, others⟩⟩
      · simp [formatOf, listed] at read
      · obtain ⟨only, found⟩ := (Json.entries_eq_singleton_iff name content members).mp listed
        simp only [formatOf, listed] at read
        cases named : formatNamed name with
        | error mismatch => simp [named, bind, Except.bind] at read
        | ok other =>
          obtain rfl := (formatNamed_eq_ok_iff name other).mp named
          rw [named] at read
          cases content with
          | null =>
            obtain rfl : other = format := Except.ok.inj read
            exact .key only found
          | _ => contradiction
      · simp [formatOf, listed] at read
    | _ => contradiction
  · intro names
    cases names with
    | string => exact (formatNamed_eq_ok_iff format.name format).mpr rfl
    | @key members _ only empty =>
      have listed : Json.entries members = [(format.name, .null)] :=
        (Json.entries_eq_singleton_iff _ _ members).mpr ⟨only, empty⟩
      have named : formatNamed format.name = .ok format := (formatNamed_eq_ok_iff _ _).mpr rfl
      simp only [formatOf, listed, named]
      rfl

/-- Names are read from a list of values exactly if these are the strings of the names. One element
that is no string makes the whole list fail, so the induction has two cases for what follows the
first element. -/
theorem namesOf_eq_ok_iff (elements : List Value) (names : List String) :
    namesOf elements = .ok names ↔ elements = names.map .string := by
  induction elements generalizing names with
  | nil => cases names <;> simp [namesOf]
  | cons element others inOthers =>
    cases element with
    | string name =>
      rw [namesOf]
      cases read : namesOf others with
      | error mismatch =>
        cases names with
        | nil => simp [bind, Except.bind]
        | cons first rest =>
          have different : others ≠ rest.map .string := by
            intro same
            rw [(inOthers rest).mpr same] at read
            contradiction
          simp [bind, Except.bind, different]
      | ok rest =>
        obtain rfl := (inOthers rest).mp read
        have alike (later : List String) :
            rest.map Value.string = later.map .string ↔ rest = later :=
          List.map_inj_right fun _ _ => Value.string.inj
        cases names with
        | nil => simp [bind, Except.bind]
        | cons first later => simp [bind, Except.bind, alike]
    | _ => cases names <;> simp [namesOf]

/-- Functions are read from a value exactly if it lists them. An array of anything but strings lists
none. -/
theorem functionsOf_eq_ok_iff (value : Value) (names : List String) :
    functionsOf value = .ok names ↔ ListsFunctions value names := by
  cases value with
  | array elements =>
    rw [functionsOf, namesOf_eq_ok_iff, ListsFunctions, Value.array.injEq]
  | _ => simp [functionsOf, ListsFunctions]

/-- A member is taken into account exactly if it has a key of its own kind and a value that can
stand there. It changes the setting of this key and leaves the other as it was. -/
theorem withMember_eq_ok_iff (settings next : Settings) (key : String) (value : Value) :
    settings.withMember key value = .ok next ↔
      (key = "format" ∧ ∃ format, NamesFormat value format ∧ next = { settings with format }) ∨
        (key = "functions" ∧
          ∃ functions, ListsFunctions value functions ∧ next = { settings with functions }) := by
  simp only [← formatOf_eq_ok_iff, ← functionsOf_eq_ok_iff, withMember]
  by_cases format : key = "format"
  · subst format
    cases formatOf value <;> simp [bind, Except.bind, eq_comm]
  · by_cases functions : key = "functions"
    · subst functions
      cases functionsOf value <;> simp [bind, Except.bind, eq_comm]
    · simp [format, functions]

/-- Members with distinct keys are taken into account exactly if each key is known and each value
can stand under its key; settings without a member stay as they were. The induction is on the
members: the first one has its say, and no later member has its key. -/
theorem withMembers_eq_ok_iff (settings result : Settings) {members : Members}
    (once : (members.map Prod.fst).Nodup) :
    settings.withMembers members = .ok result ↔
      (∀ member ∈ members, member.1 = "format" ∨ member.1 = "functions") ∧
        Chosen NamesFormat settings.format (lookup "format" members) result.format ∧
        Chosen ListsFunctions settings.functions (lookup "functions" members)
          result.functions := by
  induction members generalizing settings with
  | nil =>
    cases settings
    cases result
    simp [withMembers, Chosen, eq_comm]
  | cons member others inOthers =>
    obtain ⟨key, value⟩ := member
    obtain ⟨new, others_once⟩ := List.nodup_cons.mp once
    have first : settings.withMembers ((key, value) :: others) = .ok result ↔
        ∃ next, settings.withMember key value = .ok next ∧
          next.withMembers others = .ok result := by
      rw [withMembers]
      cases settings.withMember key value <;> simp [bind, Except.bind]
    have hidden := (Json.lookup_eq_none_iff key others).mpr new
    rw [first]
    simp only [withMember_eq_ok_iff, inOthers _ others_once, List.forall_mem_cons, Json.lookup_cons]
    by_cases format : key = "format"
    · subst format
      simp only [hidden, Option.none_or, if_true, Chosen]
      constructor
      · rintro ⟨_, ⟨_, chosen, names, rfl⟩ | ⟨other, _⟩, known, kept, functions⟩
        · exact ⟨⟨.inl trivial, known⟩, kept ▸ names, by simpa using functions⟩
        · contradiction
      · rintro ⟨⟨_, known⟩, names, functions⟩
        exact ⟨_, .inl ⟨trivial, result.format, names, rfl⟩, known, rfl, by simpa using functions⟩
    · by_cases functions : key = "functions"
      · subst functions
        simp only [hidden, Option.none_or, if_true, Chosen]
        constructor
        · rintro ⟨_, ⟨other, _⟩ | ⟨_, chosen, lists, rfl⟩, known, format, kept⟩
          · contradiction
          · exact ⟨⟨.inr trivial, known⟩, by simpa using format, kept ▸ lists⟩
        · rintro ⟨⟨_, known⟩, format, lists⟩
          exact ⟨_, .inr ⟨trivial, result.functions, lists, rfl⟩, known, by simpa using format, rfl⟩
      · simp [format, functions]

/-- Settings are read from a value exactly if it gives them. Of a key that is written more than once
the last value counts, be the earlier ones what they may. -/
theorem ofJson_eq_ok_iff (value : Value) (settings : Settings) :
    ofJson value = .ok settings ↔ Gives value settings := by
  cases value with
  | object members =>
    rw [ofJson, withMembers_eq_ok_iff _ _ (Json.nodup_keys_entries members), Json.lookup_entries,
      Json.lookup_entries,
      Json.forall_mem_entries_iff (fun key => key = "format" ∨ key = "functions")]
    constructor
    · rintro ⟨known, format, functions⟩
      exact .members known format functions
    · rintro ⟨known, format, functions⟩
      exact ⟨known, format, functions⟩
  | array elements =>
    have given : Gives (.array elements) settings ↔ elements.length ≤ 2 ∧
        Chosen NamesFormat .text elements[0]? settings.format ∧
        Chosen ListsFunctions [] elements[1]? settings.functions := by
      constructor
      · rintro (_ | ⟨short, format, functions⟩)
        exact ⟨short, format, functions⟩
      · rintro ⟨short, format, functions⟩
        exact .places short format functions
    rw [given]
    simp only [Chosen, ← formatOf_eq_ok_iff, ← functionsOf_eq_ok_iff]
    obtain ⟨format, functions⟩ := settings
    rcases elements with _ | ⟨first, _ | ⟨second, _ | ⟨third, others⟩⟩⟩
    · simp [ofJson, eq_comm]
    · cases read : formatOf first <;> simp [ofJson, read, bind, Except.bind, eq_comm]
    · cases read : formatOf first <;> cases readToo : functionsOf second <;>
        simp [ofJson, read, readToo, bind, Except.bind]
    · cases read : formatOf first <;> cases readToo : functionsOf second <;>
        simp [ofJson, read, readToo, bind, Except.bind]
  | _ =>
    constructor
    · intro read
      contradiction
    · rintro ⟨⟩

/-- Settings are read from a text exactly if its value gives them. A text that holds no value, but
only blanks and comments, leaves the settings as they are by default. -/
theorem read_eq_ok_iff (text : String) (settings : Settings) :
    read text = .ok settings ↔
      (Config.document text.toList = .ok none ∧ settings = {}) ∨
        ∃ value, Config.document text.toList = .ok (some value) ∧ Gives value settings := by
  simp only [← ofJson_eq_ok_iff, read]
  cases parsed : Config.document text.toList with
  | error refusal => simp
  | ok value? =>
    cases value? with
    | none => simp [eq_comm]
    | some value => cases given : ofJson value <;> simp [given]

/-- From the JSON text of a value those settings are read that the value gives. -/
theorem read_compact_eq_ok_iff {value : Value} (floatless : value.Floatless) (settings : Settings) :
    read (Json.compact value) = .ok settings ↔ Gives value settings := by
  simp [read_eq_ok_iff, Config.document_compact floatless]

end Settings

end EsqlTree
