import EsqlTree.Cli.Directory

/-!
# Directories that differ in some files

A file in the working directory matters only to the paths that lead to it. Where two directories
have different files of some names at their top, or a file of such a name in one of them alone,
every path that leads elsewhere is followed alike: to the same entry, or in both to none. On its
way it may go through such a name only in vain, for what goes through a file leads nowhere.
-/

namespace EsqlTree.Cli

namespace Entry

/-- The bytes that are read from an entry. -/
def bytes? : Entry → Option ByteArray
  | .directory => none
  | .file bytes => some bytes
  | .nullDevice => some .empty

/-- True of files. -/
def isFile : Entry → Bool
  | .file _ => true
  | _ => false

end Entry

namespace Place

/-- The place where names lead from a place if all on the way are directories. -/
def after? : Place → List String → Option Place
  | place, [] => some place
  | place, name :: others =>
    if FilePath.staysThere name then place.after? others
    else if name = ".." then place.parent.after? others
    else
      match place.child? name with
      | none => none
      | some next => next.after? others

/-- The place where a path leads if all on the way are directories. -/
def ofPath? (path : String) : Option Place :=
  let parts := FilePath.names path
  if parts = [""] then none
  else if parts.head? = some "" then after? (.fromRoot []) parts.tail
  else after? (.within []) parts

end Place

/-- A path leads to none of the files of some names at the top of the working directory. -/
def PathApart (path : String) (names : List String) : Prop :=
  ∀ name ∈ names, Place.ofPath? path ≠ some (.within [name])

/-- Whether a path is apart from files can be decided by following its names. -/
instance (path : String) (names : List String) : Decidable (PathApart path names) :=
  inferInstanceAs (Decidable (∀ name ∈ names, Place.ofPath? path ≠ some (.within [name])))

namespace Directory

/-- Two directories hold the same but for the files of some names at their top. -/
def SameBut (here there : Directory) (names : List String) : Prop :=
  ∀ parents name, here.entry? (parents ++ [name]) = there.entry? (parents ++ [name]) ∨
    parents = [] ∧ name ∈ names ∧
      here.entry? [name] ≠ some .directory ∧ there.entry? [name] ≠ some .directory

variable {here there : Directory} {names : List String}

/-- A directory holds the same but for a file that is put in the place of another, or where nothing
was. A new file could add directories on its way, but at the top it has none. -/
theorem sameBut_cons (directory : Directory) (name : String) (bytes : ByteArray)
    (free : directory.entry? [name] ≠ some .directory) :
    { directory with files := ([name], bytes) :: directory.files }.SameBut directory [name] := by
  intro parents last
  by_cases same : parents ++ [last] = [name]
  · obtain ⟨rfl, rfl⟩ : parents = [] ∧ last = name := by
      simpa [List.append_eq_singleton_iff] using same
    refine .inr ⟨rfl, List.mem_singleton_self _, ?_, free⟩
    unfold entry?
    simp
  · have noPrefix : (parents ++ [last]).isPrefixOf [name] = false := by
      rw [Bool.eq_false_iff, ne_eq, List.isPrefixOf_iff_prefix]
      intro front
      exact same (front.eq_of_length_le (by simp))
    have noMatch : (parents ++ [last] == [name]) = false := beq_eq_false_iff_ne.mpr same
    refine .inl ?_
    unfold entry? hasDirectory
    simp only [List.lookup_cons, noMatch, List.any_cons, noPrefix, Bool.false_or]

/-- What differs in fewer files differs in no others, so more names may be allowed for. -/
theorem SameBut.mono (same : here.SameBut there names) {more : List String} (fewer : names ⊆ more) :
    here.SameBut there more := by
  intro parents name
  rcases same parents name with alike | ⟨top, listed, files⟩
  · exact .inl alike
  · exact .inr ⟨top, fewer listed, files⟩

/-- Where a name leads to there is the same, but for the files of the names. Places outside of the
working directory are not touched at all. -/
theorem SameBut.entryAt? (same : here.SameBut there names) {place next : Place} {part : String}
    (child : place.child? part = some next) :
    here.entryAt? next = there.entryAt? next ∨
      ∃ name ∈ names, next = .within [name] ∧
        here.entryAt? next ≠ some .directory ∧ there.entryAt? next ≠ some .directory := by
  cases place with
  | within parents =>
    obtain rfl := Option.some.inj child
    rcases same parents part with alike | ⟨rfl, listed, files⟩
    · exact .inl alike
    · exact .inr ⟨part, listed, rfl, files⟩
  | fromRoot parents =>
    obtain rfl := Option.some.inj child
    exact .inl rfl
  | above => contradiction

/-- What names lead to behind an entry: a directory is gone through, and anything else has to be
the last. -/
def enter (directory : Directory) (place : Place) (others : List String) :
    Option Entry → Except ReadError Entry
  | none => .error .notFound
  | some .directory => directory.follow place others
  | some entry => if others = [] then .ok entry else .error .notDirectory

/-- A name that leads down leads to what stands there, and on from it. So two directories need to be
compared at that one entry. -/
theorem follow_cons_eq_enter (directory : Directory) {place next : Place} {name : String}
    {others : List String} (moves : ¬ FilePath.staysThere name = true) (down : name ≠ "..")
    (short : ¬ FilePath.isTooLongName name = true) (child : place.child? name = some next) :
    directory.follow place (name :: others) =
      directory.enter next others (directory.entryAt? next) := by
  rw [follow, if_neg moves, if_neg down, if_neg short, child]
  dsimp only
  cases directory.entryAt? next with
  | none => rfl
  | some entry => cases entry <;> rfl

/-- What is no directory is not gone through, be it a file or nothing at all. -/
theorem enter_toOption_eq_none (directory : Directory) (place : Place) {others : List String}
    (more : others ≠ []) {stands : Option Entry} (other : stands ≠ some .directory) :
    (directory.enter place others stands).toOption = none := by
  cases stands with
  | none => rfl
  | some entry =>
    cases entry with
    | directory => exact absurd rfl other
    | _ =>
      rw [enter, if_neg more]
      · rfl
      · exact fun same => other (congrArg some same)

/-- Names that do not lead to one of the files are followed alike. The induction is on the names,
with the place held general. A name that leads to one of the files has others behind it, and those
lead nowhere. -/
theorem SameBut.follow_toOption_eq (same : here.SameBut there names) (parts : List String)
    (place : Place) (elsewhere : ∀ name ∈ names, place.after? parts ≠ some (.within [name])) :
    (here.follow place parts).toOption = (there.follow place parts).toOption := by
  induction parts generalizing place with
  | nil => rfl
  | cons part others inOthers =>
    rw [Place.after?] at elsewhere
    by_cases stays : FilePath.staysThere part = true
    · rw [if_pos stays] at elsewhere
      simp only [follow, if_pos stays]
      exact inOthers place elsewhere
    rw [if_neg stays] at elsewhere
    by_cases up : part = ".."
    · rw [if_pos up] at elsewhere
      simp only [follow, if_neg stays, if_pos up]
      exact inOthers place.parent elsewhere
    rw [if_neg up] at elsewhere
    by_cases long : FilePath.isTooLongName part = true
    · simp only [follow, if_neg stays, if_neg up, if_pos long]
    cases child : place.child? part with
    | none => simp only [follow, if_neg stays, if_neg up, if_neg long, child]
    | some next =>
      rw [child] at elsewhere
      rw [here.follow_cons_eq_enter stays up long child,
        there.follow_cons_eq_enter stays up long child]
      rcases same.entryAt? child with alike | ⟨name, listed, rfl, notHere, notThere⟩
      · rw [alike]
        cases there.entryAt? next with
        | none => rfl
        | some entry =>
          cases entry with
          | directory => exact inOthers next elsewhere
          | _ => rfl
      · -- A path that ends here would lead to the file, so it goes on, and cannot.
        have more : others ≠ [] := by
          rintro rfl
          exact elsewhere name listed rfl
        rw [here.enter_toOption_eq_none _ more notHere,
          there.enter_toOption_eq_none _ more notThere]

/-- A path that can be one is followed from the root if its first name is empty, and else from the
working directory. The cases of the definition are put into the form in which the law below goes
through them. -/
theorem resolve_eq_ite (directory : Directory) (path : String) :
    directory.resolve path =
      if FilePath.hasNul path then .error .nulInPath
      else if FilePath.isTooLong path then .error .nameTooLong
      else if FilePath.names path = [""] then .error .notFound
      else if (FilePath.names path).head? = some "" then
        directory.follow (.fromRoot []) (FilePath.names path).tail
      else directory.follow (.within []) (FilePath.names path) := by
  rw [resolve]
  generalize FilePath.names path = parts
  congr 2
  rcases parts with _ | ⟨first, others⟩
  · rfl
  · by_cases rooted : first = ""
    · subst rooted
      cases others <;> simp
    · split <;> simp_all

/-- The bytes at a path are those of the entry to which it leads, if it is one that has bytes. -/
theorem bytesAt_toOption (directory : Directory) (path : String) :
    (directory.bytesAt path).toOption = (directory.resolve path).toOption.bind Entry.bytes? := by
  rw [bytesAt]
  cases directory.resolve path with
  | error error => rfl
  | ok entry => cases entry <;> rfl

/-- There is a file at a path if the entry to which it leads is one; the reason why it might lead
nowhere does not matter. -/
theorem isFile_eq_any (directory : Directory) (path : String) :
    directory.isFile path = (directory.resolve path).toOption.any Entry.isFile := by
  rw [isFile]
  cases directory.resolve path with
  | error error => rfl
  | ok entry => cases entry <;> rfl

/-- A path that does not lead to one of the files leads to the same in both directories. What makes
a path impossible is the same in both as well. -/
theorem SameBut.resolve_toOption_eq (same : here.SameBut there names) {path : String}
    (apart : PathApart path names) :
    (here.resolve path).toOption = (there.resolve path).toOption := by
  rw [PathApart, Place.ofPath?] at apart
  rw [resolve_eq_ite, resolve_eq_ite]
  by_cases nul : FilePath.hasNul path = true
  · simp only [if_pos nul]
  by_cases long : FilePath.isTooLong path = true
  · simp only [if_neg nul, if_pos long]
  by_cases empty : FilePath.names path = [""]
  · simp only [if_neg nul, if_neg long, if_pos empty]
  by_cases rooted : (FilePath.names path).head? = some ""
  · simp only [if_neg empty, if_pos rooted] at apart
    simp only [if_neg nul, if_neg long, if_neg empty, if_pos rooted]
    exact same.follow_toOption_eq _ _ apart
  · simp only [if_neg empty, if_neg rooted] at apart
    simp only [if_neg nul, if_neg long, if_neg empty, if_neg rooted]
    exact same.follow_toOption_eq _ _ apart

/-- Two directories hold the same for a path that does not lead to one of the files, up to the
reason why nothing could be read. -/
theorem SameBut.bytesAt_toOption_eq (same : here.SameBut there names) {path : String}
    (apart : PathApart path names) :
    (here.bytesAt path).toOption = (there.bytesAt path).toOption := by
  rw [bytesAt_toOption, bytesAt_toOption, same.resolve_toOption_eq apart]

/-- A path that does not lead to one of the files leads to a file in both directories or in none, so
both have the same usual files. -/
theorem SameBut.isFile_eq (same : here.SameBut there names) {path : String}
    (apart : PathApart path names) :
    here.isFile path = there.isFile path := by
  rw [isFile_eq_any, isFile_eq_any, same.resolve_toOption_eq apart]

end Directory

end EsqlTree.Cli
