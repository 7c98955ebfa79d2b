import MultiUserChat.Verif.AbsolutePaths
import MultiUserChat.Web.StaticFiles
/-!
# Requests for files

A request chooses a path behind the directory of the pages. Whatever it chooses, a path that `safeJoin`
returns stays in the directory. But the listener catches no error: it answers exactly those requests
whose path can be decoded and has no null character when the file is read.
-/

namespace MultiUserChat.Web

variable {platform : Platform}

/-- `clientPublicDir` and `serverPublicDir`: a directory in that of the program. -/
def publicDir (dirname : AbsolutePath platform) (name : Text) : AbsolutePath platform :=
  (dirname.append name).normal

/-- The directories of the pages are absolute paths. -/
theorem join_publicDir (dirname : AbsolutePath platform) {name : Text} (nonempty : name ≠ []) :
    platform.join [dirname.text, name] = (publicDir dirname name).text :=
  dirname.join_text nonempty

/-! ## What is asked of the listener -/

variable (root : AbsolutePath platform)

/-- A path to the directory or to an entry below it: its own names are those of entries, and they begin
with those of the directory. -/
def Below (file : Text) : Prop :=
  ∃ path : AbsolutePath platform, file = path.text ∧ path.device = root.device ∧
    platform.names path.rest = path.entries ∧ root.LeadsTo path

/-- A request is served: `safeJoin` returns, and a path only if it is one of the directory; and the
listener answers, whatever the files are. -/
structure Served (url : Text) : Prop where
  /-- No error, and no path out of the directory. -/
  joins : ∃ answer, safeJoin platform root.text url = .ok answer ∧
    ∀ file, answer = some file → Below root file
  /-- There is an answer. -/
  answers : ∀ files, ∃ response, createStaticServer platform root.text files url = .ok response

/-! ## What a request chooses -/

/-- The path that a decoded text chooses. -/
def requestedPath (text : Text) : AbsolutePath platform :=
  root.append (platform.normalize (relativePathOf text))

/-- The path that is chosen behind the directory. -/
def requestedBelow (text : Text) : Text :=
  platform.joinNames ((requestedPath root text).entries.drop root.entries.length)

/-- The guard of `safeJoin` turns away a way that begins with two dots or is an absolute path. -/
def TurnedAway (platform : Platform) (relative : Text) : Prop :=
  literal ".." <+: relative ∨ platform.isAbsolute relative = true

/-- The text is refused: its path leads out of the directory, or is turned away although it does not. -/
def Refused (text : Text) : Prop :=
  ¬root.LeadsTo (requestedPath root text) ∨ TurnedAway platform (requestedBelow root text)

/-- A request that does no harm: the URL is empty, or its path can be decoded, and then it is refused or
has no null character. -/
def Harmless (url : Text) : Prop :=
  url = [] ∨ ∃ text, Spells (url.takeWhile (· ≠ 0x3f)) text ∧
    (Refused root text ∨ ∀ part ∈ root.device :: (requestedPath root text).entries, 0 ∉ part)

/-! ## What the code makes of it -/

/-- The file that is joined. -/
theorem join_requestedPath (text : Text) :
    platform.join [root.text, platform.normalize (relativePathOf text)] =
      (requestedPath root text).normal.text :=
  root.join_text (Platform.normalize_ne_nil _)

/-- The guard turns away what is to be turned away. -/
theorem guard_iff (text : Text) :
    TurnedAway platform (platform.relative root.text (requestedPath root text).normal.text) ↔
      Refused root text := by
  have same : (requestedPath root text).normal.device = root.device := rfl
  by_cases below : root.LeadsTo (requestedPath root text)
  · rw [root.relative_below same (root.leadsTo_normal.mpr below), AbsolutePath.entries_normal]
    exact (or_iff_right (not_not.mpr below)).symm
  · have dots := root.relative_outside same (mt root.leadsTo_normal.mp below)
    exact iff_of_true (.inl dots) (.inl below)

/-- A text that is decoded chooses the file unless it is refused. -/
theorem safeJoin_spells {url text : Text} (spells : Spells (url.takeWhile (· ≠ 0x3f)) text) :
    Refused root text ∧ safeJoin platform root.text url = .ok none ∨
      ¬Refused root text ∧
        safeJoin platform root.text url = .ok (some (requestedPath root text).normal.text) := by
  have decoded : decodeURIComponent (url.takeWhile (· ≠ 0x3f)) = .ok text := by
    rw [decodeURIComponent, percentDecode_iff.mpr spells]
  unfold safeJoin
  rw [decoded]
  change _ ∧ (if _ then _ else _) = _ ∨ _ ∧ (if _ then _ else _) = _
  rw [join_requestedPath]
  by_cases refused : Refused root text
  · exact .inl ⟨refused, if_pos ((guard_iff root text).mpr refused)⟩
  · exact .inr ⟨refused, if_neg (mt (guard_iff root text).mp refused)⟩

/-- Only a URL whose path can be decoded is joined. -/
theorem spells_of_joined {url : Text} {answer : Option Text}
    (joined : safeJoin platform root.text url = .ok answer) :
    ∃ text, Spells (url.takeWhile (· ≠ 0x3f)) text := by
  cases decoded : percentDecode (url.takeWhile (· ≠ 0x3f)) with
  | none =>
    rw [safeJoin, decodeURIComponent, decoded] at joined
    contradiction
  | some text => exact ⟨text, percentDecode_iff.mp decoded⟩

/-- The path of a text that is not refused stays in the directory. -/
theorem requestedPath_below {text : Text} (accepted : ¬Refused root text) :
    Below root (requestedPath root text).normal.text := by
  have leads : root.LeadsTo (requestedPath root text) :=
    not_not.mp fun outside => accepted (.inl outside)
  refine ⟨(requestedPath root text).normal, rfl, rfl, ?_, root.leadsTo_normal.mpr leads⟩
  rw [AbsolutePath.names_normal, AbsolutePath.entries_normal]

/-- A text that can be decoded is joined, to a path of the directory if to any. -/
theorem joins_of_spells {url text : Text} (spells : Spells (url.takeWhile (· ≠ 0x3f)) text) :
    ∃ answer, safeJoin platform root.text url = .ok answer ∧
      ∀ file, answer = some file → Below root file := by
  obtain ⟨_, joined⟩ | ⟨accepted, joined⟩ := safeJoin_spells root spells
  · exact ⟨none, joined, fun file same => by contradiction⟩
  · exact ⟨_, joined, fun file same => Option.some.inj same ▸ requestedPath_below root accepted⟩

/-- No path out of the directory is returned for any URL. -/
theorem safeJoin_below {url file : Text}
    (joined : safeJoin platform root.text url = .ok (some file)) : Below root file := by
  obtain ⟨text, spells⟩ := spells_of_joined root joined
  obtain ⟨answer, returned, stays⟩ := joins_of_spells root spells
  rw [joined] at returned
  exact stays file (Except.ok.inj returned).symm

/-- A request that is refused is answered. -/
theorem answers_refused {files : Text → Option (List UInt8)} {url : Text}
    (joined : safeJoin platform root.text url = .ok none) :
    ∃ response, createStaticServer platform root.text files url = .ok response := by
  unfold createStaticServer
  rw [joined]
  split
  · exact ⟨_, rfl⟩
  · exact ⟨_, rfl⟩

/-- A file is read unless its path has a null character. -/
theorem answers_file_iff {files : Text → Option (List UInt8)} {url file : Text} (given : url ≠ [])
    (joined : safeJoin platform root.text url = .ok (some file)) (nonempty : file ≠ []) :
    (∃ response, createStaticServer platform root.text files url = .ok response) ↔ 0 ∉ file := by
  unfold createStaticServer
  rw [if_neg given, joined]
  change (∃ response, (if file = [] then _ else _) = _) ↔ _
  rw [if_neg nonempty, Option.getD_some]
  by_cases null : 0 ∈ file
  · rw [readFile, if_pos null]
    refine iff_of_false ?_ (not_not.mpr null)
    rintro ⟨response, answered⟩
    contradiction
  · rw [readFile, if_neg null]
    refine iff_of_true ?_ null
    cases content : files file with
    | none => exact ⟨_, rfl⟩
    | some data => exact ⟨_, rfl⟩

/-- The file of an accepted text is read when no part of its path has a null character. -/
theorem null_requestedPath {text : Text} : 0 ∉ (requestedPath root text).normal.text ↔
    ∀ part ∈ root.device :: (requestedPath root text).entries, 0 ∉ part := by
  rw [AbsolutePath.mem_text_normal _ Platform.isSeparator_null]
  push Not
  rfl

/-! ## The requests that are served -/

/-- The requests that are served are those that do no harm; no request leaves the directory. -/
theorem staticServer_iff (url : Text) : Served root url ↔ Harmless root url := by
  constructor
  · rintro ⟨⟨answer, joined, _⟩, answers⟩
    by_cases given : url = []
    · exact .inl given
    obtain ⟨text, spells⟩ := spells_of_joined root joined
    refine .inr ⟨text, spells, ?_⟩
    obtain ⟨refused, _⟩ | ⟨_, file⟩ := safeJoin_spells root spells
    · exact .inl refused
    · have readable :=
        (answers_file_iff root given file (AbsolutePath.text_ne_nil _)).mp (answers fun _ => none)
      exact .inr ((null_requestedPath root).mp readable)
  · rintro (rfl | ⟨text, spells, harmless⟩)
    · exact ⟨joins_of_spells root .nil, fun files => ⟨_, if_pos rfl⟩⟩
    · refine ⟨joins_of_spells root spells, fun files => ?_⟩
      by_cases given : url = []
      · exact ⟨_, if_pos given⟩
      obtain ⟨_, joined⟩ | ⟨accepted, joined⟩ := safeJoin_spells root spells
      · exact answers_refused root joined
      · have plain := harmless.resolve_left accepted
        exact (answers_file_iff root given joined (AbsolutePath.text_ne_nil _)).mpr
          ((null_requestedPath root).mpr plain)

/-- The directory of the pages of a program in `/srv/web`. -/
def srvPublic : AbsolutePath (Platform.posix (literal "/")) :=
  publicDir ⟨[], .none rfl, literal "srv/web"⟩ (literal "public")

/-- A percent sign alone is not decoded, and a null character is not read: no answer to either. -/
theorem staticServer_unanswered :
    ¬Served srvPublic (literal "/%") ∧ ¬Served srvPublic (literal "/%00") := by
  constructor
  · rintro ⟨⟨answer, joined, _⟩, _⟩
    have thrown : (safeJoin (Platform.posix (literal "/")) srvPublic.text (literal "/%")).toOption =
        none := by decide
    rw [joined] at thrown
    contradiction
  · rintro ⟨_, answers⟩
    obtain ⟨response, answered⟩ := answers fun _ => none
    have thrown : (createStaticServer (Platform.posix (literal "/")) srvPublic.text (fun _ => none)
        (literal "/%00")).toOption = none := by decide
    rw [answered] at thrown
    contradiction

end MultiUserChat.Web
