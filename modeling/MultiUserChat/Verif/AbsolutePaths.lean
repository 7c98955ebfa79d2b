import MultiUserChat.Web.Path
/-!
# Absolute paths

A path that starts at the root of a device leads to the same place in every working directory.
Normalising it leaves the names of entries (`normalize_text`), a path joined behind it stays on its
device (`join_text`), and the way to another path of the device begins with `..` unless that one leads
below (`relative_below`, `relative_outside`).
-/

namespace MultiUserChat.Web

namespace Platform

variable (platform : Platform)

/-- A device as a normalised path names it. -/
inductive IsDevice : Text → Prop
  /-- POSIX has none. -/
  | none (posix : platform.windows = false) : IsDevice []
  /-- A drive of Windows. -/
  | drive {letter : Nat} (windows : platform.windows = true) (isRoot : isDeviceRoot letter = true) :
      IsDevice [letter, 0x3a]
  /-- A share of a server. -/
  | share {server name : Text} (windows : platform.windows = true)
      (named : ∀ part ∈ [server, name],
        part ≠ [] ∧ ∀ point ∈ part, platform.isSeparator point = false) :
      IsDevice ([platform.separator, platform.separator] ++ server ++ [platform.separator] ++ name)

end Platform

/-- A path that starts at the root of a device. -/
structure AbsolutePath (platform : Platform) where
  /-- Device. -/
  device : Text
  /-- It is one of the platform. -/
  named : platform.IsDevice device
  /-- What follows the separator behind it. -/
  rest : Text

namespace Platform

variable {platform : Platform}

@[simp]
theorem isSeparator_separator : platform.isSeparator platform.separator = true := by
  unfold isSeparator separator
  cases platform.windows <;> rfl

/-- A null character is not a separator. -/
theorem isSeparator_null : platform.isSeparator 0 = false := by
  simp [isSeparator]

/-- A letter is not a separator. -/
theorem isSeparator_of_isDeviceRoot {point : Nat} (isRoot : isDeviceRoot point = true) :
    platform.isSeparator point = false := by
  unfold isDeviceRoot at isRoot
  unfold isSeparator
  simp only [Bool.or_eq_true, Bool.and_eq_true, decide_eq_true_eq] at isRoot
  simp only [Bool.or_eq_false_iff, Bool.and_eq_false_iff, beq_eq_false_iff_ne]
  omega

/-- A name that a separator follows is read up to it. -/
theorem takeWhile_name {name : Text} (free : ∀ point ∈ name, platform.isSeparator point = false)
    (rest : Text) :
    (name ++ platform.separator :: rest).takeWhile (!platform.isSeparator ·) = name ∧
      (name ++ platform.separator :: rest).dropWhile (!platform.isSeparator ·) =
        platform.separator :: rest := by
  have all : ∀ point ∈ name, (!platform.isSeparator point) = true := fun point member => by
    rw [free point member]
    rfl
  rw [List.takeWhile_append_of_pos all, List.dropWhile_append_of_pos all,
    List.takeWhile_cons_of_neg (by simp), List.dropWhile_cons_of_neg (by simp), List.append_nil]
  exact ⟨rfl, rfl⟩

/-- A name begins with no separators. -/
theorem separators_name {name : Text} (nonempty : name ≠ [])
    (free : ∀ point ∈ name, platform.isSeparator point = false) (rest : Text) :
    (name ++ rest).takeWhile platform.isSeparator = [] ∧
      (name ++ rest).dropWhile platform.isSeparator = name ++ rest := by
  cases name with
  | nil => contradiction
  | cons point name =>
    have other : ¬platform.isSeparator point = true := by simp [free]
    rw [List.cons_append, List.takeWhile_cons_of_neg other, List.dropWhile_cons_of_neg other]
    exact ⟨rfl, rfl⟩

/-- A device and a separator are the root of a path. -/
theorem root_device {device : Text} (named : platform.IsDevice device) (rest : Text) :
    platform.root (device ++ platform.separator :: rest) =
      ⟨device, true, platform.separator :: rest⟩ := by
  cases named with
  | none posix => simp [root, posix]
  | @drive letter windows isRoot =>
    have other : platform.isSeparator letter = false := isSeparator_of_isDeviceRoot isRoot
    simp [root, windows, share, drive, other, isRoot]
  | @share server name windows parts =>
    obtain ⟨serverNonempty, serverFree⟩ := parts server (by simp)
    obtain ⟨nameNonempty, nameFree⟩ := parts name (by simp)
    have split : [platform.separator, platform.separator] ++ server ++ [platform.separator] ++ name ++
          platform.separator :: rest =
        platform.separator :: platform.separator ::
          (server ++ platform.separator :: (name ++ platform.separator :: rest)) := by simp
    have read : platform.share (platform.separator :: platform.separator ::
          (server ++ platform.separator :: (name ++ platform.separator :: rest))) =
        some ([platform.separator, platform.separator] ++ server ++ [platform.separator] ++ name,
          platform.separator :: rest) := by
      unfold share
      dsimp only
      rw [(takeWhile_name serverFree _).1, (takeWhile_name serverFree _).2,
        List.dropWhile_cons_of_pos isSeparator_separator, (separators_name nameNonempty nameFree _).2,
        (takeWhile_name nameFree _).1, (takeWhile_name nameFree _).2,
        if_pos ⟨isSeparator_separator, isSeparator_separator, serverNonempty, nameNonempty⟩]
    rw [split, root, if_pos windows, read]

/-- On Windows a device has names of its own. -/
theorem names_device_ne_nil {device : Text} (named : platform.IsDevice device)
    (windows : platform.windows = true) : platform.names device ≠ [] := by
  intro none_
  have all := tokens_eq_nil.mp none_
  cases named with
  | none posix =>
    rw [windows] at posix
    contradiction
  | @drive letter _ isRoot =>
    have separates := all letter (by simp)
    rw [isSeparator_of_isDeviceRoot isRoot] at separates
    contradiction
  | @share server name _ parts =>
    obtain ⟨nonempty, free⟩ := parts server (by simp)
    obtain ⟨point, member⟩ := List.exists_mem_of_ne_nil server nonempty
    have separates := all point (by simp [member])
    rw [free point member] at separates
    contradiction

/-- Names of POSIX are all behind a root without a device. -/
theorem root_posix (posix : platform.windows = false) (path : Text) :
    (platform.root path).device = [] := by
  unfold root
  rw [if_neg (by simp [posix])]

/-- Only POSIX has no devices. -/
theorem IsDevice.posix (named : platform.IsDevice []) : platform.windows = false := by
  generalize none_ : ([] : Text) = device at named
  cases named with
  | none posix => exact posix
  | drive => contradiction
  | share => simp at none_

/-- The names of a path. -/
theorem names_joinNames {names : List Text}
    (named : ∀ name ∈ names, name ≠ [] ∧ ∀ point ∈ name, platform.isSeparator point = false) :
    platform.names (platform.joinNames names) = names :=
  tokens_intercalate isSeparator_separator named

/-- No name is left that the path did not have. -/
theorem normalizeNames_named (path : Text) : ∀ name ∈ platform.normalizeNames false path,
    name ≠ [] ∧ ∀ point ∈ name, platform.isSeparator point = false := by
  intro name member
  obtain there | ⟨keeps, _⟩ := mem_resolveNames member
  · exact ⟨ne_nil_of_mem_tokens there, free_of_mem_tokens there⟩
  · contradiction

/-- What is left stays when it is normalised again. -/
theorem normalizeNames_of_names {path left : Text}
    (same : platform.names left = platform.normalizeNames false path) :
    platform.normalizeNames false left = platform.normalizeNames false path := by
  rw [normalizeNames, same]
  exact resolveNames_entries (entries_resolveNames _)

/-- A separator in front adds no name. -/
theorem normalizeNames_cons (above : Bool) (path : Text) :
    platform.normalizeNames above (platform.separator :: path) =
      platform.normalizeNames above path :=
  congrArg (resolveNames _ _ above) (tokens_cons isSeparator_separator path)

/-- `path.normalize` leaves something. -/
theorem normalize_ne_nil (path : Text) : platform.normalize path ≠ [] := by
  unfold normalize
  dsimp only
  split
  · decide
  by_cases absolute : (platform.root path).absolute = true
  · rw [if_pos absolute]
    exact List.append_ne_nil_of_right_ne_nil _ (List.cons_ne_nil _ _)
  · rw [if_neg absolute]
    refine List.append_ne_nil_of_right_ne_nil _ ?_
    rw [Bool.not_eq_true] at absolute
    rw [absolute]
    generalize platform.joinNames (platform.normalizeNames (!false) (platform.root path).rest) = names
    have tail : (if names = [] ∧ (!false) = true then literal "." else names) ≠ [] := by
      split
      · decide
      · rename_i some_
        exact fun none_ => some_ ⟨none_, rfl⟩
    generalize (if names = [] ∧ (!false) = true then literal "." else names) = tail_ at tail ⊢
    split
    · exact List.append_ne_nil_of_left_ne_nil tail _
    · exact tail

end Platform

namespace AbsolutePath

variable {platform : Platform} (path : AbsolutePath platform)

/-- The path. -/
def text : Text := path.device ++ platform.separator :: path.rest

/-- No path is empty. -/
theorem text_ne_nil : path.text ≠ [] :=
  List.append_ne_nil_of_right_ne_nil _ (List.cons_ne_nil _ _)

/-- The names of the entries that lead from the root of the device to its end. -/
def entries : List Text := platform.normalizeNames false path.rest

/-- The path with a name, or several, behind it. -/
def append (later : Text) : AbsolutePath platform :=
  { path with rest := path.rest ++ platform.separator :: later }

/-- The normalised path: the names of its entries, and a separator behind them if one was there. -/
def normal : AbsolutePath platform :=
  { path with
    rest :=
      let tail := platform.joinNames path.entries
      if tail ≠ [] ∧ path.text.getLast?.any platform.isSeparator then tail ++ [platform.separator]
      else tail }

/-- `root` takes the path apart. -/
theorem root_text : platform.root path.text = ⟨path.device, true, platform.separator :: path.rest⟩ :=
  Platform.root_device path.named path.rest

/-- The path leads to its entries. -/
theorem place_text : platform.place path.text = ⟨path.device, path.entries⟩ := by
  unfold Platform.place
  dsimp only
  rw [root_text, if_pos rfl, Platform.normalizeNames_cons]
  congr 1
  split
  · rename_i none_
    dsimp only at none_
    have posix := (none_ ▸ path.named).posix
    rw [Platform.root_posix posix, none_]
  · rfl

/-- A normalised path has the names of its entries only. -/
theorem names_normal : platform.names path.normal.rest = path.entries := by
  have left : platform.names (platform.joinNames path.entries) = path.entries :=
    Platform.names_joinNames (Platform.normalizeNames_named path.rest)
  unfold normal
  dsimp only
  split
  · rw [Platform.names, tokens_append_cons _ Platform.isSeparator_separator, tokens_nil,
      List.append_nil]
    exact left
  · exact left

/-- Normalising keeps the entries. -/
theorem entries_normal : path.normal.entries = path.entries :=
  Platform.normalizeNames_of_names path.names_normal

/-- Any other point than a separator stands in a normalised path if it stands in the device or a name. -/
theorem mem_text_normal {point : Nat} (other : platform.isSeparator point = false) :
    point ∈ path.normal.text ↔ ∃ part ∈ path.device :: path.entries, point ∈ part := by
  have differs : point ≠ platform.separator := by
    rintro rfl
    rw [Platform.isSeparator_separator] at other
    contradiction
  have behind : point ∈ path.normal.rest ↔ ∃ name ∈ path.entries, point ∈ name := by
    have flat : (platform.names path.normal.rest).flatten =
        path.normal.rest.filter (!platform.isSeparator ·) := flatten_tokens _
    rw [names_normal] at flat
    rw [← List.mem_flatten, flat, List.mem_filter, other]
    exact (and_iff_left rfl).symm
  rw [text, List.mem_append, List.mem_cons, behind, List.exists_mem_cons_iff]
  exact or_congr_right (or_iff_right differs)

/-- `path.normalize` of an absolute path. -/
theorem normalize_text : platform.normalize path.text = path.normal.text := by
  unfold Platform.normalize
  dsimp only
  rw [if_neg path.text_ne_nil, root_text, Bool.not_true, Platform.normalizeNames_cons, ← entries,
    if_neg (by simp : ¬(_ ∧ (false : Bool) = true)), if_pos rfl]
  rfl

/-- A joined path keeps the separators in front of its device. -/
theorem squeeze_text (windows : platform.windows = true) (joined : AbsolutePath platform)
    (same : joined.device = path.device) :
    (if !platform.startsShare path.text then platform.squeeze joined.text else joined.text) =
      joined.text := by
  unfold text
  rw [same]
  have named := path.named
  generalize path.device = device at named
  cases named with
  | none posix =>
    rw [windows] at posix
    contradiction
  | @drive letter _ isRoot =>
    have other : platform.isSeparator letter = false :=
      Platform.isSeparator_of_isDeviceRoot isRoot
    simp [Platform.squeeze, other]
  | @share server name _ parts =>
    obtain ⟨nonempty, free⟩ := parts server (by simp)
    have shares : platform.startsShare ([platform.separator, platform.separator] ++ server ++
        [platform.separator] ++ name ++ platform.separator :: path.rest) = true := by
      have front := (Platform.separators_name nonempty free
        ([platform.separator] ++ name ++ platform.separator :: path.rest)).1
      simp only [List.cons_append, List.nil_append] at front
      simp [Platform.startsShare, front]
    rw [shares]
    rfl

/-- `path.join` of an absolute path and another one. -/
theorem join_text {later : Text} (nonempty : later ≠ []) :
    platform.join [path.text, later] = (path.append later).normal.text := by
  have parts : [path.text, later].filter (· ≠ []) = [path.text, later] := by
    simp [path.text_ne_nil, nonempty]
  have joined : platform.joinNames [path.text, later] = (path.append later).text := by
    simp [Platform.joinNames, List.intercalate_cons_cons, text, append]
  unfold Platform.join
  rw [parts]
  dsimp only
  rw [joined, ← normalize_text]
  congr 1
  by_cases windows : platform.windows = true
  · have kept := path.squeeze_text windows (path.append later) rfl
    simpa [windows] using kept
  · exact if_neg fun both => windows both.1

/-- `path.relative` of two absolute paths of a device: the names that lead from the entries of one to
those of the other. -/
theorem relative_text (other : AbsolutePath platform) (same : other.device = path.device) :
    platform.relative path.text other.text = platform.joinNames
      (relativeNames (literal "..") platform.fold path.entries other.entries) := by
  have shared : ¬(platform.windows = true ∧ commonLength
      ((platform.names path.device ++ path.entries).map platform.fold)
      ((platform.names path.device ++ other.entries).map platform.fold) = 0) := by
    rintro ⟨windows, none_⟩
    rw [List.map_append, List.map_append, commonLength_append, List.length_map] at none_
    have empty := List.length_eq_zero_iff.mp (Nat.eq_zero_of_add_eq_zero_right none_)
    exact Platform.names_device_ne_nil path.named windows empty
  unfold Platform.relative Platform.segments
  dsimp only
  rw [place_text, place_text, same, if_neg shared, relativeNames_append]

/-- A path lies below another one of its device, or is the same: its entries begin with those of the
other. -/
def LeadsTo (other : AbsolutePath platform) : Prop :=
  path.entries.map platform.fold <+: other.entries.map platform.fold

/-- Normalising the other path does not matter. -/
theorem leadsTo_normal {other : AbsolutePath platform} :
    path.LeadsTo other.normal ↔ path.LeadsTo other := by
  unfold LeadsTo
  rw [entries_normal]

/-- The way to a path below is made of the further entries. -/
theorem relative_below {other : AbsolutePath platform} (same : other.device = path.device)
    (below : path.LeadsTo other) : platform.relative path.text other.text =
      platform.joinNames (other.entries.drop path.entries.length) := by
  rw [relative_text path other same, relativeNames_below below]

/-- The way to any other path begins with two dots. -/
theorem relative_outside {other : AbsolutePath platform} (same : other.device = path.device)
    (outside : ¬path.LeadsTo other) :
    literal ".." <+: platform.relative path.text other.text := by
  obtain ⟨later, up⟩ : ∃ later, relativeNames (literal "..") platform.fold path.entries
      other.entries = literal ".." :: later := relativeNames_outside outside
  rw [relative_text path other same, up]
  cases later with
  | nil => simp [Platform.joinNames]
  | cons next later => simp [Platform.joinNames, List.intercalate_cons_cons]

end AbsolutePath

end MultiUserChat.Web
