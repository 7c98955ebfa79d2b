import MultiUserChat.Common.FileUtils
/-!
# Where received files are stored

The sender and the name of a file are chosen by a peer. `build_unique_download_path` makes one path
component of them, behind which nothing of another directory can be reached, and tries numbered
variants of it until one is free.
-/

namespace MultiUserChat

/-- The bytes that are not left in a component: `/`, `\`, `:` and line ends. -/
def reservedBytes : List UInt8 := [0x2f, 0x5c, 0x3a, 0xa, 0xd]

/-- A name that denotes an entry of the directory it is looked up in. -/
structure PlainComponent (name : CString) : Prop where
  /-- It has no reserved byte. -/
  plain : ∀ byte ∈ reservedBytes, byte ∉ name.bytes
  /-- It is not the directory itself. -/
  notSelf : name ≠ CString.ofString "."
  /-- It is not the directory above. -/
  notParent : name ≠ CString.ofString ".."

/-- The last component of the candidate of a number. -/
def downloadComponent (sender filename : CString) (number : Nat) : CString :=
  let (stem, ext) := splitExtension (sanitizeComponent (baseFilename filename) fileNameMaxLen)
  let name := sanitizeComponent sender 128 ++ CString.ofString "_" ++ stem
  if number = 0 then name ++ ext else name ++ CString.ofString "_" ++ decimal 0 number ++ ext

/-- The candidate of a number for a sender and a file name. -/
def downloadPath (dir sender filename : CString) (number : Nat) : CString :=
  dir ++ CString.ofString "/" ++ downloadComponent sender filename number

/-- A candidate is the directory, a slash and its last component. -/
theorem candidatePath_eq (dir sender filename : CString) (number : Nat) :
    candidatePath dir (sanitizeComponent sender 128)
        (splitExtension (sanitizeComponent (baseFilename filename) fileNameMaxLen)).1
        (splitExtension (sanitizeComponent (baseFilename filename) fileNameMaxLen)).2 number =
      downloadPath dir sender filename number := by
  apply CString.ext
  unfold candidatePath downloadPath downloadComponent
  split <;> simp only [CString.append_bytes, List.append_assoc]

/-! ## Components -/

/-- No reserved byte is left in a sanitized text. -/
theorem sanitizeComponent_plain (text : CString) (outSize : Nat) :
    ∀ byte ∈ reservedBytes, byte ∉ (sanitizeComponent text outSize).bytes := by
  intro byte reserved member
  obtain ⟨given, _, rfl⟩ := List.mem_map.mp member
  unfold sanitizeByte at reserved
  split at reserved
  · exact absurd reserved (by decide)
  · rename_i other
    simp only [reservedBytes, List.mem_cons, List.not_mem_nil, or_false] at reserved
    tauto

/-- The stem and the extension have the bytes of the name. -/
theorem splitExtension_bytes (name : CString) :
    (splitExtension name).1.bytes ++ (splitExtension name).2.bytes = name.bytes := by
  unfold splitExtension
  dsimp only
  split
  · exact List.take_append_drop _ _
  · exact List.append_nil _

/-- Every candidate's last component is plain. -/
theorem downloadComponent_plain (sender filename : CString) (number : Nat) :
    PlainComponent (downloadComponent sender filename number) := by
  have name := splitExtension_bytes (sanitizeComponent (baseFilename filename) fileNameMaxLen)
  have file := sanitizeComponent_plain (baseFilename filename) fileNameMaxLen
  have own := sanitizeComponent_plain sender 128
  unfold downloadComponent
  generalize splitExtension (sanitizeComponent (baseFilename filename) fileNameMaxLen) = parts at name ⊢
  obtain ⟨stem, ext⟩ := parts
  rw [← name] at file
  dsimp only at file ⊢
  have bar : ∀ byte ∈ reservedBytes, byte ∉ (CString.ofString "_").bytes := by decide +kernel
  have digits : ∀ byte ∈ reservedBytes, byte ∉ (decimal 0 number).bytes := by
    intro byte reserved member
    obtain ⟨low, high⟩ := decimal_range 0 number byte member
    simp only [reservedBytes, List.mem_cons, List.not_mem_nil, or_false] at reserved
    rcases reserved with rfl | rfl | rfl | rfl | rfl <;> revert low high <;> decide
  have underscore : (0x5f : UInt8) ∈ (sanitizeComponent sender 128).bytes ++
      (CString.ofString "_").bytes := List.mem_append_right _ (by decide)
  -- A component with an underscore is neither of the two special names.
  have special : ∀ component : CString, 0x5f ∈ component.bytes →
      component ≠ CString.ofString "." ∧ component ≠ CString.ofString ".." := by
    intro component member
    constructor
    · rintro rfl
      exact absurd member (by decide)
    · rintro rfl
      exact absurd member (by decide)
  have marked : (0x5f : UInt8) ∈ (if number = 0 then
      sanitizeComponent sender 128 ++ CString.ofString "_" ++ stem ++ ext
    else sanitizeComponent sender 128 ++ CString.ofString "_" ++ stem ++ CString.ofString "_" ++
      decimal 0 number ++ ext).bytes := by
    split <;> simp only [CString.append_bytes, List.append_assoc] <;>
      · rw [← List.append_assoc]
        exact List.mem_append_left _ underscore
  refine ⟨fun byte reserved member => ?_, (special _ marked).1, (special _ marked).2⟩
  have outside := file byte reserved
  rw [List.mem_append, not_or] at outside
  split at member <;> simp only [CString.append_bytes, List.mem_append] at member
  · rcases member with ((here | here) | here) | here
    · exact own byte reserved here
    · exact bar byte reserved here
    · exact outside.1 here
    · exact outside.2 here
  · rcases member with ((((here | here) | here) | here) | here) | here
    · exact own byte reserved here
    · exact bar byte reserved here
    · exact outside.1 here
    · exact bar byte reserved here
    · exact digits byte reserved here
    · exact outside.2 here

/-- Different numbers have different candidates. -/
theorem downloadPath_injective (dir sender filename : CString) :
    Function.Injective (downloadPath dir sender filename) := by
  intro left right same
  have bytes := congrArg CString.bytes same
  simp only [downloadPath, CString.append_bytes, List.append_cancel_left_eq] at bytes
  unfold downloadComponent at bytes
  generalize splitExtension (sanitizeComponent (baseFilename filename) fileNameMaxLen) = parts at bytes
  have bar : (CString.ofString "_").bytes.length = 1 := by decide
  -- A number other than zero adds an underscore and its digits.
  have longer : ∀ (name : CString) (number : Nat),
      (name ++ CString.ofString "_" ++ decimal 0 number ++ parts.2).bytes ≠ (name ++ parts.2).bytes := by
    intro name number equal
    have lengths := congrArg List.length equal
    simp only [CString.append_bytes, List.length_append] at lengths
    omega
  dsimp only at bytes
  by_cases first : left = 0 <;> by_cases second : right = 0
  · rw [first, second]
  · rw [if_pos first, if_neg second] at bytes
    exact absurd bytes.symm (longer _ right)
  · rw [if_neg first, if_pos second] at bytes
    exact absurd bytes (longer _ left)
  · rw [if_neg first, if_neg second] at bytes
    simp only [CString.append_bytes, List.append_assoc, List.append_cancel_left_eq,
      List.append_cancel_right_eq] at bytes
    exact decimal_injective 0 (CString.ext bytes)

/-! ## The search -/

section

variable {outcome : DownloadOutcome} {dir sender stem ext : CString} {outSize : Nat}

/-- The search returns the first candidate that is free, and it fits. -/
theorem tryCandidates_some {attempts number : Nat} {path : CString}
    (found : tryCandidates outcome dir sender stem ext outSize attempts number = some path) :
    ∃ turn < attempts, path = candidatePath dir sender stem ext (number + turn) ∧
      path.length + 1 ≤ outSize ∧ outcome.present path = false ∧
      ∀ earlier < turn, outcome.present (candidatePath dir sender stem ext (number + earlier)) =
        true := by
  induction attempts generalizing number with
  | zero => contradiction
  | succ attempts ih =>
    unfold tryCandidates at found
    dsimp only at found
    split at found
    · contradiction
    split at found
    · contradiction
    split at found
    · rename_i fits _ free
      cases found
      exact ⟨0, Nat.succ_pos _, rfl, Nat.le_of_not_gt fits, free, fun earlier before =>
        absurd before (Nat.not_lt_zero _)⟩
    · rename_i taken
      obtain ⟨turn, inside, rfl, fits, free, before⟩ := ih found
      have shift : ∀ turn, number + 1 + turn = number + (turn + 1) := by omega
      simp only [shift] at fits free before ⊢
      exact ⟨turn + 1, by omega, rfl, fits, free,
        Nat.forall_lt_succ_left.mpr ⟨by simpa using taken, before⟩⟩

/-- With memory, the search fails at a candidate that does not fit or when none is free. -/
theorem tryCandidates_none {attempts number : Nat} (memory : ∀ turn, outcome.allocated turn = true)
    (failed : tryCandidates outcome dir sender stem ext outSize attempts number = none) :
    (∃ turn < attempts,
        (∀ earlier < turn,
          outcome.present (candidatePath dir sender stem ext (number + earlier)) = true) ∧
        outSize < (candidatePath dir sender stem ext (number + turn)).length + 1) ∨
      ∀ turn < attempts, outcome.present (candidatePath dir sender stem ext (number + turn)) =
        true := by
  induction attempts generalizing number with
  | zero => exact .inr fun turn bound => absurd bound (Nat.not_lt_zero _)
  | succ attempts ih =>
    unfold tryCandidates at failed
    dsimp only at failed
    split at failed
    · rename_i long
      exact .inl ⟨0, Nat.succ_pos _, fun earlier before => absurd before (Nat.not_lt_zero _), long⟩
    split at failed
    · rename_i refused
      rw [memory number] at refused
      contradiction
    split at failed
    · contradiction
    rename_i taken
    have here : outcome.present (candidatePath dir sender stem ext (number + 0)) = true := by
      simpa using taken
    have shift : ∀ turn, number + 1 + turn = number + (turn + 1) := by omega
    have failures := ih failed
    simp only [shift] at failures
    rcases failures with ⟨turn, inside, before, long⟩ | all
    · exact .inl ⟨turn + 1, by omega, Nat.forall_lt_succ_left.mpr ⟨here, before⟩, long⟩
    · exact .inr (Nat.forall_lt_succ_left.mpr ⟨here, all⟩)

end

/-- A sanitized text fits its array. -/
theorem sanitizeComponent_length (text : CString) (outSize : Nat) :
    (sanitizeComponent text outSize).length = min (outSize - 1) text.length := by
  change ((text.bytes.take (outSize - 1)).map sanitizeByte).length = _
  rw [List.length_map, List.length_take]
  rfl

/-- How long a candidate may be. -/
theorem downloadPath_length_le (dir sender filename : CString) {number : Nat}
    (small : number < 1000) :
    (downloadPath dir sender filename number).length ≤
      dir.length + min 127 sender.length + min 255 (baseFilename filename).length + 6 := by
  have digits : (decimal 0 number).bytes.length ≤ 3 := by
    change (decimal 0 number).length ≤ 3
    rw [decimal_length, Nat.zero_max]
    exact decimalDigits_length_le (by decide) small
  have slash : (CString.ofString "/").bytes.length = 1 := by decide
  have bar : (CString.ofString "_").bytes.length = 1 := by decide
  have own : (sanitizeComponent sender 128).bytes.length = min 127 sender.length :=
    sanitizeComponent_length sender 128
  have file : (sanitizeComponent (baseFilename filename) fileNameMaxLen).bytes.length =
      min 255 (baseFilename filename).length := sanitizeComponent_length _ _
  have name := congrArg List.length
    (splitExtension_bytes (sanitizeComponent (baseFilename filename) fileNameMaxLen))
  rw [List.length_append, file] at name
  unfold downloadPath downloadComponent CString.length
  dsimp only
  split <;> simp only [CString.append_bytes, List.length_append] <;> unfold CString.length at * <;>
    omega

/-- There is a path when the directory can be used, there is memory, both names have a component, the
candidates fit and one of them is free. -/
theorem buildUniqueDownloadPath_isSome {outcome : DownloadOutcome} {dir sender filename : CString}
    {outSize : Nat} (usable : ensureDirectory dir outcome.directory = true)
    (memory : ∀ turn, outcome.allocated turn = true) (named : 0 < sender.length)
    (based : 0 < (baseFilename filename).length)
    (fits : ∀ number < 1000, (downloadPath dir sender filename number).length < outSize)
    (free : ∃ number < 1000, outcome.present (downloadPath dir sender filename number) = false) :
    ∃ path, buildUniqueDownloadPath outcome dir sender filename outSize = some path := by
  rw [← Option.isSome_iff_exists]
  by_contra failed
  rw [Option.not_isSome_iff_eq_none] at failed
  have room : outSize ≠ 0 := Nat.ne_of_gt (Nat.zero_lt_of_lt (fits 0 (by decide)))
  have component : ¬ ((sanitizeComponent sender 128).length = 0 ∨
      (sanitizeComponent (baseFilename filename) fileNameMaxLen).length = 0) := by
    rw [sanitizeComponent_length, sanitizeComponent_length]
    have array : fileNameMaxLen - 1 = 255 := rfl
    omega
  unfold buildUniqueDownloadPath at failed
  rw [if_neg room, if_neg (by simp [usable])] at failed
  dsimp only at failed
  rw [if_neg component] at failed
  have searched := tryCandidates_none memory failed
  simp only [Nat.zero_add, candidatePath_eq] at searched
  rcases searched with ⟨number, inside, _, long⟩ | taken
  · have short := fits number inside
    omega
  · obtain ⟨number, inside, open_⟩ := free
    rw [taken number inside] at open_
    contradiction

/-- The path is the directory, a slash and a plain component; it is the first free one of at most
1000 different candidates, and fits. With memory and a directory, there is no path only when the
sender or the file name is empty, a candidate that is tried does not fit or all of them exist. -/
theorem buildUniqueDownloadPath_confined {outcome : DownloadOutcome} {dir : CString}
    (usable : ensureDirectory dir outcome.directory = true)
    (memory : ∀ turn, outcome.allocated turn = true) (sender filename : CString) (outSize : Nat) :
    (∀ number, PlainComponent (downloadComponent sender filename number)) ∧
      Function.Injective (downloadPath dir sender filename) ∧
      (∀ path, buildUniqueDownloadPath outcome dir sender filename outSize = some path →
        ∃ number < 1000,
          path = dir ++ CString.ofString "/" ++ downloadComponent sender filename number ∧
          path.length + 1 ≤ outSize ∧ outcome.present path = false ∧
          ∀ earlier < number, outcome.present (downloadPath dir sender filename earlier) = true) ∧
      (buildUniqueDownloadPath outcome dir sender filename outSize = none →
        sanitizeComponent sender 128 = CString.empty ∨
          sanitizeComponent (baseFilename filename) fileNameMaxLen = CString.empty ∨
          (∃ number < 1000,
            (∀ earlier < number,
              outcome.present (downloadPath dir sender filename earlier) = true) ∧
            outSize < (downloadPath dir sender filename number).length + 1) ∨
          ∀ number < 1000, outcome.present (downloadPath dir sender filename number) = true) := by
  refine ⟨downloadComponent_plain sender filename, downloadPath_injective dir sender filename,
    fun path found => ?_, fun failed => ?_⟩
  · unfold buildUniqueDownloadPath at found
    split at found
    · contradiction
    split at found
    · contradiction
    dsimp only at found
    split at found
    · contradiction
    obtain ⟨number, inside, rfl, fits, free, before⟩ := tryCandidates_some found
    simp only [Nat.zero_add, candidatePath_eq] at fits free before ⊢
    exact ⟨number, inside, rfl, fits, free, before⟩
  · have blank : ∀ text : CString, text.length = 0 → text = CString.empty := fun text zero =>
      CString.ext (List.length_eq_zero_iff.mp zero)
    unfold buildUniqueDownloadPath at failed
    split at failed
    · rename_i none_
      exact .inr (.inr (.inl ⟨0, by decide, fun earlier before =>
        absurd before (Nat.not_lt_zero _), by omega⟩))
    rw [if_neg (by simp [usable])] at failed
    dsimp only at failed
    split at failed
    · rename_i empty
      rcases empty with empty | empty
      · exact .inl (blank _ empty)
      · exact .inr (.inl (blank _ empty))
    have searched := tryCandidates_none memory failed
    simp only [Nat.zero_add, candidatePath_eq] at searched
    exact .inr (.inr searched)

/-- A directory in which one file exists. -/
def sampleDownload : DownloadOutcome where
  directory := .found true
  allocated _ := true
  present path := path = CString.ofString "downloads/a_b_x.txt"

/-- A name with directories in front of it is stored under its last component, with a number when
that exists. -/
theorem buildUniqueDownloadPath_confined_relative : ∃ number < 1000,
    CString.ofString "downloads/a_b_x_1.txt" =
      CString.ofString "downloads" ++ CString.ofString "/" ++
        downloadComponent (CString.ofString "a:b") (CString.ofString "../x.txt") number := by
  have found : buildUniqueDownloadPath sampleDownload (CString.ofString "downloads")
      (CString.ofString "a:b") (CString.ofString "../x.txt") 512 =
        some (CString.ofString "downloads/a_b_x_1.txt") := by decide
  obtain ⟨_, _, paths, _⟩ := buildUniqueDownloadPath_confined
    (show ensureDirectory (CString.ofString "downloads") sampleDownload.directory = true by
      decide) (fun _ => rfl) (CString.ofString "a:b") (CString.ofString "../x.txt") 512
  obtain ⟨number, inside, path, _⟩ := paths _ found
  exact ⟨number, inside, path⟩

end MultiUserChat
