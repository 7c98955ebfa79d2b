import MultiUserChat.Common.Protocol
/-!
# Download paths

`common/file_utils.c`. What the file system and the allocator answer is an argument; `snprintf` into
an array that was measured for its text writes the text.
-/

namespace MultiUserChat

/-- What `stat` and `mkdir` find at the path of a directory. -/
inductive DirectoryOutcome
  /-- `stat` succeeds on a directory, or on something else. -/
  | found (isDirectory : Bool)
  /-- `mkdir` makes it. -/
  | made
  /-- `mkdir` fails because it exists by now. -/
  | raced
  /-- `mkdir` fails otherwise. -/
  | refused

/-- `ensure_directory`; the result is whether it returns 0. -/
def ensureDirectory (path : CString) (outcome : DirectoryOutcome) : Bool :=
  if path.length = 0 then false
  else
    match outcome with
    | .found isDirectory => isDirectory
    | .made => true
    | .raced => true
    | .refused => false

/-- `base_filename` -/
def baseFilename (path : CString) : CString :=
  path.drop (path.length - (path.bytes.reverse.takeWhile (· ≠ 0x2f)).length)

/-- A byte as `sanitize_component` copies it: `/`, `\`, `:` and line ends become `_`. -/
def sanitizeByte (byte : UInt8) : UInt8 :=
  if byte = 0x2f ∨ byte = 0x5c ∨ byte = 0x3a ∨ byte = 0xa ∨ byte = 0xd then 0x5f else byte

/-- A copied byte is no NUL. -/
theorem sanitizeByte_ne_zero {byte : UInt8} (given : byte ≠ 0) : sanitizeByte byte ≠ 0 := by
  unfold sanitizeByte
  split
  · decide
  · exact given

/-- `sanitize_component` -/
def sanitizeComponent (text : CString) (outSize : Nat) : CString where
  bytes := (text.bytes.take (outSize - 1)).map sanitizeByte
  nulFree := by
    intro member
    obtain ⟨byte, given, zero⟩ := List.mem_map.mp member
    exact sanitizeByte_ne_zero
      (fun same => text.nulFree (same ▸ List.mem_of_mem_take given)) zero

/-- The stem and the extension of a file name, split at its last dot unless that is its first byte. -/
def splitExtension (name : CString) : CString × CString :=
  let stemLen := name.length - (name.bytes.reverse.takeWhile (· ≠ 0x2e)).length - 1
  if name.contains 0x2e ∧ stemLen ≠ 0 then (name.take stemLen, name.drop stemLen)
  else (name, CString.empty)

/-- What `build_unique_download_path` finds. -/
structure DownloadOutcome where
  /-- What `ensure_directory` finds. -/
  directory : DirectoryOutcome
  /-- The `malloc` for each candidate succeeds. -/
  allocated : Nat → Bool
  /-- `access` finds something at a path. -/
  present : CString → Bool

/-- The candidate of a number. -/
def candidatePath (dir sender stem ext : CString) (number : Nat) : CString :=
  let name := dir ++ CString.ofString "/" ++ sender ++ CString.ofString "_" ++ stem
  if number = 0 then name ++ ext else name ++ CString.ofString "_" ++ decimal 0 number ++ ext

/-- The loop of `build_unique_download_path` over the numbers from the given one on. -/
def tryCandidates (outcome : DownloadOutcome) (dir sender stem ext : CString) (outSize : Nat) :
    Nat → Nat → Option CString
  | 0, _ => none
  | attempts + 1, number =>
    let candidate := candidatePath dir sender stem ext number
    if candidate.length + 1 > outSize then none
    else if outcome.allocated number = false then none
    else if outcome.present candidate = false then some candidate
    else tryCandidates outcome dir sender stem ext outSize attempts (number + 1)

/-- `build_unique_download_path`: the path, or nothing when it fails. -/
def buildUniqueDownloadPath (outcome : DownloadOutcome) (dir sender filename : CString)
    (outSize : Nat) : Option CString :=
  if outSize = 0 then none
  else if ensureDirectory dir outcome.directory = false then none
  else
    let safeSender := sanitizeComponent sender 128
    let safeFile := sanitizeComponent (baseFilename filename) fileNameMaxLen
    if safeSender.length = 0 ∨ safeFile.length = 0 then none
    else
      let (stem, ext) := splitExtension safeFile
      tryCandidates outcome dir safeSender stem ext outSize 1000 0

end MultiUserChat
