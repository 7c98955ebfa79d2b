import MultiUserChat.Library.PathNames
import MultiUserChat.Library.Tokens
import MultiUserChat.Web.Number
/-!
# Paths of files

The functions of Node's `path` that a requested file goes through, as they are documented: those of
POSIX, where a slash separates the names, and those of Windows, where a backslash does so too and a
path may begin with a device. What they learn from the system around them is part of the `Platform`.
-/

namespace MultiUserChat.Web

/-- The system that `path` is made for. -/
structure Platform where
  /-- It is Windows. -/
  windows : Bool
  /-- `process.cwd()`; Windows has one for every drive. -/
  workingDirectory : Text → Text
  /-- `toLowerCase` -/
  toLowerCase : Text → Text

/-- A path cut behind its root. -/
structure Root where
  /-- The drive, or the share of a server; POSIX has none. -/
  device : Text
  /-- The path starts at the root and not in a working directory. -/
  absolute : Bool
  /-- The names, with their separators. -/
  rest : Text
deriving DecidableEq

/-- The end of a path: a device, and the entries that lead on from its root. -/
structure Place where
  /-- Device. -/
  device : Text
  /-- Names of the entries. -/
  names : List Text
deriving DecidableEq

namespace Platform

variable (platform : Platform)

/-- `isPathSeparator` -/
def isSeparator (point : Nat) : Bool := point == 0x2f || platform.windows && point == 0x5c

/-- `sep` -/
def separator : Nat := if platform.windows then 0x5c else 0x2f

/-- `isWindowsDeviceRoot` -/
def isDeviceRoot (point : Nat) : Bool :=
  0x41 ≤ point && point ≤ 0x5a || 0x61 ≤ point && point ≤ 0x7a

/-- The drive that a path of Windows begins with, and what follows. -/
def drive : Text → Option (Text × Text)
  | letter :: colon :: rest =>
    if isDeviceRoot letter ∧ colon = 0x3a then some ([letter, colon], rest) else none
  | _ => none

/-- The share of a server that a path of Windows begins with, and what follows. -/
def share : Text → Option (Text × Text)
  | first :: second :: rest =>
    let server := rest.takeWhile (!platform.isSeparator ·)
    let behind := (rest.dropWhile (!platform.isSeparator ·)).dropWhile platform.isSeparator
    let name := behind.takeWhile (!platform.isSeparator ·)
    if platform.isSeparator first ∧ platform.isSeparator second ∧ server ≠ [] ∧ name ≠ [] then
      some ([platform.separator, platform.separator] ++ server ++ [platform.separator] ++ name,
        behind.dropWhile (!platform.isSeparator ·))
    else none
  | _ => none

/-- The root of a path. -/
def root (path : Text) : Root :=
  let plain := ⟨[], path.head?.any platform.isSeparator, path⟩
  if platform.windows then
    match platform.share path, drive path with
    | some (device, rest), _ => ⟨device, true, rest⟩
    | none, some (device, rest) => ⟨device, rest.head?.any platform.isSeparator, rest⟩
    | none, none => plain
  else plain

/-- The names along a path. -/
def names (path : Text) : List Text := tokens platform.isSeparator path

/-- A path of some names. -/
def joinNames (names : List Text) : Text := [platform.separator].intercalate names

/-- `normalizeString` -/
def normalizeNames (allowAboveRoot : Bool) (path : Text) : List Text :=
  resolveNames (literal ".") (literal "..") allowAboveRoot (platform.names path)

/-- `path.isAbsolute` -/
def isAbsolute (path : Text) : Bool := (platform.root path).absolute

/-- `path.normalize` -/
def normalize (path : Text) : Text :=
  if path = [] then literal "." else
  let root := platform.root path
  let tail := platform.joinNames (platform.normalizeNames (!root.absolute) root.rest)
  let tail := if tail = [] ∧ !root.absolute then literal "." else tail
  let tail :=
    if tail ≠ [] ∧ path.getLast?.any platform.isSeparator then tail ++ [platform.separator] else tail
  if root.absolute then root.device ++ platform.separator :: tail else root.device ++ tail

/-- The first of the joined paths begins with a share of a server: with exactly two separators. -/
def startsShare (first : Text) : Bool :=
  (first.takeWhile platform.isSeparator).length = 2 ∧ 2 < first.length

/-- Make one separator of those that a path begins with. -/
def squeeze (joined : Text) : Text :=
  if 2 ≤ (joined.takeWhile platform.isSeparator).length then
    platform.separator :: joined.dropWhile platform.isSeparator
  else joined

/-- `path.join` -/
def join (paths : List Text) : Text :=
  match paths.filter (· ≠ []) with
  | [] => literal "."
  | first :: later =>
    let joined := platform.joinNames (first :: later)
    platform.normalize
      (if platform.windows ∧ !platform.startsShare first then platform.squeeze joined else joined)

/-- The end of a path. One that does not start at the root of a device starts in the working
directory. -/
def place (path : Text) : Place :=
  let root := platform.root path
  let here := platform.root (platform.workingDirectory root.device)
  let rest := if root.absolute then root.rest else here.rest ++ platform.separator :: root.rest
  ⟨if root.device = [] then here.device else root.device, platform.normalizeNames false rest⟩

/-- `path.resolve` -/
def resolve (path : Text) : Text :=
  (platform.place path).device ++
    platform.separator :: platform.joinNames (platform.place path).names

/-- The names that two paths are compared by, those of the device first. -/
def segments (place : Place) : List Text := platform.names place.device ++ place.names

/-- Names that differ at most in the case of letters name the same on Windows. -/
def fold (name : Text) : Text := if platform.windows then platform.toLowerCase name else name

/-- `path.relative`. On Windows there may be nothing in common, not even the device. -/
def relative (source target : Text) : Text :=
  let start := platform.segments (platform.place source)
  let goal := platform.segments (platform.place target)
  if platform.windows ∧ commonLength (start.map platform.fold) (goal.map platform.fold) = 0 then
    platform.resolve target
  else platform.joinNames (relativeNames (literal "..") platform.fold start goal)

/-- `path.extname`: the last name from its last dot on, if that dot does not come first. -/
def extname (path : Text) : Text :=
  let path := if platform.windows then ((drive path).map Prod.snd).getD path else path
  let name := (platform.names path).getLast?.getD []
  let front := name.reverse.dropWhile (· ≠ 0x2e)
  if name = literal ".." ∨ front.length ≤ 1 then []
  else 0x2e :: (name.reverse.takeWhile (· ≠ 0x2e)).reverse

/-- A POSIX system. -/
def posix (workingDirectory : Text) : Platform := ⟨false, fun _ => workingDirectory, id⟩

/-- Superfluous names are left out, and those of files are not touched. -/
example : ["/a/./b//c/..", "a/../../b/", "./", "/.."].map
      (fun path => (posix (literal "/")).normalize (literal path)) =
    [literal "/a/b", literal "../b/", literal "./", literal "/"] := by decide

/-- A way between two directories, to a file below and out of a working directory. -/
example : [("/a/b", "/a/c"), ("/a", "/a/b/c"), ("b", "/c"), ("/a", "/a/")].map
      (fun ends => (posix (literal "/a")).relative (literal ends.1) (literal ends.2)) =
    [literal "../c", literal "b/c", literal "../../c", []] := by decide

end Platform

end MultiUserChat.Web
