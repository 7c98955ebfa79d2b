import MultiUserChat.Library.Percent
import MultiUserChat.Library.Utf8Encode
import MultiUserChat.Web.Path
/-!
# Files of the web pages

`safeJoin` and the listener of `createStaticServer` of `web/server.js`. An error that is thrown in the
listener is caught nowhere: it ends the process, so there is no response then, to this request or to
any other.
-/

namespace MultiUserChat.Web

/-- `mimeTypes` -/
def mimeTypes : List (Text × Text) :=
  [(".html", "text/html; charset=utf-8"), (".js", "text/javascript; charset=utf-8"),
    (".css", "text/css; charset=utf-8"), (".json", "application/json; charset=utf-8"),
    (".svg", "image/svg+xml")].map fun entry => (literal entry.1, literal entry.2)

/-- `decodeURIComponent` -/
def decodeURIComponent (text : Text) : Except Text Text :=
  match percentDecode text with
  | some decoded => .ok decoded
  | none => .error (literal "URI malformed")

/-- `relativePath` in `safeJoin`: a decoded path without the slashes and backslashes in front. -/
def relativePathOf (decodedPath : Text) : Text :=
  let stripped := decodedPath.dropWhile fun point => point = 0x2f ∨ point = 0x5c
  if stripped = [] then literal "index.html" else stripped

/-- `safeJoin` -/
def safeJoin (platform : Platform) (base requestPath : Text) : Except Text (Option Text) := do
  let decodedPath ← decodeURIComponent (requestPath.takeWhile (· ≠ 0x3f))
  let normalizedPath := platform.normalize (relativePathOf decodedPath)
  let filePath := platform.join [base, normalizedPath]
  let relative := platform.relative base filePath
  if literal ".." <+: relative ∨ platform.isAbsolute relative then return none
  return some filePath

/-- What a listener answers. -/
structure Response where
  /-- Status code. -/
  status : Nat
  /-- `content-type` -/
  contentType : Option Text
  /-- Body. -/
  body : List UInt8
deriving DecidableEq

/-- `fs.readFile`, which calls back with the bytes of a file or an error; for a path with a null
character it throws an error at once, of which this is the code. -/
def readFile (files : Text → Option (List UInt8)) (path : Text) :
    Except Text (Option (List UInt8)) :=
  if 0 ∈ path then .error (literal "ERR_INVALID_ARG_VALUE") else .ok (files path)

/-- The listener of `createStaticServer`. -/
def createStaticServer (platform : Platform) (rootDir : Text) (files : Text → Option (List UInt8))
    (url : Text) : Except Text Response := do
  if url = [] then return ⟨400, none, Utf8.encode (literal "Bad Request")⟩
  let filePath := (← safeJoin platform rootDir url).getD []
  if filePath = [] then return ⟨403, none, Utf8.encode (literal "Forbidden")⟩
  match ← readFile files filePath with
  | none =>
    return ⟨404, some (literal "text/plain; charset=utf-8"), Utf8.encode (literal "Not Found")⟩
  | some data =>
    let type := (mimeTypes.lookup (platform.extname filePath)).getD
      (literal "application/octet-stream")
    return ⟨200, some type, data⟩

/-- The index, a stylesheet, a file of no known type, one that is missing and one that is not below. -/
example : ["/", "/css/style.css?v=2", "/main", "/%E7%BE%A4.js", "/../../etc/passwd"].map (fun url =>
      (createStaticServer (Platform.posix (literal "/")) (literal "/srv/public") (fun path =>
        if path ∈ ["/srv/public/index.html", "/srv/public/css/style.css", "/srv/public/main"].map literal
        then some [0x68, 0x69] else none) (literal url)).toOption.map fun response =>
          (response.status, response.contentType)) =
    [some (200, some (literal "text/html; charset=utf-8")),
      some (200, some (literal "text/css; charset=utf-8")),
      some (200, some (literal "application/octet-stream")),
      some (404, some (literal "text/plain; charset=utf-8")), some (403, none)] := by decide +kernel

end MultiUserChat.Web
