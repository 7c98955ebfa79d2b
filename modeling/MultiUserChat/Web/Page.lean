import MultiUserChat.Web.Gateway
/-!
# The page that sends a file

`submitSelectedFile` of `web/public/main.js`. The page's messages stand as the actions that the gateway
makes of them: the name of a file as `path.basename` returns it, its size as a number and a chunk as
the bytes that the base64 text denotes. What the page shows of its own messages is left out.
-/

namespace MultiUserChat.Web

/-- `selectedFile` -/
structure SelectedFile where
  /-- `name` -/
  name : Text
  /-- The bytes of the file; `size` is their number. -/
  content : List UInt8

/-- `path.basename` of POSIX: the last component, with the slashes behind it left out. -/
def basename (path : Text) : Text :=
  ((path.reverse.dropWhile (· = 0x2f)).takeWhile (· ≠ 0x2f)).reverse

/-- The loop of `submitSelectedFile`: the parts at the offsets below the length, in steps of
`PACKET_DATA_MAX`. -/
def fileChunks (bytes : List UInt8) : List (List UInt8) :=
  (List.range ((bytes.length + packetDataMax - 1) / packetDataMax)).map fun turn =>
    (bytes.drop (packetDataMax * turn)).take packetDataMax

/-- `submitSelectedFile` for a file that is selected: the messages to the gateway, or the text of the
toast that says why there are none. -/
def submitSelectedFile (currentUsername receiver : Text) (selectedFile : SelectedFile) :
    Except Text (List Action) :=
  if receiver = [] ∨ receiver = currentUsername then
    .error (literal "文件传输需要先选择一个在线好友，不能发送给自己或群组")
  else if selectedFile.content.length > fileTransferMaxBytes then
    .error (literal "文件超过 10 MiB 限制")
  else
    .ok (.sendFileBegin receiver (basename selectedFile.name)
        (.finite selectedFile.content.length) ::
      ((fileChunks selectedFile.content).map (.sendFileChunk receiver) ++ [.sendFileEnd receiver]))

/-- A name without a slash, one with directories and one that ends in a slash. -/
example : ["a.txt", "/tmp/a.txt", "tmp/a/", "/"].map (fun path => basename (literal path)) =
    [literal "a.txt", literal "a.txt", literal "a", []] := by decide

end MultiUserChat.Web
