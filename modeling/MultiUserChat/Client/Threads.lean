import MultiUserChat.Client.SendFile
/-!
# The C client's threads

`main_loop`, `chat_loop` and what they call, and the threads that run `recv_thread`, in
`client/client.c`. All of them share the `ClientState` and the TCP connection; any thread may go on
at any time, and one call of `recv` is atomic. `recv_packet` is cut at its calls of `recv`, so a
thread in it keeps the bytes that it has received. The prompts of a menu choice are one step with
the choice. A connection on which `recv` has failed delivers nothing more.

`requests` and `replied` say which requests the server may still answer. `arrivals`, `reads` and
`waits` record what happened and influence nothing.
-/

namespace MultiUserChat.Client

/-- What a packet from the server is. -/
inductive Origin
  /-- The reply to a REGISTER or LOGIN request, by the number of the request. -/
  | reply (request : Nat)
  /-- Any other packet. -/
  | other
deriving DecidableEq

/-- A call that reads from the connection. -/
inductive Reader
  /-- `wait_for_auth_response`, by the number of the request it was made for. -/
  | wait (request : Nat)
  /-- `recv_thread`, by the number of the thread. -/
  | receiver (thread : Nat)
deriving DecidableEq

/-- `ClientState`, without the descriptors and thread numbers. -/
structure ClientState where
  /-- `running` -/
  running : Bool := true
  /-- `logged_in` -/
  loggedIn : Bool := false
  /-- `username` -/
  username : FixedString usernameMaxLen := zeroFixed usernameMaxLen

/-- What a request asks for. -/
inductive AuthCall
  /-- `do_register` -/
  | doRegister
  /-- `do_login` -/
  | doLogin
deriving DecidableEq

/-- Where the main thread is. -/
inductive MainThread
  /-- At the condition of `main_loop`. -/
  | mainLoop
  /-- At the main menu. -/
  | mainMenu
  /-- In `wait_for_auth_response`, called for a request under a name, with the bytes received. -/
  | waiting (call : AuthCall) (username : FixedString usernameMaxLen) (request : Nat)
      (got : List UInt8)
  /-- At the condition of `chat_loop`. -/
  | chatLoop
  /-- At the chat menu. -/
  | chatMenu
  /-- `main` has returned, which ends the process. -/
  | ended

/-- Where a thread that runs `recv_thread` is. -/
inductive ReceiveThread
  /-- At the condition of its loop, with its incoming file. -/
  | looping (incoming : IncomingFile)
  /-- In `recv_packet`, with the bytes received. -/
  | reading (incoming : IncomingFile) (got : List UInt8)
  /-- Behind its loop. -/
  | leaving
  /-- It has returned. -/
  | ended

/-- A thread that has been created. -/
def ReceiveThread.created : ReceiveThread := .looping { opened := inactive_opened }

/-- The thread is in its loop. -/
def ReceiveThread.inLoop : ReceiveThread → Bool
  | looping _ | reading _ _ => true
  | leaving | ended => false

/-- The client with its threads, and what has arrived from the server. -/
structure ThreadedClient where
  /-- The shared state. -/
  state : ClientState := {}
  /-- The main thread. -/
  main : MainThread := .mainLoop
  /-- The threads that run `recv_thread`, in the order of their creation. -/
  receivers : List ReceiveThread := []
  /-- The bytes that have arrived and not been read, each with what it belongs to. -/
  stream : List (UInt8 × Origin) := []
  /-- `recv` has failed. -/
  closed : Bool := false
  /-- The packets that have been sent. -/
  written : List Packet := []
  /-- What the packets received have printed. -/
  printed : List Line := []
  /-- The number of REGISTER and LOGIN requests. -/
  requests : Nat := 0
  /-- The requests that have been answered. -/
  replied : List Nat := []
  /-- The packets that have arrived. -/
  arrivals : List (Origin × Packet) := []
  /-- The bytes that have been read: by which call, and what they belong to. -/
  reads : List (Reader × Origin) := []
  /-- What `recv_packet` returned in the calls of `wait_for_auth_response`. -/
  waits : List (Nat × Option Packet) := []

/-! ## `recv_packet` -/

/-- The length field of a header. -/
def headerLength (got : List UInt8) : Nat := fromBigEndian ((got.drop 4).take 4)

/-- How many bytes `recv_packet` asks for after those it has received. -/
def wanted (got : List UInt8) : Nat :=
  if got.length < 72 then 72 - got.length else 72 + headerLength got - got.length

/-- What `recv_packet` returns after the bytes it has received, if it returns. -/
def received (got : List UInt8) : Option (Option Packet) :=
  if got.length < 72 then none
  else if headerLength got > packetDataMax then some none
  else if wanted got > 0 then none
  else some ((recvPacket got).map Prod.fst)

/-! ## The menus -/

/-- A choice of the chat menu that sends packets, with what is typed at its prompts. -/
inductive ChatAction
  /-- `request_online_list` -/
  | requestOnlineList
  /-- `send_private_message` -/
  | sendPrivateMessage (receiver : FixedString usernameMaxLen) (content : FixedString packetDataMax)
  /-- `send_group_message` -/
  | sendGroupMessage (content : FixedString packetDataMax)
  /-- `send_file` -/
  | sendFile (outcome : SendOutcome) (receiver : FixedString usernameMaxLen) (path : FixedString 512)

/-- The packets that an action sends; `send_packet` succeeds for a single packet or not. -/
def ChatAction.packets (username : FixedString usernameMaxLen) (sent : Bool) :
    ChatAction → List Packet
  | requestOnlineList =>
    ((packetInit MessageType.msgOnlineList.code username.toCString CString.empty []).filter
      fun _ => sent).toList
  | sendPrivateMessage receiver content =>
    ((packetSetText MessageType.msgPrivate.code username.toCString receiver.toCString
      content.toCString).filter fun _ => sent).toList
  | sendGroupMessage content =>
    ((packetSetText MessageType.msgGroup.code username.toCString CString.empty
      content.toCString).filter fun _ => sent).toList
  | sendFile outcome receiver path => (Client.sendFile outcome username receiver path).1

/-- The message type of a request. -/
def AuthCall.type : AuthCall → MessageType
  | doRegister => .msgRegister
  | doLogin => .msgLogin

/-- What happens next. -/
inductive Choice
  /-- The main thread evaluates the condition of its loop. -/
  | enter
  /-- A choice that no case handles. -/
  | invalid
  /-- The main menu is left, or a prompt finds the end of the input. -/
  | stop
  /-- The choices of the main menu that ask for a name and a password. -/
  | auth (call : AuthCall) (username : FixedString usernameMaxLen)
      (password : FixedString passwordMaxLen) (sent : Bool)
  /-- A choice of the chat menu that sends packets. -/
  | chat (action : ChatAction) (sent : Bool)
  /-- The choices of the chat menu that log out, and leave the program or not. -/
  | logout (quits sent : Bool)
  /-- `recv` returns up to a number of bytes to the main thread; `pthread_create` succeeds or not if
  it comes to it. -/
  | receiveMain (count : Nat) (created : Bool)
  /-- `recv` returns up to a number of bytes to another thread. -/
  | receive (thread count : Nat) (outcome : Outcome)
  /-- `recv` fails in the main thread. -/
  | failMain
  /-- `recv` fails in another thread. -/
  | fail (thread : Nat)
  /-- Another thread evaluates the condition of its loop, or does what is behind it. -/
  | advance (thread : Nat)
  /-- A packet from the server arrives. -/
  | arrive (origin : Origin) (packet : Packet)

namespace ThreadedClient

/-- `do_register` and `do_login` up to `wait_for_auth_response`. -/
def auth (client : ThreadedClient) (call : AuthCall) (username : FixedString usernameMaxLen)
    (password : FixedString passwordMaxLen) (sent : Bool) : ThreadedClient :=
  match (packetSetText call.type.code username.toCString CString.empty password.toCString).filter
    fun _ => sent with
  | none => { client with main := .mainLoop }
  | some packet =>
    { client with
      main := .waiting call username client.requests []
      written := client.written ++ [packet]
      requests := client.requests + 1 }

/-- `logout` -/
def logout (client : ThreadedClient) (sent : Bool) : ThreadedClient :=
  if client.state.loggedIn = false then client
  else
    let packets := (packetInit MessageType.msgLogout.code client.state.username.toCString
      CString.empty []).filter fun _ => sent
    { client with
      state := { client.state with loggedIn := false, username := zeroFixed usernameMaxLen }
      written := client.written ++ packets.toList }

/-- `wait_for_auth_response` after `recv_packet` has returned, and what follows it in `do_register`,
`do_login` and `main_loop`. -/
def waited (client : ThreadedClient) (call : AuthCall) (username : FixedString usernameMaxLen)
    (request : Nat) (result : Option Packet) (created : Bool) : ThreadedClient :=
  let client := { client with waits := client.waits ++ [(request, result)] }
  match result with
  | none =>
    { client with
      main := .mainLoop
      printed := client.printed ++ [.text (CString.ofString "服务器连接已断开")] }
  | some packet =>
    let answer := waitForAuthResponse packet
    let client := { client with printed := client.printed ++ [answer.2] }
    if call = .doLogin ∧ answer.1 = true then
      { client with
        state := { client.state with loggedIn := true, username }
        main := .chatLoop
        receivers := if created then client.receivers ++ [.created] else client.receivers }
    else { client with main := .mainLoop }

/-- `recv` returns the bytes at the front of the stream to a call. -/
def take (client : ThreadedClient) (reader : Reader) (count : Nat) : ThreadedClient :=
  { client with
    stream := client.stream.drop count
    reads := client.reads ++ (client.stream.take count).map fun entry => (reader, entry.2) }

/-- Change one of the threads that run `recv_thread`. -/
def setReceiver (client : ThreadedClient) (thread : Nat) (receiver : ReceiveThread) :
    ThreadedClient :=
  { client with receivers := client.receivers.set thread receiver }

/-- `recv` fails. -/
def close (client : ThreadedClient) : ThreadedClient := { client with stream := [], closed := true }

/-- A packet arrives. -/
def arrive (client : ThreadedClient) (origin : Origin) (packet : Packet) : ThreadedClient :=
  { client with
    stream := client.stream ++ (wire packet).map fun byte => (byte, origin)
    replied := match origin with
      | .reply request => client.replied ++ [request]
      | .other => client.replied
    arrivals := client.arrivals ++ [(origin, packet)] }

/-- The server may send a packet: it answers each request at most once. -/
def mayArrive (client : ThreadedClient) : Origin → Bool
  | .reply request =>
    !client.closed && decide (request < client.requests) && decide (request ∉ client.replied)
  | .other => !client.closed

/-- `main_loop` and `chat_loop`: a step of the main thread at their conditions and menus. -/
def mainStep (client : ThreadedClient) : Choice → Option ThreadedClient
  | .enter =>
    match client.main with
    | .mainLoop =>
      some { client with main := if client.state.running then .mainMenu else .ended }
    | .chatLoop =>
      some
        { client with
          main := if client.state.running && client.state.loggedIn then .chatMenu else .mainLoop }
    | _ => none
  | .invalid =>
    match client.main with
    | .mainMenu => some { client with main := .mainLoop }
    | .chatMenu => some { client with main := .chatLoop }
    | _ => none
  | .stop =>
    let client := { client with state := { client.state with running := false } }
    match client.main with
    | .mainMenu => some { client with main := .mainLoop }
    | .chatMenu => some { client with main := .chatLoop }
    | _ => none
  | .auth call username password sent =>
    match client.main with
    | .mainMenu => some (client.auth call username password sent)
    | _ => none
  | .chat action sent =>
    match client.main with
    | .chatMenu =>
      some
        { client with
          main := .chatLoop
          written := client.written ++ action.packets client.state.username sent }
    | _ => none
  | .logout quits sent =>
    match client.main with
    | .chatMenu =>
      let client := client.logout sent
      some
        { client with
          main := .mainLoop
          state := { client.state with running := client.state.running && !quits } }
    | _ => none
  | _ => none

/-- `wait_for_auth_response`: a call of `recv` in the main thread returns bytes. -/
def receiveMain (client : ThreadedClient) (count : Nat) (created : Bool) : Option ThreadedClient :=
  match client.main with
  | .waiting call username request got =>
    let count := min count (wanted got)
    if client.stream.take count = [] then none
    else
      let got := got ++ (client.stream.take count).map Prod.fst
      let client := client.take (.wait request) count
      match received got with
      | none => some { client with main := .waiting call username request got }
      | some result => some (client.waited call username request result created)
  | _ => none

/-- `recv_thread`: a call of `recv` in another thread returns bytes. -/
def receive (client : ThreadedClient) (thread count : Nat) (outcome : Outcome) :
    Option ThreadedClient :=
  match client.receivers[thread]? with
  | some (.reading incoming got) =>
    let count := min count (wanted got)
    if client.stream.take count = [] then none
    else
      let got := got ++ (client.stream.take count).map Prod.fst
      let client := client.take (.receiver thread) count
      match received got with
      | none => some (client.setReceiver thread (.reading incoming got))
      | some none => some (client.setReceiver thread .leaving)
      | some (some packet) =>
        let handled := recvThread outcome incoming packet
        let client := { client with printed := client.printed ++ handled.2 }
        some (client.setReceiver thread (.looping handled.1))
  | _ => none

/-- `recv_thread`: another thread goes on at the condition of its loop or behind the loop. -/
def advance (client : ThreadedClient) (thread : Nat) : Option ThreadedClient :=
  match client.receivers[thread]? with
  | some (.looping incoming) =>
    some (client.setReceiver thread (if client.state.running then .reading incoming [] else .leaving))
  | some .leaving =>
    let client := { client with state := { client.state with running := false } }
    some (client.setReceiver thread .ended)
  | _ => none

/-- One step of the client or the server. -/
def step (client : ThreadedClient) (choice : Choice) : Option ThreadedClient :=
  match client.main with
  | .ended => none
  | _ =>
    match choice with
    | .receiveMain count created => client.receiveMain count created
    | .receive thread count outcome => client.receive thread count outcome
    | .failMain =>
      match client.main with
      | .waiting call username request _ =>
        some (client.close.waited call username request none false)
      | _ => none
    | .fail thread =>
      match client.receivers[thread]? with
      | some (.reading _ _) => some (client.close.setReceiver thread .leaving)
      | _ => none
    | .advance thread => client.advance thread
    | .arrive origin packet =>
      if client.mayArrive origin then some (client.arrive origin packet) else none
    | choice => client.mainStep choice

end ThreadedClient

end MultiUserChat.Client
