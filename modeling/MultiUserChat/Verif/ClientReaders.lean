import MultiUserChat.Client.Threads
import MultiUserChat.Library.Transition
import MultiUserChat.Verif.WireFrames
/-!
# The readers of the client's connection

The main thread reads the replies to REGISTER and LOGIN requests, and a thread that runs `recv_thread`
reads everything else. Logging out does not stop that thread. As long as no request is sent while one
is in its loop, at most one thread reads; and as long as nothing else arrives in front of the replies,
each reply is read by the call that waits for it.
-/

namespace MultiUserChat.Client

/-! ## Runs -/

/-- The request that the main thread waits for a reply to. -/
def MainThread.request : MainThread → Option Nat
  | waiting _ _ request _ => some request
  | _ => none

/-- The thread is in `recv_packet`. -/
def ReceiveThread.reads : ReceiveThread → Bool
  | reading _ _ => true
  | _ => false

/-- A thread is in its loop. -/
def looping (receivers : List ReceiveThread) (thread : Nat) : Bool :=
  receivers[thread]?.any ReceiveThread.inLoop

namespace ThreadedClient

/-- A thread is in `recv_packet`: the main thread, or another by its number. -/
def readsPacket (client : ThreadedClient) : Option Nat → Bool
  | none => client.main.request.isSome
  | some thread => client.receivers[thread]?.any ReceiveThread.reads

/-- At most one thread reads packets. -/
def OneReader (client : ThreadedClient) : Prop :=
  ∀ left right, client.readsPacket left = true → client.readsPacket right = true → left = right

/-- Every request is waited for, the replies are read by the calls made for them and by no other, and
what such a call receives is the reply to its request. -/
structure Matched (client : ThreadedClient) : Prop where
  /-- A call was made for the request. -/
  called : ∀ request < client.requests,
    client.main.request = some request ∨ ∃ result, (request, result) ∈ client.waits
  /-- The bytes of a reply are read by that call. -/
  own : ∀ reader request, (reader, Origin.reply request) ∈ client.reads → reader = .wait request
  /-- A packet that it receives is the reply. -/
  answered : ∀ request packet, (request, some packet) ∈ client.waits →
    (.reply request, packet) ∈ client.arrivals

/-- No REGISTER or LOGIN request is sent while another thread is in its loop. -/
def alone (client : ThreadedClient) : Choice → Bool
  | .auth _ _ _ true => client.receivers.all fun receiver => !receiver.inLoop
  | _ => true

/-- A REGISTER or LOGIN request is sent when nothing is left to read, and nothing else arrives before
its reply. -/
def prompt (client : ThreadedClient) : Choice → Bool
  | .auth _ _ _ true => client.stream.isEmpty
  | .arrive .other _ => client.main.request.all fun request => request ∈ client.replied
  | _ => true

/-- A step that meets a condition. -/
def stepUnder (meets : ThreadedClient → Choice → Bool) (client : ThreadedClient) (choice : Choice) :
    Option ThreadedClient :=
  if meets client choice then client.step choice else none

/-- The states of runs whose steps meet a condition. -/
def ReachableUnder (meets : ThreadedClient → Choice → Bool) : ThreadedClient → Prop :=
  Reachable (· = {}) fun client choice client' => client.stepUnder meets choice = some client'

/-! ## One step -/

/-- What a step does. -/
inductive Moves (client : ThreadedClient) : Choice → ThreadedClient → Prop
  /-- The main thread goes on outside `wait_for_auth_response`. -/
  | goes {choice : Choice} {main : MainThread} {state : ClientState} {written : List Packet}
      (before : client.main.request = none) (after : main.request = none) :
      Moves client choice { client with main, state, written }
  /-- It sends a request and waits. -/
  | asks {call : AuthCall} {username : FixedString usernameMaxLen}
      {password : FixedString passwordMaxLen} {packet : Packet}
      (before : client.main.request = none) :
      Moves client (.auth call username password true)
        { client with
          main := .waiting call username client.requests []
          written := client.written ++ [packet]
          requests := client.requests + 1 }
  /-- It receives a part of a packet. -/
  | gets {choice : Choice} {call : AuthCall} {username : FixedString usernameMaxLen}
      {request count : Nat} {got : List UInt8}
      (waits : client.main = .waiting call username request got) (few : count ≤ wanted got)
      (some_ : client.stream.take count ≠ [])
      (unfinished : received (got ++ (client.stream.take count).map Prod.fst) = none) :
      Moves client choice
        { client.take (.wait request) count with
          main := .waiting call username request (got ++ (client.stream.take count).map Prod.fst) }
  /-- It has received a packet, or the connection failed, and waits no longer. -/
  | returns {choice : Choice} {call : AuthCall} {username : FixedString usernameMaxLen}
      {request count : Nat} {got : List UInt8} {result : Option Packet} {state : ClientState}
      {main : MainThread} {receivers : List ReceiveThread} {printed : List Line}
      (waits : client.main = .waiting call username request got)
      (few : count ≤ wanted got) (some_ : client.stream.take count ≠ [])
      (finished : received (got ++ (client.stream.take count).map Prod.fst) = some result)
      (after : main.request = none)
      (created : receivers = client.receivers ∨ receivers = client.receivers ++ [.created]) :
      Moves client choice
        { client.take (.wait request) count with
          state, main, receivers, printed, waits := client.waits ++ [(request, result)] }
  /-- The connection fails while it waits. -/
  | breaks {choice : Choice} {request : Nat} {printed : List Line}
      (waits : client.main.request = some request) :
      Moves client choice
        { client.close with
          main := .mainLoop, printed, waits := client.waits ++ [(request, none)] }
  /-- Another thread receives bytes. -/
  | reads {choice : Choice} {thread count : Nat} {receiver : ReceiveThread} {printed : List Line}
      (inside : looping client.receivers thread = true) :
      Moves client choice
        { (client.take (.receiver thread) count).setReceiver thread receiver with printed }
  /-- The connection fails in another thread. -/
  | fails {choice : Choice} {thread : Nat} (inside : looping client.receivers thread = true) :
      Moves client choice (client.close.setReceiver thread .leaving)
  /-- Another thread goes on outside `recv_packet`. -/
  | advances {choice : Choice} {thread : Nat} {receiver : ReceiveThread} {state : ClientState}
      (inside : receiver.inLoop = true → looping client.receivers thread = true) :
      Moves client choice { client.setReceiver thread receiver with state }
  /-- A packet arrives. -/
  | arrives {origin : Origin} {packet : Packet} (may : client.mayArrive origin = true) :
      Moves client (.arrive origin packet) (client.arrive origin packet)

/-- What the main thread does when a call of `wait_for_auth_response` returns. -/
theorem waited_eq (client : ThreadedClient) (call : AuthCall)
    (username : FixedString usernameMaxLen) (request : Nat) (result : Option Packet)
    (created : Bool) : ∃ state main receivers printed,
      client.waited call username request result created =
        { client with
          state, main, receivers, printed, waits := client.waits ++ [(request, result)] } ∧
      main.request = none ∧
      (receivers = client.receivers ∨ receivers = client.receivers ++ [.created]) := by
  unfold waited
  cases result with
  | none => exact ⟨_, _, _, _, rfl, rfl, .inl rfl⟩
  | some packet =>
    dsimp only
    split
    · refine ⟨_, _, _, _, rfl, rfl, ?_⟩
      cases created
      · exact .inl rfl
      · exact .inr rfl
    · exact ⟨_, _, _, _, rfl, rfl, .inl rfl⟩

/-- A step at a loop or a menu. -/
theorem mainStep_moves {client client' : ThreadedClient} {choice : Choice}
    (taken : client.mainStep choice = some client') : Moves client choice client' := by
  have outside {main : MainThread} (here : client.main = main) (menu : main.request = none) :
      client.main.request = none := here ▸ menu
  cases choice with
  | enter =>
    simp only [mainStep] at taken
    split at taken
    · rename_i here
      cases taken
      refine .goes (outside here rfl) ?_
      split <;> rfl
    · rename_i here
      cases taken
      refine .goes (outside here rfl) ?_
      split <;> rfl
    · contradiction
  | invalid | stop =>
    simp only [mainStep] at taken
    split at taken
    · rename_i here
      cases taken
      exact .goes (outside here rfl) rfl
    · rename_i here
      cases taken
      exact .goes (outside here rfl) rfl
    · contradiction
  | auth call username password sent =>
    simp only [mainStep] at taken
    split at taken
    · rename_i here
      cases taken
      unfold ThreadedClient.auth
      split
      · exact .goes (outside here rfl) rfl
      · rename_i packet built
        obtain ⟨_, sent⟩ := Option.filter_eq_some_iff.mp built
        obtain rfl := sent
        exact .asks (outside here rfl)
    · contradiction
  | chat action sent =>
    simp only [mainStep] at taken
    split at taken
    · rename_i here
      cases taken
      exact .goes (outside here rfl) rfl
    · contradiction
  | logout quits sent =>
    simp only [mainStep] at taken
    split at taken
    · rename_i here
      cases taken
      unfold ThreadedClient.logout
      split <;> exact .goes (outside here rfl) rfl
    · contradiction
  | _ => contradiction

/-- A step of the main thread in `recv_packet`. -/
theorem receiveMain_moves {client client' : ThreadedClient} {choice : Choice} {count : Nat}
    {created : Bool} (taken : client.receiveMain count created = some client') :
    Moves client choice client' := by
  unfold receiveMain at taken
  split at taken
  · rename_i call username request got here
    dsimp only at taken
    split at taken
    · contradiction
    rename_i some_
    split at taken
    · rename_i unfinished
      cases taken
      exact .gets here (Nat.min_le_right _ _) some_ unfinished
    · rename_i result finished
      cases taken
      obtain ⟨state, main, receivers, printed, same, after, created⟩ := waited_eq
        (client.take (.wait request) (min count (wanted got))) call username request result created
      rw [same]
      exact .returns here (Nat.min_le_right _ _) some_ finished after created
  · contradiction

/-- A step of another thread in `recv_packet`. -/
theorem receive_moves {client client' : ThreadedClient} {choice : Choice} {thread count : Nat}
    {outcome : Outcome} (taken : client.receive thread count outcome = some client') :
    Moves client choice client' := by
  unfold receive at taken
  split at taken
  · rename_i incoming got here
    have inside : looping client.receivers thread = true := by
      rw [looping, here]
      rfl
    dsimp only at taken
    split at taken
    · contradiction
    split at taken
    all_goals
      cases taken
      exact .reads inside
  · contradiction

/-- A step of another thread outside `recv_packet`. -/
theorem advance_moves {client client' : ThreadedClient} {choice : Choice} {thread : Nat}
    (taken : client.advance thread = some client') : Moves client choice client' := by
  unfold advance at taken
  split at taken
  · rename_i incoming here
    cases taken
    refine .advances fun _ => ?_
    rw [looping, here]
    rfl
  · cases taken
    exact .advances (by simp [ReceiveThread.inLoop])
  · contradiction

/-- Every step is one of these. -/
theorem step_moves {client client' : ThreadedClient} {choice : Choice}
    (taken : client.step choice = some client') : Moves client choice client' := by
  unfold step at taken
  split at taken
  · contradiction
  split at taken
  · exact receiveMain_moves taken
  · exact receive_moves taken
  · split at taken
    · rename_i call username request got here
      cases taken
      exact .breaks (by rw [here]; rfl)
    · contradiction
  · split at taken
    · rename_i incoming got here
      cases taken
      refine .fails ?_
      rw [looping, here]
      rfl
    · contradiction
  · exact advance_moves taken
  · split at taken
    · rename_i may
      cases taken
      exact .arrives may
    · contradiction
  · exact mainStep_moves taken

end ThreadedClient

/-! ## One reader -/

/-- Changing a thread adds none to those in their loops, when it stays out of its loop or was in
it. -/
theorem looping_set {receivers : List ReceiveThread} {thread : Nat} {receiver : ReceiveThread}
    (inside : receiver.inLoop = true → looping receivers thread = true) {other : Nat}
    (loops : looping (receivers.set thread receiver) other = true) :
    looping receivers other = true := by
  unfold looping at loops inside ⊢
  rw [List.getElem?_set] at loops
  split at loops
  · rename_i same
    subst same
    split at loops
    · exact inside loops
    · contradiction
  · exact loops

/-- A new thread is the last. -/
theorem looping_append {receivers : List ReceiveThread} {receiver : ReceiveThread} {thread : Nat}
    (loops : looping (receivers ++ [receiver]) thread = true) :
    looping receivers thread = true ∨ thread = receivers.length := by
  unfold looping at loops ⊢
  rw [List.getElem?_append] at loops
  split at loops
  · exact .inl loops
  · rename_i behind
    cases later : thread - receivers.length with
    | zero => exact .inr (by omega)
    | succ => simp [later] at loops

/-- None is in its loop when all are outside. -/
theorem looping_of_all {receivers : List ReceiveThread}
    (outside : (receivers.all fun receiver => !receiver.inLoop) = true) (thread : Nat) :
    looping receivers thread = false := by
  unfold looping
  cases found : receivers[thread]? with
  | none => rfl
  | some receiver => simpa using List.all_eq_true.mp outside receiver (List.mem_of_getElem? found)

/-- A thread in `recv_packet` is in its loop. -/
theorem looping_of_reads {receivers : List ReceiveThread} {thread : Nat}
    (reads : receivers[thread]?.any ReceiveThread.reads = true) :
    looping receivers thread = true := by
  unfold looping
  cases found : receivers[thread]? with
  | none => simp [found] at reads
  | some receiver =>
    rw [found] at reads
    cases receiver <;> first | rfl | contradiction

namespace ThreadedClient

variable {client client' : ThreadedClient} {choice : Choice}

/-- While the main thread waits no other thread is in its loop, and at most one ever is. -/
structure Sole (client : ThreadedClient) : Prop where
  /-- None is in its loop. -/
  apart : ∀ request, client.main.request = some request →
    ∀ thread, looping client.receivers thread = false
  /-- No two are. -/
  single : ∀ left right, looping client.receivers left = true →
    looping client.receivers right = true → left = right

/-- The main thread does not wait while another is in its loop. -/
theorem Sole.idle (sole : client.Sole) {thread : Nat}
    (inside : looping client.receivers thread = true) : client.main.request = none := by
  cases main : client.main.request with
  | none => rfl
  | some request =>
    rw [sole.apart request main thread] at inside
    contradiction

/-- Then at most one thread reads. -/
theorem Sole.oneReader (sole : client.Sole) : client.OneReader := by
  intro left right leftReads rightReads
  have never {thread : Nat} (waits : client.main.request.isSome = true)
      (reads : client.receivers[thread]?.any ReceiveThread.reads = true) : False := by
    rw [sole.idle (looping_of_reads reads)] at waits
    contradiction
  cases left with
  | none =>
    cases right with
    | none => rfl
    | some right => exact (never leftReads rightReads).elim
  | some left =>
    cases right with
    | none => exact (never rightReads leftReads).elim
    | some right =>
      rw [sole.single left right (looping_of_reads leftReads) (looping_of_reads rightReads)]

/-- One reader stays the only one when the main thread does not come to wait and no thread enters a
loop. -/
theorem Sole.keep (sole : client.Sole)
    (main : ∀ request, client'.main.request = some request → client.main.request = some request)
    (loops : ∀ thread, looping client'.receivers thread = true →
      looping client.receivers thread = true) : client'.Sole where
  apart request waits thread := by
    rw [← Bool.not_eq_true]
    intro inside
    have before := sole.apart request (main request waits) thread
    rw [loops thread inside] at before
    contradiction
  single left right leftIn rightIn := sole.single left right (loops left leftIn) (loops right rightIn)

/-- Every step leaves one reader when no request is sent while a thread is in its loop. -/
theorem Sole.step (sole : client.Sole) (alone : client.alone choice = true)
    (moves : Moves client choice client') : client'.Sole := by
  cases moves with
  | goes before after => exact sole.keep (fun request waits => by simp [after] at waits) fun _ => id
  | asks before => exact ⟨fun _ _ => looping_of_all alone, sole.single⟩
  | gets waits _ _ _ => exact sole.keep (fun request same => by rw [waits]; exact same) fun _ => id
  | @returns _ call username request count got result state main receivers printed waits _ _ _ after
      created =>
    have none_ := sole.apart request (by rw [waits]; rfl)
    rcases created with rfl | rfl
    · exact sole.keep (fun request waits => by simp [after] at waits) fun _ => id
    · -- The new thread is the only one in its loop.
      have last {thread : Nat} (loops : looping (client.receivers ++ [.created]) thread = true) :
          thread = client.receivers.length := by
        rcases looping_append loops with before | last
        · rw [none_ thread] at before
          contradiction
        · exact last
      exact ⟨fun request waits => by simp [after] at waits, fun left right leftIn rightIn =>
        (last leftIn).trans (last rightIn).symm⟩
  | breaks _ => exact sole.keep (fun request waits => by cases waits) fun _ => id
  | reads inside => exact sole.keep (fun _ => id) fun _ => looping_set fun _ => inside
  | fails inside => exact sole.keep (fun _ => id) fun _ => looping_set fun _ => inside
  | advances inside => exact sole.keep (fun _ => id) fun _ => looping_set inside
  | arrives _ => exact sole.keep (fun _ => id) fun _ => id

/-- In runs in which no request is sent while a thread is in its loop, it is always so. -/
theorem sole_of_alone (reached : ReachableUnder alone client) : client.Sole := by
  refine reached.invariant Sole ?_ ?_
  · rintro _ rfl
    exact ⟨fun _ waits => (by cases waits), fun _ _ inside => (by cases inside)⟩
  · intro client choice client' _ sole taken
    obtain ⟨alone, taken⟩ := Option.ite_none_right_eq_some.mp taken
    exact sole.step alone (step_moves taken)

end ThreadedClient

/-! ## Parts of packets -/

/-- `recv_packet` returns when the bytes it has received are a frame, or its header is malformed. -/
theorem received_eq (got : List UInt8) :
    received got = match packetCut got with
      | .more => none
      | .reject => some none
      | .frame _ _ => some ((recvPacket got).map Prod.fst) := by
  unfold received packetCut wanted headerLength lengthField
  split_ifs <;> first | rfl | omega

/-- `recv_packet` goes on after a part of a packet. -/
theorem received_part {packet : Packet} {part : List UInt8} (start : part <+: wire packet)
    (short : part.length < (wire packet).length) : received part = none := by
  rw [received_eq, packetCut_part start short]

/-- `recv_packet` returns a packet after the whole of it. -/
theorem received_wire (packet : Packet) : received (wire packet) = some (some packet) := by
  have cut := packetCut_wire packet []
  have read := recvPacket_wire packet []
  rw [List.append_nil] at cut read
  rw [received_eq, cut, read]
  rfl

/-- `recv_packet` asks for no more than what is missing of a packet. -/
theorem wanted_le {packet : Packet} {got part : List UInt8} (whole : got ++ part = wire packet) :
    wanted got ≤ part.length := by
  have cut := packetCut_wire packet []
  rw [List.append_nil] at cut
  obtain ⟨size, _⟩ := packetCut_bytes cut
  rw [← whole, List.length_append] at size
  unfold wanted
  split
  · omega
  · rename_i header
    have same := lengthField_append (Nat.not_lt.mp header) part
    change 72 + lengthField got - got.length ≤ part.length
    omega

/-- What is taken from the front of tagged bytes. -/
theorem take_tagged {part : List UInt8} {rest : List (UInt8 × Origin)} {origin : Origin} {count : Nat}
    (few : count ≤ part.length) :
    (part.map (·, origin) ++ rest).take count = (part.take count).map (·, origin) ∧
      (part.map (·, origin) ++ rest).drop count = (part.drop count).map (·, origin) ++ rest := by
  rw [List.take_append_of_le_length (by rwa [List.length_map]),
    List.drop_append_of_le_length (by rwa [List.length_map]), List.map_take, List.map_drop]
  exact ⟨rfl, rfl⟩

/-! ## Replies -/

/-- The bytes belong to no reply. -/
def Plain (stream : List (UInt8 × Origin)) : Prop := ∀ entry ∈ stream, entry.2 = .other

namespace ThreadedClient

variable {client client' : ThreadedClient} {choice : Choice}

/-- While the main thread waits, there is nothing to read, or the rest of the reply is in front;
otherwise there is no reply to read. -/
def Pending (client : ThreadedClient) : Prop :=
  match client.main with
  | .waiting _ _ request got =>
    request ∉ client.replied ∧ got = [] ∧ client.stream = [] ∨
      request ∈ client.replied ∧ ∃ packet part rest, (.reply request, packet) ∈ client.arrivals ∧
        part ≠ [] ∧ got ++ part = wire packet ∧
        client.stream = part.map (·, .reply request) ++ rest ∧ Plain rest
  | _ => Plain client.stream

/-- There is no reply to read when the main thread does not wait. -/
theorem pending_idle (idle : client.main.request = none) :
    client.Pending ↔ Plain client.stream := by
  unfold Pending
  split
  · rename_i waits
    simp [waits, MainThread.request] at idle
  · exact Iff.rfl

/-- The replies are read as they should be, and the next ones will be. -/
structure Orderly (client : ThreadedClient) : Prop extends Matched client where
  /-- Only requests are answered. -/
  issued : ∀ request ∈ client.replied, request < client.requests
  /-- A request that is not answered is waited for, while the connection works. -/
  open_ : ∀ request < client.requests,
    request ∈ client.replied ∨ client.main.request = some request ∨ client.closed = true
  /-- What is left to read is in order. -/
  pending : client.Pending

/-- What the main thread receives while it waits is a part of the reply. -/
theorem Pending.taken (pending : client.Pending) {call : AuthCall}
    {username : FixedString usernameMaxLen} {request count : Nat} {got : List UInt8}
    (waits : client.main = .waiting call username request got) (few : count ≤ wanted got)
    (some_ : client.stream.take count ≠ []) :
    request ∈ client.replied ∧ ∃ packet part rest, (.reply request, packet) ∈ client.arrivals ∧
      got ++ part = wire packet ∧ (client.stream.take count).map Prod.fst = part.take count ∧
      (∀ entry ∈ client.stream.take count, entry.2 = .reply request) ∧
      client.stream.drop count = (part.drop count).map (·, .reply request) ++ rest ∧ Plain rest := by
  unfold Pending at pending
  rw [waits] at pending
  rcases pending with ⟨_, _, empty⟩ | ⟨replied, packet, part, rest, arrived, _, whole, stream, plain⟩
  · simp [empty] at some_
  · obtain ⟨front, behind⟩ := @take_tagged part rest (.reply request) count
      (few.trans (wanted_le whole))
    refine ⟨replied, packet, part, rest, arrived, whole, ?_, ?_, by rw [stream, behind], plain⟩
    · rw [stream, front, List.map_map]
      exact List.map_id' _
    · rw [stream, front]
      intro entry inside
      obtain ⟨_, _, rfl⟩ := List.mem_map.mp inside
      rfl

/-- The reads of the call that waits keep replies to their own calls. -/
theorem own_take {request count : Nat}
    (own : ∀ reader request, (reader, Origin.reply request) ∈ client.reads → reader = .wait request)
    (taken : ∀ entry ∈ client.stream.take count, entry.2 = .reply request) {reader : Reader}
    {request' : Nat}
    (read : (reader, Origin.reply request') ∈ (client.take (.wait request) count).reads) :
    reader = .wait request' := by
  rcases List.mem_append.mp read with before | now
  · exact own reader request' before
  · obtain ⟨entry, inside, same⟩ := List.mem_map.mp now
    rw [taken entry inside, Prod.mk.injEq, Origin.reply.injEq] at same
    rw [← same.1, same.2]

/-- A call that does not wait for a reply reads none. -/
theorem plain_take {reader reader' : Reader} {request count : Nat} (plain : Plain client.stream)
    (read : (reader, Origin.reply request) ∈ (client.take reader' count).reads) :
    (reader, Origin.reply request) ∈ client.reads := by
  rcases List.mem_append.mp read with before | taken
  · exact before
  · obtain ⟨entry, inside, same⟩ := List.mem_map.mp taken
    rw [plain entry (List.mem_of_mem_take inside), Prod.mk.injEq] at same
    exact absurd same.2 (by simp)

/-- The first of several results stays among them. -/
theorem called_waits {waits : List (Nat × Option Packet)} {entry : Nat × Option Packet}
    {request : Nat} {left right : Prop}
    (called : left ∨ ∃ result, (request, result) ∈ waits)
    (now : left → right ∨ request = entry.1) :
    right ∨ ∃ result, (request, result) ∈ waits ++ [entry] := by
  rcases called with waits_ | ⟨result, before⟩
  · rcases now waits_ with still | rfl
    · exact .inl still
    · exact .inr ⟨entry.2, List.mem_append_right _ (List.mem_singleton_self _)⟩
  · exact .inr ⟨result, List.mem_append_left _ before⟩

/-- The rest of a packet is in front until all of it has been received. -/
theorem received_more {packet : Packet} {got part : List UInt8} {count : Nat}
    (whole : got ++ part = wire packet) :
    received (got ++ part.take count) = none ∧ part.drop count ≠ [] ∨
      received (got ++ part.take count) = some (some packet) ∧ part.drop count = [] := by
  have split : got ++ part.take count ++ part.drop count = wire packet := by
    rw [List.append_assoc, List.take_append_drop, whole]
  by_cases done : part.drop count = []
  · rw [done, List.append_nil] at split
    exact .inr ⟨by rw [split, received_wire], done⟩
  · refine .inl ⟨received_part ⟨part.drop count, split⟩ ?_, done⟩
    have missing := List.length_pos_iff.mpr done
    have size := congrArg List.length split
    rw [List.length_append] at size
    omega

/-- A packet that arrives keeps what is left to read in order. -/
theorem Pending.arrive (pending : client.Pending)
    (open_ : ∀ request < client.requests,
      request ∈ client.replied ∨ client.main.request = some request ∨ client.closed = true)
    {origin : Origin} {packet : Packet} (may : client.mayArrive origin = true)
    (prompt : client.prompt (.arrive origin packet) = true) :
    (client.arrive origin packet).Pending := by
  cases origin with
  | other =>
    have added (stream : List (UInt8 × Origin)) (plain : Plain stream) :
        Plain (stream ++ (wire packet).map (·, .other)) := by
      intro entry inside
      rcases List.mem_append.mp inside with before | now
      · exact plain entry before
      · obtain ⟨_, _, rfl⟩ := List.mem_map.mp now
        rfl
    cases main : client.main with
    | waiting call username request got =>
      have replied : request ∈ client.replied := by
        simpa [ThreadedClient.prompt, main, MainThread.request] using prompt
      simp only [Pending, main] at pending
      simp only [Pending, ThreadedClient.arrive, main]
      rcases pending with ⟨unreplied, _⟩ | ⟨_, reply, part, rest, arrived, more, whole, stream, plain⟩
      · exact absurd replied unreplied
      · exact .inr ⟨replied, reply, part, rest ++ (wire packet).map (·, .other),
          List.mem_append_left _ arrived, more, whole, by rw [stream, List.append_assoc],
          added rest plain⟩
    | _ =>
      simp only [Pending, main] at pending
      simp only [Pending, ThreadedClient.arrive, main]
      exact added client.stream pending
  | reply request =>
    simp only [mayArrive, Bool.and_eq_true, Bool.not_eq_true', decide_eq_true_eq] at may
    obtain ⟨⟨works, sent⟩, unreplied⟩ := may
    have waits : client.main.request = some request := by
      rcases open_ request sent with replied | waits | closed
      · exact absurd replied unreplied
      · exact waits
      · rw [works] at closed
        contradiction
    cases main : client.main with
    | waiting call username request' got =>
      rw [main] at waits
      obtain rfl : request' = request := Option.some.inj waits
      simp only [Pending, main] at pending
      simp only [Pending, ThreadedClient.arrive, main]
      rcases pending with ⟨_, rfl, stream⟩ | ⟨replied, _⟩
      · refine .inr ⟨List.mem_append_right _ (List.mem_singleton_self _), packet, wire packet, [],
          List.mem_append_right _ (List.mem_singleton_self _), ?_, rfl, ?_, by simp [Plain]⟩
        · rw [wire_eq]
          exact List.append_ne_nil_of_left_ne_nil (List.ne_nil_of_length_eq_add_one
            (wireHeader_length packet)) _
        · rw [stream, List.nil_append, List.append_nil]
      · exact absurd replied unreplied
    | _ =>
      rw [main] at waits
      contradiction

/-- Asking when nothing is left to read keeps the order. -/
theorem Orderly.asks (orderly : client.Orderly) (before : client.main.request = none)
    (nothing : client.stream = []) {call : AuthCall} {username : FixedString usernameMaxLen}
    {packet : Packet} :
    Orderly
      { client with
        main := .waiting call username client.requests []
        written := client.written ++ [packet]
        requests := client.requests + 1 } := by
  obtain ⟨⟨called, own, answered⟩, issued, open_, _⟩ := orderly
  have fresh : client.requests ∉ client.replied := fun replied => Nat.lt_irrefl _ (issued _ replied)
  refine ⟨⟨fun request sent => ?_, own, answered⟩,
    fun request replied => (issued request replied).trans (Nat.lt_succ_self _),
    fun request sent => ?_, .inl ⟨fresh, rfl, nothing⟩⟩
  · rcases Nat.lt_succ_iff_lt_or_eq.mp sent with earlier | rfl
    · exact .inr (by simpa [before] using called request earlier)
    · exact .inl rfl
  · rcases Nat.lt_succ_iff_lt_or_eq.mp sent with earlier | rfl
    · exact (open_ request earlier).imp_right fun rest => .inr (by simpa [before] using rest)
    · exact .inr (.inl rfl)

/-- Receiving a part of the reply keeps the order. -/
theorem Orderly.gets (orderly : client.Orderly) {call : AuthCall}
    {username : FixedString usernameMaxLen} {request count : Nat} {got : List UInt8}
    (waits : client.main = .waiting call username request got) (few : count ≤ wanted got)
    (some_ : client.stream.take count ≠ [])
    (unfinished : received (got ++ (client.stream.take count).map Prod.fst) = none) :
    Orderly
      { client.take (.wait request) count with
        main := .waiting call username request
          (got ++ (client.stream.take count).map Prod.fst) } := by
  obtain ⟨⟨called, own, answered⟩, issued, open_, pending⟩ := orderly
  obtain ⟨replied, packet, part, rest, arrived, whole, bytes, origins, left, plain⟩ :=
    pending.taken waits few some_
  have same : client.main.request = some request := by rw [waits]; rfl
  rw [bytes] at unfinished
  rcases @received_more packet got part count whole with ⟨_, more⟩ | ⟨finished, _⟩
  · refine ⟨⟨fun request' sent => ?_, fun _ _ => own_take own origins, answered⟩, issued,
      fun request' sent => ?_,
      .inr ⟨replied, packet, part.drop count, rest, arrived, more, ?_, left, plain⟩⟩
    · have before := called request' sent
      rw [same] at before
      exact before
    · have before := open_ request' sent
      rw [same] at before
      exact before
    · rw [bytes, List.append_assoc, List.take_append_drop, whole]
  · rw [finished] at unfinished
    contradiction

/-- Receiving the rest of the reply keeps the order. -/
theorem Orderly.returns (orderly : client.Orderly) {call : AuthCall}
    {username : FixedString usernameMaxLen} {request count : Nat} {got : List UInt8}
    {result : Option Packet} {state : ClientState} {main : MainThread}
    {receivers : List ReceiveThread} {printed : List Line}
    (waits : client.main = .waiting call username request got) (few : count ≤ wanted got)
    (some_ : client.stream.take count ≠ [])
    (finished : received (got ++ (client.stream.take count).map Prod.fst) = some result)
    (after : main.request = none) :
    Orderly
      { client.take (.wait request) count with
        state, main, receivers, printed, waits := client.waits ++ [(request, result)] } := by
  obtain ⟨⟨called, own, answered⟩, issued, open_, pending⟩ := orderly
  obtain ⟨replied, packet, part, rest, arrived, whole, bytes, origins, left, plain⟩ :=
    pending.taken waits few some_
  have same : client.main.request = some request := by rw [waits]; rfl
  rw [bytes] at finished
  rcases @received_more packet got part count whole with ⟨unfinished, _⟩ | ⟨complete, nothing⟩
  · rw [unfinished] at finished
    contradiction
  rw [complete, Option.some.injEq] at finished
  subst finished
  refine ⟨⟨fun request' sent => ?_, fun _ _ => own_take own origins,
    fun request' reply result => ?_⟩, issued, fun request' sent => ?_, (pending_idle after).mpr ?_⟩
  · refine called_waits (called request' sent) fun now => .inr ?_
    rw [same] at now
    exact (Option.some.inj now).symm
  · rcases List.mem_append.mp result with before | now
    · exact answered request' reply before
    · rw [List.mem_singleton, Prod.mk.injEq, Option.some.injEq] at now
      rw [now.1, now.2]
      exact arrived
  · rcases open_ request' sent with answered | now | closed
    · exact .inl answered
    · rw [same] at now
      exact .inl (Option.some.inj now ▸ replied)
    · exact .inr (.inr closed)
  · change Plain (client.stream.drop count)
    rw [left, nothing]
    exact plain

/-- A packet that arrives promptly keeps the order. -/
theorem Orderly.arrive (orderly : client.Orderly) {origin : Origin} {packet : Packet}
    (may : client.mayArrive origin = true)
    (prompt : client.prompt (.arrive origin packet) = true) :
    (client.arrive origin packet).Orderly := by
  obtain ⟨⟨called, own, answered⟩, issued, open_, pending⟩ := orderly
  have still := pending.arrive open_ may prompt
  have later (request : Nat) (reply : Packet) (before : (request, some reply) ∈ client.waits) :
      (.reply request, reply) ∈ (client.arrive origin packet).arrivals :=
    List.mem_append_left _ (answered request reply before)
  cases origin with
  | other => exact ⟨⟨called, own, later⟩, issued, open_, still⟩
  | reply request =>
    simp only [mayArrive, Bool.and_eq_true, Bool.not_eq_true', decide_eq_true_eq] at may
    refine ⟨⟨called, own, later⟩, fun request' replied => ?_, fun request' sent => ?_, still⟩
    · rcases List.mem_append.mp replied with before | now
      · exact issued request' before
      · exact List.mem_singleton.mp now ▸ may.1.2
    · exact (open_ request' sent).imp_left (List.mem_append_left _)

/-- Every step keeps the order when at most one thread reads and the server is prompt. -/
theorem Orderly.step (orderly : client.Orderly) (sole : client.Sole)
    (prompt : client.prompt choice = true) (moves : Moves client choice client') :
    client'.Orderly := by
  cases moves with
  | asks before => exact orderly.asks before (List.isEmpty_iff.mp prompt)
  | gets waits few some_ unfinished => exact orderly.gets waits few some_ unfinished
  | returns waits few some_ finished after _ => exact orderly.returns waits few some_ finished after
  | arrives may => exact orderly.arrive may prompt
  | goes before after =>
    obtain ⟨⟨called, own, answered⟩, issued, open_, pending⟩ := orderly
    have plain := (pending_idle before).mp pending
    refine ⟨⟨fun request sent => ?_, own, answered⟩, issued, fun request sent => ?_,
      (pending_idle after).mpr plain⟩
    · simpa [before, after] using called request sent
    · simpa [before, after] using open_ request sent
  | @breaks _ request printed waits =>
    obtain ⟨⟨called, own, answered⟩, issued, _, _⟩ := orderly
    refine ⟨⟨fun request' sent => ?_, own, fun request' reply result => ?_⟩, issued,
      fun _ _ => .inr (.inr rfl), (pending_idle rfl).mpr (by simp [Plain, close])⟩
    · refine called_waits (called request' sent) fun now => .inr ?_
      rw [waits] at now
      exact (Option.some.inj now).symm
    · rcases List.mem_append.mp result with before | now
      · exact answered request' reply before
      · simp at now
  | reads inside =>
    obtain ⟨⟨called, own, answered⟩, issued, open_, pending⟩ := orderly
    have plain := (pending_idle (sole.idle inside)).mp pending
    refine ⟨⟨called, fun reader request read => own reader request (plain_take plain read),
      answered⟩, issued, open_, (pending_idle (by exact sole.idle inside)).mpr fun entry left => ?_⟩
    exact plain entry (List.mem_of_mem_drop left)
  | fails inside =>
    obtain ⟨⟨called, own, answered⟩, issued, _, _⟩ := orderly
    exact ⟨⟨called, own, answered⟩, issued, fun _ _ => .inr (.inr rfl),
      (pending_idle (by exact sole.idle inside)).mpr (by simp [Plain, close, setReceiver])⟩
  | advances inside =>
    obtain ⟨⟨called, own, answered⟩, issued, open_, pending⟩ := orderly
    exact ⟨⟨called, own, answered⟩, issued, open_, pending⟩

/-- In runs in which, besides, the server is prompt, the replies are read as they should be. -/
theorem orderly_of_prompt
    (reached : ReachableUnder (fun client choice => client.alone choice && client.prompt choice)
      client) : client.Orderly := by
  refine (reached.invariant (fun client => client.Sole ∧ client.Orderly) ?_ ?_).2
  · rintro _ rfl
    refine ⟨⟨fun _ waits => (by cases waits), fun _ _ inside => (by cases inside)⟩, ?_⟩
    have none_ {request : Nat} (sent : request < 0) : False := Nat.not_lt_zero _ sent
    exact ⟨⟨fun _ sent => (none_ sent).elim, by simp, by simp⟩, by simp,
      fun _ sent => (none_ sent).elim, by simp [Pending, Plain]⟩
  · rintro client choice client' _ ⟨sole, orderly⟩ taken
    obtain ⟨meets, taken⟩ := Option.ite_none_right_eq_some.mp taken
    obtain ⟨alone, prompt⟩ := (Bool.and_eq_true _ _).mp meets
    exact ⟨sole.step alone (step_moves taken), orderly.step sole prompt (step_moves taken)⟩

/-! ## The law -/

/-- In every run in which no REGISTER or LOGIN request is sent while a thread that runs `recv_thread`
is in its loop, at most one thread reads; and if, besides, nothing is left to read when a request is
sent and nothing else arrives before its reply, every reply is read by the call that waits for it. -/
theorem readers_matched (reached : ReachableUnder alone client) :
    client.OneReader ∧
      (ReachableUnder (fun client choice => client.alone choice && client.prompt choice) client →
        client.Matched) :=
  ⟨(sole_of_alone reached).oneReader, fun promptly => (orderly_of_prompt promptly).toMatched⟩

/-- The choices of a run. -/
def stepAll (meets : ThreadedClient → Choice → Bool) (choices : List Choice) :
    Option ThreadedClient :=
  choices.foldlM (stepUnder meets) {}

/-- A run that was computed. -/
theorem stepAll_reachable {meets : ThreadedClient → Choice → Bool} {choices : List Choice}
    (ran : stepAll meets choices = some client) : ReachableUnder meets client :=
  .of_foldlM (.start rfl) ran

/-- A confirmation by the server. -/
def confirmation : Packet :=
  (packetInit MessageType.msgOk.code CString.empty CString.empty [0x6f, 0x6b, 0]).get
    (by decide +kernel)

/-- The user enters the main menu and logs in, which the server confirms. -/
def loggingIn : List Choice :=
  [.enter, .auth .doLogin (copyFixed _ (CString.ofString "ann")) (copyFixed _ (CString.ofString "pw"))
    true, .arrive (.reply 0) confirmation, .receiveMain 72 true, .receiveMain 3 true]

/-- The new thread begins to read, the user logs out, and the thread reads the confirmation. -/
def loggingOut : List Choice :=
  [.enter, .advance 0, .logout false true, .arrive .other confirmation,
    .receive 0 72 ⟨⟨.made, fun _ => true, fun _ => false⟩, true, none⟩,
    .receive 0 3 ⟨⟨.made, fun _ => true, fun _ => false⟩, true, none⟩]

/-- The user logs in again. The thread reads on and receives the header of the reply. -/
def loggingInAgain : List Choice :=
  [.advance 0, .enter,
    .auth .doLogin (copyFixed _ (CString.ofString "ann")) (copyFixed _ (CString.ofString "pw")) true,
    .arrive (.reply 1) confirmation,
    .receive 0 72 ⟨⟨.made, fun _ => true, fun _ => false⟩, true, none⟩]

/-- A login and a logout. -/
theorem readers_matched_login : ∃ client : ThreadedClient,
    stepAll (fun client choice => client.alone choice && client.prompt choice)
        (loggingIn ++ loggingOut) = some client ∧
      client.waits = [(0, some confirmation)] ∧ client.OneReader ∧ client.Matched := by
  have ran : (stepAll (fun client choice => client.alone choice && client.prompt choice)
      (loggingIn ++ loggingOut)).any
        (fun client => client.waits = [(0, some confirmation)]) = true := by
    decide +kernel
  obtain ⟨client, ran, waits⟩ := (Option.any_eq_true _ _).mp ran
  have reached := stepAll_reachable ran
  have alone_ : ReachableUnder alone client := by
    refine reached.widen fun state choice state' taken => ?_
    obtain ⟨meets, taken⟩ := Option.ite_none_right_eq_some.mp taken
    exact Option.ite_none_right_eq_some.mpr ⟨((Bool.and_eq_true _ _).mp meets).1, taken⟩
  obtain ⟨one, matched⟩ := readers_matched alone_
  exact ⟨client, ran, of_decide_eq_true waits, one, matched reached⟩

/-- After a second login two threads read, also when the server is prompt, and the one that was
started at the first login may read the reply to the second. -/
theorem readers_matched_again :
    (¬ ∀ client : ThreadedClient, ReachableUnder prompt client → client.OneReader) ∧
      ¬ ∀ client : ThreadedClient, ReachableUnder prompt client → client.Matched := by
  have ran : (stepAll prompt (loggingIn ++ loggingOut ++ loggingInAgain)).any (fun client =>
      client.readsPacket none && client.readsPacket (some 0) &&
        decide ((Reader.receiver 0, Origin.reply 1) ∈ client.reads)) = true := by
    decide
  obtain ⟨client, ran, both⟩ := (Option.any_eq_true _ _).mp ran
  simp only [Bool.and_eq_true, decide_eq_true_eq] at both
  obtain ⟨⟨main, other⟩, stolen⟩ := both
  have reached := stepAll_reachable ran
  refine ⟨fun claim => ?_, fun claim => ?_⟩
  · exact absurd (claim client reached none (some 0) main other) (by simp)
  · exact absurd ((claim client reached).own _ _ stolen) (by simp)

end ThreadedClient

end MultiUserChat.Client
