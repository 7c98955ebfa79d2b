import MultiUserChat.Verif.EventOrder
/-!
# Runs whose events stay in order

`CurrentText` says that handler code sends only events that are up to date, as long as what remains
after a call is still up to date. Every handler is such code. `ResumesOnline` is what can fail after
a nested cleanup: the events still to be sent list a user that has gone offline meanwhile. In runs
where this never happens the events about a group shrink on every connection.
-/

namespace MultiUserChat

open Program

/-- Events list only users that are online. -/
def Operation.ListsOnline (state : ServerState) : Operation → Prop
  | .send _ packet _ => packet.type = MessageType.msgGroupEvent.code →
      ∀ name ∈ eventMembers packet, state.online name = true
  | _ => True

/-- The events that remain to be sent list only users that are online. -/
def ResumesOnline (state : ServerState) (program : Handler Unit) : Prop :=
  program.Only (Operation.ListsOnline state)

/-- Up-to-dateness is about the groups. -/
theorem Operation.UpToDate.of_groups {op : Operation} {state other : ServerState}
    (current : op.UpToDate state) (same : other.groups = state.groups) : op.UpToDate other := by
  cases op with
  | send fd packet target =>
    intro event
    obtain ⟨group, listed, found⟩ := current event
    exact ⟨group, same ▸ listed, found⟩
  | groupCreate creator name members =>
    unfold Operation.UpToDate at current ⊢
    rwa [same]
  | _ => trivial

/-- An event that was up to date and lists nobody who went offline is still up to date. -/
theorem Operation.UpToDate.of_cascade {op : Operation} {before after : ServerState}
    (current : op.UpToDate before) (keeps : op.keepsGroups = true)
    (wellFormed : before.WellFormed) (cascade : Cascade before after)
    (online : op.ListsOnline after) : op.UpToDate after := by
  cases op with
  | send fd packet target =>
    intro event
    obtain ⟨gone, cascade⟩ := cascade
    obtain ⟨entry, listed, id, members⟩ := ServerState.lists_iff_roster.mp (current event)
    have stay : (entry.2.filter fun member => !gone member) = entry.2 := by
      rw [List.filter_eq_self]
      intro name inside
      have here := online event name (members ▸ inside)
      rw [cascade.online, Bool.and_eq_true] at here
      exact here.2
    refine ServerState.lists_iff_roster.mpr ⟨entry, ?_, id, members⟩
    rw [cascade.roster]
    exact Roster.mem_depart.mpr
      ⟨wellFormed.groups.roster_inhabited entry listed, entry, listed, rfl, stay.symm⟩
  | groupCreate _ _ _ => contradiction
  | _ => trivial

/-- Operations that are up to date and do not touch the groups. -/
def Operation.Settled (state : ServerState) (op : Operation) : Prop :=
  op.UpToDate state ∧ op.keepsGroups = true

/-- A plain operation is settled. -/
theorem Operation.settled_of_plain (state : ServerState) (op : Operation) (plain : op.plain = true) :
    op.Settled state := by
  cases op with
  | send fd packet target =>
    exact ⟨fun event => absurd event (packet.not_event_of_plain (Operation.packet_plain plain)), rfl⟩
  | userGetFd _ | userOnlineList | userSnapshotOnlineFds _ | userUsernameByFd _ =>
    exact ⟨trivial, rfl⟩
  | groupGetSnapshot _ | groupBuildListPayload _ => exact ⟨trivial, rfl⟩
  | userRegister _ _ | userLogin _ _ _ | userLogoutFd _ | groupCreate _ _ _ => contradiction
  | groupRemoveMember _ | close _ => contradiction

/-- A packet that is no event is settled. -/
theorem Operation.settled_forward {state : ServerState} {packet : Packet}
    (other : packet.type ≠ MessageType.msgGroupEvent.code) (fd : Int) (target : Option CString) :
    (Operation.send fd packet target).Settled state :=
  ⟨fun event => absurd event other, rfl⟩

/-- An event about a group of the store is up to date. -/
theorem pushGroupEvent_settled {state : ServerState} {event : CString} {snapshot : GroupSnapshot}
    (bound : snapshot.memberCount ≤ groupMaxMembers)
    (listed : state.Lists snapshot.id.toCString snapshot.memberNames) :
    (pushGroupEvent event snapshot).Only (Operation.Settled state) := by
  unfold pushGroupEvent
  split
  · rename_i payload built
    refine sendToMembers_only (fun _ => ⟨trivial, rfl⟩) (fun target fd packet initialised => ?_) _
    obtain ⟨_, _, receiver, content⟩ := packetInit_eq initialised
    rw [groupPayloadBuildEvent_ok built] at content
    have fits : (encodeFields (eventFields event snapshot)).length ≤ packetDataMax := by
      rw [← groupPayloadBuildEvent_ok built]
      exact payload.length_le
    have members : eventMembers packet = snapshot.memberNames := by
      rw [eventMembers, content,
        groupPayloadParse_encodeFields (by simp [eventFields]) (eventFields_length_le bound) fits]
      rfl
    refine ⟨fun _ => ?_, rfl⟩
    rw [Packet.receiverName, receiver, ofBytes_copyFixedString snapshot.id.fits, members]
    exact listed
  · trivial

/-- Announcing groups of the store is up to date. -/
theorem pushChanges_settled {state : ServerState} {changes : List GroupChange}
    (listed : ∀ change ∈ changes, change.group.memberCount ≤ groupMaxMembers ∧
      state.Lists change.group.id.toCString change.group.memberNames) :
    (pushChanges changes).Only (Operation.Settled state) := by
  induction changes with
  | nil => trivial
  | cons change changes ih =>
    obtain ⟨first, others⟩ := List.forall_mem_cons.mp listed
    exact only_bind (pushGroupEvent_settled first.1 first.2) fun _ => ih others

section

variable [Sha256]

/-- The code sends only events that are up to date, and creates groups only with unused ids, until
it makes a call; what remains after a call would be so in the state of the call. -/
def CurrentText : Handler Unit → ServerState → Prop
  | .done _, _ => True
  | .perform op next, state => op.UpToDate state ∧
      ∀ outcome, CurrentText (next (perform outcome op state).1) (perform outcome op state).2
  | .call _ next, state => next.Only (Operation.Settled state)

/-- Settled code is current. -/
theorem currentText_of_only {program : Handler Unit} {state other : ServerState}
    (only : program.Only (Operation.Settled state)) (same : other.groups = state.groups) :
    CurrentText program other := by
  induction program generalizing other with
  | done value => trivial
  | perform op next ih =>
    refine ⟨only.1.1.of_groups same, fun outcome => ih _ (only.2 _) ?_⟩
    rw [perform_keepsGroups only.1.2, same]
  | call target next ih =>
    exact Only.weaken only fun op settled => ⟨settled.1.of_groups same, settled.2⟩

/-- The changes that a removal reports are groups of the store after it. -/
theorem removeMember_lists {state : ServerState} (wellFormed : state.WellFormed) (username : CString)
    (outcome : Outcome) : ∀ change ∈ (perform outcome (.groupRemoveMember username) state).1,
      change.group.memberCount ≤ groupMaxMembers ∧
        (perform outcome (.groupRemoveMember username) state).2.Lists change.group.id.toCString
          change.group.memberNames := by
  intro change reported
  have changes := wellFormed.groups.removeMember_changes username groupEventMaxChanges
  have roster := wellFormed.groups.removeMember_roster username groupEventMaxChanges
  change change ∈ (groupStoreRemoveMember state.groups username groupEventMaxChanges).2.1 at reported
  rw [changes] at reported
  obtain ⟨snapshot, taken, rfl⟩ := List.mem_map.mp reported
  have survivor := List.mem_of_mem_take taken
  rw [GroupStore.survivors, List.mem_filter, List.mem_map] at survivor
  obtain ⟨⟨original, member, rfl⟩, some_⟩ := survivor
  have listed := (List.mem_filter.mp member).1
  have own := wellFormed.groups.groups original listed
  have kept := own.without username
  refine ⟨kept.count_le, ServerState.lists_iff_roster.mpr
    ⟨(original.without username).entry, ?_, rfl, rfl⟩⟩
  change _ ∈ (groupStoreRemoveMember state.groups username groupEventMaxChanges).2.2.roster
  rw [roster]
  refine Roster.mem_depart.mpr ⟨?_, original.entry, List.mem_map_of_mem listed, ?_, ?_⟩
  · intro empty
    rw [decide_eq_true_eq] at some_
    exact some_ (kept.memberCount_eq_zero.mpr empty)
  · exact (original.without_header username).symm
  · rw [GroupSnapshot.entry, own.without_memberNames]
    simp [GroupSnapshot.entry]

/-- A cleanup is current. -/
theorem cleanupOfflineFd_current {state : ServerState} (wellFormed : state.WellFormed) (fd : Int) :
    CurrentText (cleanupOfflineFd fd) state := by
  rw [cleanupOfflineFd_eq]
  refine ⟨trivial, fun _ => ?_⟩
  dsimp only
  split
  · exact ⟨trivial, fun _ => trivial⟩
  · rename_i name _
    refine ⟨trivial, fun removal => ⟨trivial, fun leaving => ?_⟩⟩
    exact currentText_of_only (pushChanges_settled (removeMember_lists wellFormed name removal)) rfl

/-- The member loop only looks users up and replies. -/
theorem checkMembers_current {state : ServerState} {fd : Int} {username : CString}
    {rest : Option Bool → Handler Unit} (current : ∀ result, CurrentText (rest result) state)
    (members : List CString) (flag : Bool) :
    CurrentText (checkMembers fd username members flag >>= rest) state := by
  induction members generalizing flag with
  | nil => exact current _
  | cons member members ih =>
    unfold checkMembers
    simp only [perform_bind, done_bind]
    refine ⟨trivial, fun outcome => ?_⟩
    change CurrentText _ state
    cases (perform outcome (.userGetFd member) state).1 with
    | ok memberFd => exact ih _
    | error refusal =>
      dsimp only
      unfold sendTextResponse
      split
      · exact current none
      · rename_i packet built
        unfold packetSetText at built
        split at built
        · contradiction
        · have error := (packetInit_eq built).1
          exact ⟨fun event => absurd (error.symm.trans event) (by decide), fun _ => current none⟩

/-- A creation is current when its id is unused. -/
theorem createGroupFor_current {state : ServerState} {fd : Int} {packet : Packet}
    {username : CString}
    (unused : findGroupLocked state.groups (groupIdText state.groups.nextId) = none) :
    CurrentText (createGroupFor fd packet username) state := by
  have respond {other : ServerState} {type : MessageType} {message : CString}
      (plain : type.plain = true) : CurrentText (sendTextResponse fd type message) other :=
    currentText_of_only (response_only (Operation.settled_of_plain other) plain) rfl
  unfold createGroupFor
  split
  · split
    · exact respond rfl
    · rename_i name member others _ _
      refine checkMembers_current (fun checked => ?_) _ _
      split
      · trivial
      · exact respond rfl
      · simp only [perform_bind, done_bind]
        refine ⟨unused, fun outcome => ?_⟩
        obtain ⟨result, refused⟩ | ⟨snapshot, created, done⟩ :=
          GroupStore.create_cases outcome.allocated state.groups username name (member :: others)
        · have answer : (perform outcome (.groupCreate username name (member :: others)) state).1 =
              .error result := congrArg Prod.fst refused
          rw [answer]
          exact respond rfl
        · have answer : (perform outcome (.groupCreate username name (member :: others)) state).1 =
              .ok snapshot := congrArg Prod.fst done
          rw [answer]
          refine currentText_of_only (only_bind (pushGroupEvent_settled created.wellFormed.count_le
            ⟨snapshot, ?_, rfl, rfl⟩) fun _ => response_only (Operation.settled_of_plain _) rfl) rfl
          change snapshot ∈ (groupStoreCreate outcome.allocated state.groups username name
            (member :: others)).2.head
          rw [done]
          exact List.mem_cons_self
  · exact respond rfl

/-- Handling a packet is current, when a new group would get an unused id. -/
theorem processPacket_current {state : ServerState} {fd : Int} {packet : Packet}
    (unused : packet.type = MessageType.msgGroupCreate.code →
      findGroupLocked state.groups (groupIdText state.groups.nextId) = none) :
    CurrentText (processPacket fd packet) state := by
  have plain := Operation.settled_of_plain state
  have forward {type : MessageType} (kind : MessageType.ofCode? packet.type = some type)
      (other : type ≠ .msgGroupEvent) (target : Int) (owner : Option CString) :
      (Operation.send target packet owner).Settled state := by
    refine Operation.settled_forward (fun event => other ?_) target owner
    rw [event, MessageType.ofCode?_code] at kind
    exact (Option.some.inj kind).symm
  unfold processPacket
  split
  · exact currentText_of_only (handleRegister_only plain ⟨trivial, rfl⟩) rfl
  · exact currentText_of_only (handleLogin_only plain ⟨trivial, rfl⟩) rfl
  · exact currentText_of_only (handleOnlineList_only plain fd) rfl
  · rename_i kind
    exact currentText_of_only (handlePrivate_only plain (forward kind (by decide))) rfl
  · rename_i kind
    exact currentText_of_only (handleGroup_only plain (forward kind (by decide))) rfl
  · rename_i kind
    have fresh := unused (MessageType.code_of_ofCode? kind).symm
    unfold handleGroupCreate
    simp only [perform_bind, done_bind]
    refine ⟨trivial, fun _ => ?_⟩
    dsimp only
    split
    · exact currentText_of_only (response_only plain rfl) rfl
    · exact createGroupFor_current fresh
  · exact currentText_of_only (handleGroupList_only plain fd) rfl
  · refine currentText_of_only (handleGroupMessage_only plain fun _ message _ type => ?_) rfl
    exact Operation.settled_forward (fun event => absurd (type.symm.trans event) (by decide)) _ _
  · rename_i kind
    exact currentText_of_only (handleFilePacket_only plain (forward kind (by decide))) rfl
  · rename_i kind
    exact currentText_of_only (handleFilePacket_only plain (forward kind (by decide))) rfl
  · rename_i kind
    exact currentText_of_only (handleFilePacket_only plain (forward kind (by decide))) rfl
  · simp only [call_bind, done_bind]
    exact response_only plain rfl
  · exact currentText_of_only (response_only plain rfl) rfl
  · exact currentText_of_only (response_only plain rfl) rfl

/-- The end of a handler is current. -/
theorem clientExit_current (state : ServerState) (fd : Int) : CurrentText (clientExit fd) state := by
  unfold clientExit
  exact ⟨⟨trivial, rfl⟩, fun _ => trivial⟩

variable {outcomes : Nat → Outcome} {machine final : ServerMachine}

/-- A run of current code that resumes only with online users keeps the groups covered. -/
theorem eventsCovered_of_resumes {program : Handler Unit}
    (ran : program.Resumes (serverSemantics outcomes) ResumesOnline machine final)
    (wellFormed : machine.state.WellFormed) (current : CurrentText program machine.state)
    (covered : EventsCovered machine) : EventsCovered final := by
  induction ran with
  | done => exact covered
  | perform rest ih =>
    exact ih (perform_wellFormed wellFormed _ _) (current.2 _) (covered.after wellFormed current.1)
  | @call target next machine middle final body resumed rest ihBody ihRest =>
    obtain ⟨fd⟩ := target
    obtain ⟨cascade, _⟩ := cleanupOfflineFd_runs body.runs wellFormed
    have sound := runs_wellFormed body.runs wellFormed
    have called := ihBody wellFormed (cleanupOfflineFd_current wellFormed fd) covered
    -- What remains was up to date before the call and lists nobody who went offline in it.
    have remains : next.Only (Operation.Settled middle.state) :=
      (Only.and current resumed).weaken fun op both =>
        ⟨both.1.1.of_cascade both.1.2 wellFormed cascade both.2, both.1.2⟩
    exact ihRest sound (currentText_of_only remains rfl) called

/-- When a nested cleanup returns, the events that remain to be sent list only users that are still
online; and a new group gets an id that no other group has. -/
def EventsStayCurrent (outcomes : Nat → Outcome) (machine : ServerMachine) : Input → Prop
  | .connect _ => True
  | .packet fd packet =>
    (∃ final, (processPacket fd packet).Resumes (serverSemantics outcomes) ResumesOnline machine
      final) ∧
      (packet.type = MessageType.msgGroupCreate.code →
        findGroupLocked machine.state.groups (groupIdText machine.state.groups.nextId) = none)
  | .disconnect fd =>
    ∃ final, (clientExit fd).Resumes (serverSemantics outcomes) ResumesOnline machine final

/-- One input keeps the groups covered when its events stay current. -/
theorem served_eventsCovered {machine' : ServerMachine} {input : Input}
    (served : Served outcomes machine input machine') (wellFormed : machine.state.WellFormed)
    (current : EventsStayCurrent outcomes machine input) (covered : EventsCovered machine) :
    EventsCovered machine' := by
  cases input with
  | connect fd =>
    obtain ⟨_, _, rfl⟩ := served_connect.mp served
    exact ⟨covered.shrink, covered.covered, covered.numbered⟩
  | packet fd packet =>
    obtain ⟨⟨final, resumes⟩, unused⟩ := current
    obtain ⟨_, rfl⟩ := Runs.unique (served_packet.mp served).2 resumes.runs
    exact eventsCovered_of_resumes resumes wellFormed (processPacket_current unused) covered
  | disconnect fd =>
    obtain ⟨final, resumes⟩ := current
    obtain ⟨_, rfl⟩ := Runs.unique (served_disconnect.mp served).2 resumes.runs
    exact eventsCovered_of_resumes resumes wellFormed (clientExit_current _ fd) covered

/-- In every run whose events stay current, the member lists of the events about a group shrink on
every connection. -/
theorem eventsShrink_of_current
    (reached : Reachable Started (fun machine input machine' =>
      Served outcomes machine input machine' ∧ EventsStayCurrent outcomes machine input) machine) :
    EventsShrink machine.trace := by
  refine EventsCovered.shrink (reached.invariant EventsCovered (fun machine started => ?_)
    fun machine input machine' earlier covered taken => ?_)
  · obtain ⟨allocated, file, rfl⟩ := started
    refine ⟨fun fd groupId before empty => ?_, fun fd groupId members recorded => ?_, ?_⟩
    · rw [List.prefix_nil.mp empty]
      exact List.Pairwise.nil
    · contradiction
    · exact List.nodup_nil
  · have wellFormed : machine.state.WellFormed :=
      serverReachable_wellFormed (earlier.widen fun _ _ _ both => both.1)
    exact served_eventsCovered taken.1 wellFormed taken.2 covered

end

/-- The input asks for a new group. -/
def Input.creates : Input → Bool
  | .packet _ content => content.type = MessageType.msgGroupCreate.code
  | _ => false

/-- An input that is handled without a call resumes nothing. -/
theorem current_of_depth_zero [Sha256] {outcomes : Nat → Outcome} {machine machine' : ServerMachine}
    {input : Input} (served : serve outcomes 0 machine input = some machine')
    (unused : input.creates = true →
      findGroupLocked machine.state.groups (groupIdText machine.state.groups.nextId) = none) :
    EventsStayCurrent outcomes machine input := by
  cases input with
  | connect fd => trivial
  | packet fd packet =>
    simp only [serve] at served
    split at served
    · obtain ⟨⟨⟨⟩, final⟩, ran, _⟩ := Option.map_eq_some_iff.mp served
      exact ⟨⟨final, Resumes.of_run_zero _ ran⟩, fun create => unused (decide_eq_true create)⟩
    · contradiction
  | disconnect fd =>
    simp only [serve] at served
    split at served
    · obtain ⟨⟨⟨⟩, final⟩, ran, _⟩ := Option.map_eq_some_iff.mp served
      exact ⟨final, Resumes.of_run_zero _ ran⟩
    · contradiction

/-- A run of inputs that create no group and are handled without a call stays current. -/
theorem sample_current [Sha256] {outcomes : Nat → Outcome} {machine machine' : ServerMachine}
    {inputs : List Input} (plain : ∀ input ∈ inputs, input.creates = false)
    (reached : Reachable Started (fun machine input machine' =>
      Served outcomes machine input machine' ∧ EventsStayCurrent outcomes machine input) machine)
    (served : serveAll outcomes 0 machine inputs = some machine') :
    Reachable Started (fun machine input machine' =>
      Served outcomes machine input machine' ∧ EventsStayCurrent outcomes machine input) machine' := by
  induction inputs generalizing machine with
  | nil => exact Option.some.inj served ▸ reached
  | cons input inputs ih =>
    simp only [serveAll, List.foldlM_cons, Option.bind_eq_bind, Option.bind_eq_some_iff] at served
    obtain ⟨middle, first, rest⟩ := served
    obtain ⟨other, others⟩ := List.forall_mem_cons.mp plain
    refine ih others (.next reached ⟨⟨0, first⟩, current_of_depth_zero first fun create => ?_⟩) rest
    rw [other] at create
    contradiction

section

attribute [local instance] sampleDigest

/-- The joining of three returns. -/
theorem three_returns : (serveAll (failingAt [29]) 0 freshServer three).isSome := by decide

/-- Three users. -/
def threeMachine : ServerMachine := (serveAll (failingAt [29]) 0 freshServer three).get three_returns

/-- The creation of a group of the three returns. -/
theorem grouped_returns :
    (serve (failingAt [29]) 0 threeMachine (.packet 5 trioRequest)).isSome := by decide

/-- The three users with the group. -/
def groupedMachine : ServerMachine :=
  (serve (failingAt [29]) 0 threeMachine (.packet 5 trioRequest)).get grouped_returns

/-- The cleanup of the first member returns. The last event about it cannot be sent, so the cleanup of
the last member is nested in it. -/
theorem parting_returns : (runLastCall (serverSemantics (failingAt [29])) 2 (.cleanup 5)
    groupedMachine).isSome := by decide +kernel

/-- The disconnect of the first member returns. -/
theorem parted_returns : (serve (failingAt [29]) 2 groupedMachine (.disconnect 5)).isSome := by
  decide +kernel

/-- The member who stays. -/
def partedMachine : ServerMachine :=
  (serve (failingAt [29]) 2 groupedMachine (.disconnect 5)).get parted_returns

/-- The events shrink when the last of the others is lost while the disconnect is announced: nothing
remains to be sent then. -/
theorem eventsShrink_of_current_three :
    partedMachine.state.online (CString.ofString "cid") = false ∧ EventsShrink partedMachine.trace := by
  have joined := sample_current (by decide) (.start freshServer_started)
    (Option.some_get three_returns).symm
  have founded := sample_next 0 (.packet 5 trioRequest) joined grouped_returns
    (current_of_depth_zero (Option.some_get grouped_returns).symm fun _ => by decide)
  have leaves : EventsStayCurrent (failingAt [29]) groupedMachine (.disconnect 5) :=
    ⟨_, .call (Resumes.of_runLastCall (fun _ => trivial) 2 _ _ _ (Option.some_get parting_returns).symm)
      ⟨trivial, fun _ => trivial⟩ (Resumes.of_run_zero _ rfl)⟩
  have parted := sample_next 2 (.disconnect 5) founded parted_returns leaves
  exact ⟨by decide +kernel, eventsShrink_of_current parted⟩

/-- One of three leaves, and the event about it cannot be sent to the first of the other two. -/
theorem stale_returns :
    (serveAll (failingAt [27]) 2 freshServer (trio ++ [.disconnect 5])).isSome := by
  decide

/-- A member whose event cannot be sent is announced as gone and then listed again. -/
theorem eventsShrink_trio : ¬ ∀ [Sha256] (outcomes : Nat → Outcome) (machine : ServerMachine),
    ServerReachable outcomes machine → EventsShrink machine.trace := by
  intro claim
  have shrunk := claim (failingAt [27]) _ (sample_reachable stale_returns) 7
    (CString.ofString "g000001") _ (List.prefix_refl _)
  revert shrunk
  decide

end

end MultiUserChat
