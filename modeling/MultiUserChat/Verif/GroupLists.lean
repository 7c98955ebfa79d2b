import MultiUserChat.Verif.Announcement
import MultiUserChat.Verif.GroupMessage
import MultiUserChat.Verif.GroupRecords
/-!
# The answer to a request for the list of groups

A group list is one packet, and the store refuses to build one that does not fit. So the request of
a logged-in user is answered by all groups of the user when their records fit, and by one error
otherwise; names and groups that the store accepts can make it either.
-/

namespace MultiUserChat

open Program

/-- The only thing sent is a list of all groups of a user, to the descriptor. -/
def GroupsListed (before after : ServerMachine) (fd : Int) (username : CString) : Prop :=
  ∃ answer : Packet, answer.type = MessageType.msgGroupList.code ∧
    answer.payload = encodeFields (listFields (before.state.groups.groupsOf username)) ∧
    deliveries before after = [(fd, answer)]

/-- The list of all groups of a user fits in a packet. -/
def GroupListFits (state : ServerState) (username : CString) : Prop :=
  (encodeFields (listFields (state.groups.groupsOf username))).length ≤ packetDataMax

instance (state : ServerState) (username : CString) : Decidable (GroupListFits state username) :=
  inferInstanceAs (Decidable (_ ≤ _))

/-- A user found at a descriptor has a name that can be a member's. -/
theorem usernameByFd_valid {state : ServerState} (wellFormed : state.WellFormed) {fd : Int}
    {username : CString} (session : userStoreUsernameByFd state.users fd = some username) :
    validMemberName username = true := by
  obtain ⟨user, _, rfl, member, _⟩ := usernameByFd_some session
  exact wellFormed.users.valid user (wellFormed.users.mem_users.mp member)

/-- A list is not an error. -/
theorem GroupsListed.not_error {before after : ServerMachine} {fd : Int} {username : CString}
    (listed : GroupsListed before after fd username) : ¬ RepliedError before after fd := by
  obtain ⟨answer, list, _, sent⟩ := listed
  exact not_repliedError sent (by rw [list]; decide)

section

variable [Sha256] {outcomes : Nat → Outcome} {machine final : ServerMachine} {fd : Int}

@[simp]
theorem answer_groupBuildListPayload (machine : ServerMachine) (username : CString) :
    machine.answer (serverSemantics outcomes) (.groupBuildListPayload username) =
      groupStoreBuildListPayload machine.state.groups username := rfl

/-- The handler answers with the list when it fits and with an error when it does not, and leaves
the state as it is. -/
theorem handleGroupList_settles {username : CString} (success : SendsSucceed outcomes machine)
    (wellFormed : machine.state.WellFormed)
    (session : userStoreUsernameByFd machine.state.users fd = some username)
    (ran : (handleGroupList fd).Runs (serverSemantics outcomes) machine () final) :
    final.state = machine.state ∧
      (GroupListFits machine.state username ∧ GroupsListed machine final fd username ∨
        ¬ GroupListFits machine.state username ∧ RepliedError machine final fd) := by
  unfold handleGroupList at ran
  simp only [perform_bind, done_bind, runs_perform, answer_userUsernameByFd, session,
    answer_groupBuildListPayload] at ran
  set looked := machine.after (serverSemantics outcomes) (.userUsernameByFd fd)
  have same : looked.state = machine.state := after_reads machine rfl
  have first : SendsSucceed outcomes looked := success.later (extends_after machine _)
  rw [same] at ran
  set built := looked.after (serverSemantics outcomes) (.groupBuildListPayload username)
  have kept : built.state = machine.state := (after_reads looked rfl).trans same
  have second : SendsSucceed outcomes built := first.later (extends_after looked _)
  have silent : deliveries machine final = deliveries built final := by
    rw [deliveries_silent ((extends_after looked _).trans (extends_of_runs ran)) (by simp),
      deliveries_silent (extends_of_runs ran) (by simp)]
  obtain ⟨payload, list, data, fits⟩ | ⟨refused, full⟩ :=
    groupStoreBuildListPayload_cases wellFormed.groups (usernameByFd_valid wellFormed session)
  · rw [list] at ran
    obtain ⟨packet, initialised⟩ : ∃ packet, packetInit MessageType.msgGroupList.code serverName
        username payload.data = some packet :=
      Option.isSome_iff_exists.mp (packetInit_isSome.mpr (data ▸ fits))
    obtain ⟨type, _, _, content⟩ := packetInit_eq initialised
    simp only [initialised, runs_perform, answer_send, second.here, ↓reduceIte, pure_eq,
      runs_done] at ran
    obtain ⟨_, rfl⟩ := ran
    exact ⟨(after_reads built rfl).trans kept,
      .inl ⟨fits, packet, type, content.trans data, silent.trans (deliveries_send second.here)⟩⟩
  · rw [refused] at ran
    obtain ⟨state, error⟩ := sendTextResponse_delivers second (groupResultMessage_short _) ran
    exact ⟨state.trans kept, .inr ⟨Nat.not_le.mpr full, RepliedError.of_silent error silent⟩⟩

/-- In every reachable state, while sends succeed, the request of a logged-in user for its groups is
answered, by the list of all of them exactly when the list fits in a packet, and otherwise by an
error. -/
theorem groupsListed_iff {packet : Packet} {username : CString}
    (reached : ServerReachable outcomes machine) (success : SendsSucceed outcomes machine)
    (session : userStoreUsernameByFd machine.state.users fd = some username)
    (type : packet.type = MessageType.msgGroupList.code) :
    ∃ final, (processPacket fd packet).Runs (serverSemantics outcomes) machine () final ∧
      final.state = machine.state ∧
      (GroupsListed machine final fd username ↔ GroupListFits machine.state username) ∧
      (RepliedError machine final fd ↔ ¬ GroupListFits machine.state username) := by
  have wellFormed := serverReachable_wellFormed reached
  obtain ⟨⟨⟩, final, ran⟩ := handler_returns outcomes (processPacket fd packet) wellFormed
  refine ⟨final, ran, ?_⟩
  rw [processPacket, type, MessageType.ofCode?_code] at ran
  change (handleGroupList fd).Runs _ _ _ _ at ran
  obtain ⟨state, settled⟩ := handleGroupList_settles success wellFormed session ran
  exact ⟨state, sent_iff settled GroupsListed.not_error⟩

end

section

attribute [local instance] sampleDigest

/-- A request for the groups of the user. -/
def groupListRequest : Packet :=
  request .msgGroupList CString.empty CString.empty [] (Nat.zero_le _)

/-- A member of a group of three gets it. -/
theorem groupsListed_iff_team : ∃ final,
    (processPacket 5 groupListRequest).Runs (serverSemantics (failingAt [])) teamMachine () final ∧
      (teamMachine.state.groups.groupsOf (CString.ofString "ann")).length = 1 ∧
        GroupsListed teamMachine final 5 (CString.ofString "ann") := by
  have session : userStoreUsernameByFd teamMachine.state.users 5 =
      some (CString.ofString "ann") := by decide
  have type : groupListRequest.type = MessageType.msgGroupList.code := by decide
  obtain ⟨final, ran, _, listed, _⟩ :=
    groupsListed_iff (sample_reachable team_returns) (fun _ _ => rfl) session type
  exact ⟨final, ran, by decide, listed.mpr (by decide)⟩

/-- A request for a group with the other user. -/
def hoardRequest : Packet :=
  groupCreateRequest (CString.ofBytes (List.replicate 63 98)) [crowdName 1] (by decide +kernel)

/-- Two users join, and the first makes seven groups of both. -/
def hoard : List Input :=
  joining 5 (crowdName 0) ++ joining 6 (crowdName 1) ++ List.replicate 7 (.packet 5 hoardRequest)

/-- The run returns. -/
theorem hoard_returns : (serveAll (failingAt []) 0 freshServer hoard).isSome := by decide +kernel

/-- The state that is reached. -/
def hoardMachine : ServerMachine := (serveAll (failingAt []) 0 freshServer hoard).get hoard_returns

/-- The user is logged in and its groups do not fit. -/
theorem hoard_full : (hoardMachine.state.connectionAt 5).isSome ∧
    userStoreUsernameByFd hoardMachine.state.users 5 = some (crowdName 0) ∧
      ¬ GroupListFits hoardMachine.state (crowdName 0) := by decide +kernel

/-- A member of seven groups of two users with long names cannot list them. -/
theorem groupsListed_hoard : ¬ ∀ [Sha256] (outcomes : Nat → Outcome) (machine : ServerMachine)
    (fd : Int) (packet : Packet) (username : CString),
    ServerReachable outcomes machine → SendsSucceed outcomes machine →
      (machine.state.connectionAt fd).isSome → packet.type = MessageType.msgGroupList.code →
      userStoreUsernameByFd machine.state.users fd = some username →
      ∃ final, (processPacket fd packet).Runs (serverSemantics outcomes) machine () final ∧
        GroupsListed machine final fd username ∧ ¬ RepliedError machine final fd := by
  intro claim
  obtain ⟨connected, session, full⟩ := hoard_full
  have reached : ServerReachable (failingAt []) hoardMachine := sample_reachable hoard_returns
  obtain ⟨final, ran, _, spared⟩ := claim (failingAt []) hoardMachine 5 groupListRequest
    (crowdName 0) reached (fun _ _ => rfl) connected (by decide) session
  obtain ⟨_, ⟨fits, _⟩ | ⟨_, error⟩⟩ := handleGroupList_settles (fun _ _ => rfl)
    (serverReachable_wellFormed reached) session ran
  · exact full fits
  · exact spared error

end

end MultiUserChat
