import MultiUserChat.Verif.Delivery
/-!
# Members are online

When handlers run one at a time, every member of every group is an online user: a group is created
from users that were found online, nothing happens between the last look and the creation, and a
user that goes offline departs from all groups in the same cleanup.
-/

namespace MultiUserChat

open Program

/-- Every member of every group is an online user. -/
def ServerState.MembersOnline (state : ServerState) : Prop :=
  ∀ group ∈ state.groups.head, ∀ name ∈ group.memberNames, state.online name = true

/-- A cascade keeps members online. -/
theorem Cascade.membersOnline {before after : ServerState} (cascade : Cascade before after)
    (members : before.MembersOnline) : after.MembersOnline := by
  obtain ⟨gone, cascade⟩ := cascade
  intro group listed name inside
  have entry : group.entry ∈ Roster.depart gone before.groups.roster := by
    rw [← cascade.roster]
    exact List.mem_map_of_mem listed
  obtain ⟨stays, old, oldListed, oldInside⟩ := Roster.depart_members entry inside
  obtain ⟨original, originalListed, rfl⟩ := List.mem_map.mp oldListed
  rw [cascade.online, members original originalListed name oldInside, stays]
  rfl

/-- Operations that take nobody offline and create no group. -/
def Operation.harmless : Operation → Bool
  | .userRegister _ _ | .userLogin _ _ _ | .close _ => true
  | op => op.reads

/-- A reading operation is harmless. -/
theorem Operation.harmless_of_reads {op : Operation} (reads : op.reads = true) :
    op.harmless = true := by
  cases op <;> first | rfl | exact reads

/-- A harmless operation does not touch the groups. -/
theorem Operation.keepsGroups_of_harmless {op : Operation} (harmless : op.harmless = true) :
    op.keepsGroups = true := by
  cases op <;> first | rfl | contradiction

/-- A plain operation is harmless. -/
theorem Operation.harmless_of_plain (op : Operation) (plain : op.plain = true) :
    op.harmless = true :=
  op.harmless_of_reads (op.reads_of_plain plain)

/-- A packet that creates no group is made of harmless operations. -/
theorem processPacket_harmless {fd : Int} {packet : Packet}
    (other : MessageType.ofCode? packet.type ≠ some .msgGroupCreate) :
    (processPacket fd packet).Only fun op => op.harmless = true := by
  have plain := Operation.harmless_of_plain
  unfold processPacket
  split
  · exact handleRegister_only plain rfl
  · exact handleLogin_only plain rfl
  · exact handleOnlineList_only plain fd
  · exact handlePrivate_only plain fun _ _ => rfl
  · exact handleGroup_only plain fun _ _ => rfl
  · contradiction
  · exact handleGroupList_only plain fd
  · exact handleGroupMessage_only plain fun _ _ _ _ => rfl
  · exact handleFilePacket_only plain fun _ _ => rfl
  · exact handleFilePacket_only plain fun _ _ => rfl
  · exact handleFilePacket_only plain fun _ _ => rfl
  · simp only [call_bind, done_bind, only_call]
    exact response_only plain rfl
  · exact response_only plain rfl
  · exact response_only plain rfl

section

variable [Sha256] {outcomes : Nat → Outcome} {machine final : ServerMachine}

/-- A harmless operation takes nobody offline. -/
theorem perform_harmless_online {op : Operation} (harmless : op.harmless = true)
    (outcome : Outcome) {state : ServerState} (wellFormed : state.WellFormed) {name : CString}
    (online : state.online name = true) : (perform outcome op state).2.online name = true := by
  obtain ⟨fd, here⟩ := ServerState.online_iff_loggedIn.mp online
  obtain still | ⟨rfl, _⟩ := perform_loggedIn wellFormed here outcome op
  · exact ServerState.online_iff_loggedIn.mpr ⟨fd, still⟩
  · contradiction

/-- Code of harmless operations keeps members online. -/
theorem runs_membersOnline {α : Type} {program : Handler α}
    (only : program.Only fun op => op.harmless = true) {value : α}
    (ran : program.Runs (serverSemantics outcomes) machine value final)
    (wellFormed : machine.state.WellFormed) (members : machine.state.MembersOnline) :
    final.state.MembersOnline := by
  refine runs_maintains ServerState.MembersOnline (fun outcome op state harmless sound holds => ?_)
    (fun _ _ _ cascade => cascade.membersOnline) only ran wellFormed members
  intro group listed name inside
  rw [perform_keepsGroups (Operation.keepsGroups_of_harmless harmless)] at listed
  exact perform_harmless_online harmless outcome sound (holds group listed name inside)

/-! ## Creating a group -/

/-- When the member loop accepts, every named user is online, and nothing was changed or sent. -/
theorem checkMembers_runs {fd : Int} {username : CString} {members : List CString}
    {flag result : Bool} (wellFormed : machine.state.WellFormed)
    (ran : (checkMembers fd username members flag).Runs (serverSemantics outcomes) machine
      (some result) final) :
    final.state = machine.state ∧ (∀ member ∈ members, machine.state.online member = true) ∧
      deliveries machine final = [] := by
  induction members generalizing flag machine with
  | nil =>
    obtain ⟨_, rfl⟩ := (runs_done _ _ _ _ _).mp ran
    exact ⟨rfl, by simp, deliveries_self _⟩
  | cons member members ih =>
    unfold checkMembers at ran
    simp only [perform_bind, done_bind, runs_perform, answer_userGetFd] at ran
    set looked := machine.after (serverSemantics outcomes) (.userGetFd member)
    have same : looked.state = machine.state := after_reads machine rfl
    cases found : userStoreGetFd machine.state.users member with
    | error refusal =>
      -- A refusal returns nothing, so it is not this run.
      rw [found] at ran
      obtain ⟨_, _, _, returned⟩ := (runs_bind _ _ _ _ _ _).mp ran
      have absurd := ((runs_done _ _ _ _ _).mp returned).1
      contradiction
    | ok memberFd =>
      rw [found] at ran
      obtain ⟨state, online, sent⟩ := ih (same ▸ wellFormed) ran
      rw [same] at state online
      refine ⟨state, List.forall_mem_cons.mpr ⟨?_, online⟩, ?_⟩
      · exact (ServerState.online_iff_getFd wellFormed).mpr ⟨memberFd, found⟩
      · rw [deliveries_silent (extends_of_runs ran) (by simp)]
        exact sent

/-- Creating a group of users that are online keeps members online. -/
theorem groupCreate_membersOnline {state : ServerState} (outcome : Outcome)
    (holds : state.MembersOnline) {creator name : CString} {members : List CString}
    (founder : state.online creator = true)
    (named : ∀ member ∈ members, state.online member = true) :
    (perform outcome (.groupCreate creator name members) state).2.MembersOnline := by
  intro group listed member inside
  change state.online member = true
  change group ∈ (groupStoreCreate outcome.allocated state.groups creator name members).2.head
    at listed
  obtain ⟨result, refused⟩ | ⟨snapshot, created, done⟩ :=
    GroupStore.create_cases outcome.allocated state.groups creator name members
  · rw [refused] at listed
    exact holds group listed member inside
  · rw [done] at listed
    rcases List.mem_cons.mp listed with rfl | old
    · rw [created.memberNames, mem_enlist, List.mem_singleton] at inside
      rcases inside with rfl | other
      · exact founder
      · exact named member other
    · exact holds group old member inside

/-- Creating a group for an online user keeps members online. -/
theorem createGroupFor_membersOnline {fd : Int} {packet : Packet} {username : CString}
    (ran : (createGroupFor fd packet username).Runs (serverSemantics outcomes) machine () final)
    (wellFormed : machine.state.WellFormed) (members : machine.state.MembersOnline)
    (session : machine.state.online username = true) : final.state.MembersOnline := by
  have respond {before : ServerMachine} {type : MessageType} {message : CString}
      (answered : (sendTextResponse fd type message).Runs (serverSemantics outcomes) before () final)
      (ordinary : type.plain = true) (sound : before.state.WellFormed)
      (holds : before.state.MembersOnline) : final.state.MembersOnline :=
    runs_membersOnline (response_only Operation.harmless_of_plain ordinary) answered sound holds
  unfold createGroupFor at ran
  split at ran
  · rename_i name member others _
    split at ran
    · exact respond ran rfl wellFormed members
    · obtain ⟨checked, middle, check, rest⟩ := (runs_bind _ _ _ _ _ _).mp ran
      have sound := runs_wellFormed check wellFormed
      have still := runs_membersOnline (checkMembers_only Operation.harmless_of_plain _ _ _ _) check
        wellFormed members
      split at rest
      · obtain ⟨_, rfl⟩ := (runs_done _ _ _ _ _).mp rest
        exact still
      · exact respond rest rfl sound still
      · -- The state in which the group is created is the one in which the members were found.
        obtain ⟨same, named, _⟩ := checkMembers_runs wellFormed check
        simp only [perform_bind, done_bind, runs_perform] at rest
        have created : (perform (outcomes middle.trace.length)
            (.groupCreate username name (member :: others)) middle.state).2.MembersOnline :=
          groupCreate_membersOnline _ still (same ▸ session) (same ▸ named)
        have kept := perform_wellFormed sound (outcomes middle.trace.length)
          (.groupCreate username name (member :: others))
        refine runs_membersOnline ?_ rest kept created
        split
        · exact response_only Operation.harmless_of_plain rfl
        · exact only_bind (pushGroupEvent_only (fun _ => rfl) (fun _ _ _ _ => rfl) _ _) fun _ =>
            response_only Operation.harmless_of_plain rfl
  · exact respond ran rfl wellFormed members

/-- A request to create a group keeps members online. -/
theorem handleGroupCreate_membersOnline {fd : Int} {packet : Packet}
    (ran : (handleGroupCreate fd packet).Runs (serverSemantics outcomes) machine () final)
    (wellFormed : machine.state.WellFormed) (members : machine.state.MembersOnline) :
    final.state.MembersOnline := by
  unfold handleGroupCreate at ran
  simp only [perform_bind, done_bind, runs_perform, answer_userUsernameByFd] at ran
  have same : (machine.after (serverSemantics outcomes) (.userUsernameByFd fd)).state =
      machine.state := after_reads machine rfl
  cases found : userStoreUsernameByFd machine.state.users fd with
  | none =>
    rw [found] at ran
    exact runs_membersOnline (response_only Operation.harmless_of_plain rfl) ran (same ▸ wellFormed)
      (same ▸ members)
  | some username =>
    rw [found] at ran
    obtain ⟨user, _, named, member, online, _⟩ := usernameByFd_some found
    refine createGroupFor_membersOnline ran (same ▸ wellFormed) (same ▸ members) ?_
    rw [same]
    exact ServerState.online_iff.mpr ⟨user, member, named, online⟩

/-- Every member of every group is online in every state the server reaches. -/
theorem serverReachable_membersOnline (reached : ServerReachable outcomes machine) :
    machine.state.MembersOnline := by
  refine reached.invariant (fun machine => machine.state.MembersOnline) (fun machine started => ?_)
    fun machine input machine' earlier holds served => ?_
  · obtain ⟨allocated, file, rfl⟩ := started
    exact fun group listed => absurd listed List.not_mem_nil
  · have wellFormed := serverReachable_wellFormed earlier
    cases input with
    | connect fd =>
      obtain ⟨_, _, rfl⟩ := served_connect.mp served
      exact holds
    | disconnect fd =>
      refine runs_membersOnline ?_ (served_disconnect.mp served).2 wellFormed holds
      unfold clientExit
      simp only [call_bind, done_bind, only_call]
      exact ⟨rfl, fun _ => trivial⟩
    | packet fd packet =>
      have ran := (served_packet.mp served).2
      by_cases creates : MessageType.ofCode? packet.type = some .msgGroupCreate
      · rw [processPacket, creates] at ran
        exact handleGroupCreate_membersOnline ran wellFormed holds
      · exact runs_membersOnline (processPacket_harmless creates) ran wellFormed holds

end

end MultiUserChat
