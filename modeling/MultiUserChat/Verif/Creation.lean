import MultiUserChat.Verif.Membership
import MultiUserChat.Verif.Payload
/-!
# When a group is created

The checks of a request are divided between `handle_group_create` and `group_store_create`.
`GroupAcceptable` says what they amount to; a request that meets it adds one group and is confirmed,
and any other is refused with one error and changes nothing.
-/

namespace MultiUserChat

open Program

/-! ## The store's checks -/

/-- Enlisting adds the names that are not listed yet, each once. -/
theorem enlist_eq (listed names : List CString) :
    enlist listed names = listed ++ (names.filter (· ∉ listed)).eraseDups := by
  induction names generalizing listed with
  | nil => simp [enlist]
  | cons name names ih =>
    have unfolded : enlist listed (name :: names) =
        enlist (if name ∈ listed then listed else listed ++ [name]) names := rfl
    rw [unfolded]
    by_cases present : name ∈ listed
    · rw [if_pos present, ih, List.filter_cons_of_neg (by simpa using present)]
    · rw [if_neg present, ih, List.filter_cons_of_pos (by simpa using present),
        List.eraseDups_cons, List.filter_filter, List.append_assoc]
      have rest : (fun other => decide (other ∉ listed ++ [name])) =
          fun other => (!other == name) && decide (other ∉ listed) := by
        funext other
        by_cases same : other = name <;> by_cases inside : other ∈ listed <;> simp [same, inside]
      rw [rest]
      rfl

/-- The members of a group are its creator and the named users, each once. -/
theorem enlist_singleton (creator : CString) (members : List CString) :
    enlist [creator] members = (creator :: members).eraseDups := by
  rw [enlist_eq, List.eraseDups_cons]
  have others : (fun member => decide (member ∉ [creator])) = fun member => !member == creator := by
    funext member
    by_cases same : member = creator <;> simp [same]
  rw [others]
  rfl

/-- Names that are listed stay listed. -/
theorem length_le_enlist (listed names : List CString) :
    listed.length ≤ (enlist listed names).length := by
  rw [enlist_eq, List.length_append]
  omega

namespace GroupSnapshot

variable {snapshot extended : GroupSnapshot} {username : CString} {added : Bool}

/-- A user is added when its name is valid and the list with it is not too long. -/
theorem WellFormed.addMember_ok_iff (wellFormed : snapshot.WellFormed) (username : CString) :
    (∃ answer, MultiUserChat.addMember snapshot username = .ok answer) ↔
      validMemberName username = true ∧
        (if username ∈ snapshot.memberNames then snapshot.memberNames
          else snapshot.memberNames ++ [username]).length ≤ groupMaxMembers := by
  have count := memberNames_length wellFormed.count_le
  have bound := wellFormed.count_le
  have member : (memberIndex snapshot username).isSome = true ↔ username ∈ snapshot.memberNames :=
    wellFormed.hasMember_iff
  unfold MultiUserChat.addMember
  by_cases legal : validMemberName username = true
  · by_cases present : username ∈ snapshot.memberNames
    · simp [legal, member.mpr present, present, count, bound]
    · have absent : ¬ (memberIndex snapshot username).isSome = true := mt member.mp present
      by_cases room : snapshot.memberCount < groupMaxMembers
      · have fits : snapshot.memberCount + 1 ≤ groupMaxMembers := room
        simp [legal, absent, present, room, count, fits]
      · simp [legal, absent, present, room, count]
  · simp [legal]

/-- The flag says whether the user is new. -/
theorem WellFormed.addMember_added (wellFormed : snapshot.WellFormed)
    (done : MultiUserChat.addMember snapshot username = .ok (extended, added)) :
    added = true ↔ username ∉ snapshot.memberNames := by
  have member : (memberIndex snapshot username).isSome = true ↔ username ∈ snapshot.memberNames :=
    wellFormed.hasMember_iff
  unfold MultiUserChat.addMember at done
  split at done
  · contradiction
  split at done
  · rename_i present
    cases done
    simpa using member.mp present
  rename_i absent
  split at done
  · cases done
    simpa using mt member.mpr absent
  · contradiction

end GroupSnapshot

/-- The member loop goes through when the names are valid and the list does not get too long. -/
theorem addMembers_ok_iff {creator : CString} {members : List CString} {snapshot : GroupSnapshot}
    {flag : Bool} (wellFormed : snapshot.WellFormed) :
    (∃ answer, addMembers creator snapshot flag members = .ok answer) ↔
      (∀ member ∈ members, validMemberName member = true) ∧
        (enlist snapshot.memberNames members).length ≤ groupMaxMembers := by
  induction members generalizing snapshot flag with
  | nil =>
    have bound : snapshot.memberNames.length ≤ groupMaxMembers := by
      rw [GroupSnapshot.memberNames_length wellFormed.count_le]
      exact wellFormed.count_le
    simpa [addMembers, enlist] using bound
  | cons member members ih =>
    have unfolded : enlist snapshot.memberNames (member :: members) =
        enlist (if member ∈ snapshot.memberNames then snapshot.memberNames
          else snapshot.memberNames ++ [member]) members := rfl
    have first := wellFormed.addMember_ok_iff member
    rw [addMembers, List.forall_mem_cons, unfolded]
    by_cases legal : validMemberName member = true
    · rw [if_neg (by simpa using legal)]
      cases step : addMember snapshot member with
      | error result =>
        rw [step] at first
        refine iff_of_false (by simp) fun accepted => ?_
        have listed := first.mpr ⟨legal, (length_le_enlist _ members).trans accepted.2⟩
        obtain ⟨answer, impossible⟩ := listed
        contradiction
      | ok answer =>
        obtain ⟨extended, added⟩ := answer
        obtain ⟨kept, _, names⟩ := wellFormed.addMember step
        rw [← names]
        simpa [legal] using ih kept
    · rw [if_pos (by simpa using legal)]
      exact iff_of_false (by simp) fun accepted => legal accepted.1.1

/-- The flag of the member loop says whether a user other than the creator is new. -/
theorem addMembers_flag {creator : CString} {members : List CString}
    {snapshot final : GroupSnapshot} {flag flag' : Bool} (wellFormed : snapshot.WellFormed)
    (done : addMembers creator snapshot flag members = .ok (final, flag')) :
    flag' = true ↔ flag = true ∨
      ∃ member ∈ members, member ∉ snapshot.memberNames ∧ member ≠ creator := by
  induction members generalizing snapshot flag with
  | nil =>
    cases done
    simp
  | cons member members ih =>
    unfold addMembers at done
    split at done
    · contradiction
    split at done
    · contradiction
    rename_i extended added step
    obtain ⟨kept, _, names⟩ := wellFormed.addMember step
    have new := wellFormed.addMember_added step
    rw [ih kept done, names, List.exists_mem_cons_iff, Bool.or_eq_true, Bool.and_eq_true, new,
      decide_eq_true_iff]
    by_cases present : member ∈ snapshot.memberNames
    · simp [present]
    · have later : ∀ other, (other ∉ snapshot.memberNames ++ [member] ∧ other ≠ creator) ↔
          (other ∉ snapshot.memberNames ∧ other ≠ creator) ∧ other ≠ member := by
        intro other
        simp only [List.mem_append, List.mem_singleton, not_or]
        tauto
      rw [if_neg present]
      simp only [later, present, not_false_eq_true, true_and]
      constructor
      · rintro ((before | here) | ⟨other, inside, found, _⟩)
        · exact .inl before
        · exact .inr (.inl here)
        · exact .inr (.inr ⟨other, inside, found⟩)
      · rintro (before | here | ⟨other, inside, found⟩)
        · exact .inl (.inl before)
        · exact .inl (.inr here)
        · by_cases same : other = member
          · exact .inl (.inr (same ▸ found.2))
          · exact .inr ⟨other, inside, found, same⟩

/-- A group can be built of a valid creator and valid members, one of them another user, that are not
too many. -/
theorem buildGroup_ok_iff {creator name : CString} {members : List CString}
    (legal : validMemberName creator = true) :
    (∃ built, buildGroup creator name members = .ok built) ↔
      (∀ member ∈ members, validMemberName member = true) ∧
        (enlist [creator] members).length ≤ groupMaxMembers ∧
          ∃ member ∈ members, member ≠ creator := by
  have blank := GroupSnapshot.blankGroup_wellFormed name creator
  obtain ⟨⟨founded, added⟩, first⟩ := (blank.addMember_ok_iff creator).mpr
    ⟨legal, show [creator].length ≤ groupMaxMembers from Nat.succ_le_succ (Nat.zero_le _)⟩
  obtain ⟨kept, _, names⟩ := blank.addMember first
  have names : founded.memberNames = [creator] := names
  have rest := @addMembers_ok_iff creator members founded false kept
  unfold buildGroup
  rw [first]
  dsimp only
  cases done : addMembers creator founded false members with
  | error result =>
    rw [done, names] at rest
    refine iff_of_false (by simp) fun accepted => ?_
    obtain ⟨answer, impossible⟩ := rest.mpr ⟨accepted.1, accepted.2.1⟩
    contradiction
  | ok answer =>
    obtain ⟨snapshot, hasNonCreator⟩ := answer
    have fits := rest.mp ⟨_, done⟩
    have flag := addMembers_flag kept done
    rw [names] at flag fits
    have other : hasNonCreator = true ↔ ∃ member ∈ members, member ≠ creator := by
      simpa using flag
    rw [← other]
    cases hasNonCreator with
    | false => simp
    | true => simpa [fits.2] using fits.1

namespace GroupStore

/-- With memory, a group is created of valid names, with another user than its creator among not too
many members, while there is room. -/
theorem create_ok_iff (store : GroupStore) (creator name : CString) (members : List CString) :
    (∃ snapshot, (groupStoreCreate true store creator name members).1 = .ok snapshot) ↔
      validMemberName creator = true ∧ validGroupName name = true ∧
        (∀ member ∈ members, validMemberName member = true) ∧
        (creator :: members).eraseDups.length ≤ groupMaxMembers ∧
        (∃ member ∈ members, member ≠ creator) ∧ store.count < groupMaxGroups := by
  unfold groupStoreCreate
  rw [← enlist_singleton]
  by_cases legal : validMemberName creator = true
  · have built := @buildGroup_ok_iff creator name members legal
    by_cases named : validGroupName name = true
    · by_cases nobody : members.length = 0
      · rw [if_pos (by simp [nobody])]
        refine iff_of_false (by simp) ?_
        rintro ⟨_, _, _, _, ⟨member, inside, _⟩, _⟩
        rw [List.length_eq_zero_iff.mp nobody] at inside
        exact absurd inside List.not_mem_nil
      · rw [if_neg (by simp [legal, named, nobody])]
        simp only [Bool.not_true, Bool.false_eq_true, ↓reduceIte, legal, named, true_and]
        cases done : buildGroup creator name members with
        | error result =>
          rw [done] at built
          refine iff_of_false (by simp) ?_
          rintro ⟨valid, few, other, _⟩
          obtain ⟨snapshot, impossible⟩ := built.mpr ⟨valid, few, other⟩
          contradiction
        | ok snapshot =>
          obtain ⟨valid, few, other⟩ := built.mp ⟨_, done⟩
          by_cases full : store.count ≥ groupMaxGroups
          · simp [full]
          · simp only [if_neg full]
            exact iff_of_true ⟨_, rfl⟩ ⟨valid, few, other, Nat.lt_of_not_le full⟩
    · simp [named]
  · simp [legal]

end GroupStore

/-! ## The handler's checks -/

/-- The data of a packet ask for a group that can be created for the user. -/
structure GroupAcceptable (state : ServerState) (packet : Packet) (username name : CString)
    (members : List CString) : Prop where
  /-- The data are a name and the names of members. -/
  parsed : groupPayloadParse packet.payload = .ok (name :: members)
  /-- There is at least one. -/
  some_ : 1 ≤ members.length
  /-- There are not too many. -/
  few : members.length ≤ groupMaxMembers
  /-- The name of the group fits in its field and has no line end. -/
  named : 1 ≤ name.length ∧ name.length < groupNameMaxLen ∧ 10 ∉ name.bytes
  /-- Every member is online. -/
  online : ∀ member ∈ members, state.online member = true
  /-- Some member is another user. -/
  other : ∃ member ∈ members, member ≠ username
  /-- The user and the members are not too many. -/
  distinct : (username :: members).eraseDups.length ≤ groupMaxMembers
  /-- There is room for another group. -/
  room : state.groups.head.length < groupMaxGroups

/-- The bounds on a group's name are those of the code. -/
theorem validGroupName_iff (name : CString) : validGroupName name = true ↔
    1 ≤ name.length ∧ name.length < groupNameMaxLen ∧ 10 ∉ name.bytes := by
  simp only [validGroupName, CString.contains, Bool.and_eq_true, decide_eq_true_eq,
    Bool.not_eq_true', List.contains_eq_mem, decide_eq_false_iff_not, and_assoc,
    Nat.one_le_iff_ne_zero]

/-- A user that is online has a name that can be a member's. -/
theorem online_valid {state : ServerState} (wellFormed : state.WellFormed) {name : CString}
    (online : state.online name = true) : validMemberName name = true := by
  obtain ⟨user, member, rfl, _⟩ := ServerState.online_iff.mp online
  exact wellFormed.users.valid user (wellFormed.users.mem_users.mp member)

/-- Every allocation from this machine on succeeds. -/
def AllocationsSucceed (outcomes : Nat → Outcome) (machine : ServerMachine) : Prop :=
  ∀ turn, machine.trace.length ≤ turn → (outcomes turn).allocated = true

/-- Allocations succeed later as well. -/
theorem AllocationsSucceed.later {outcomes : Nat → Outcome} {machine final : ServerMachine}
    (memory : AllocationsSucceed outcomes machine) (extends_ : Extends machine final) :
    AllocationsSucceed outcomes final := by
  obtain ⟨events, appended⟩ := extends_
  intro turn reached
  rw [appended, List.length_append] at reached
  exact memory turn (by omega)

/-- A creation that was confirmed: the group that was added, who its members are, and what was
sent. -/
structure CreationConfirmed (before after : ServerMachine) (fd : Int) (username name : CString)
    (members : List CString) (snapshot : GroupSnapshot) : Prop where
  /-- The group is a new one with the names that were asked for. -/
  created : before.state.groups.Created username name members snapshot
  /-- It was added to the store. -/
  added : after.state.groups.head = snapshot :: before.state.groups.head
  /-- Its members are online. -/
  online : ∀ member ∈ snapshot.memberNames, before.state.online member = true
  /-- The confirmation comes after the events, which are one to each member or none. -/
  sent : ∃ events reply, reply.type = MessageType.msgOk.code ∧
    deliveries before after = events ++ [(fd, reply)] ∧
    ((encodeFields (eventFields groupEventCreated snapshot)).length ≤ packetDataMax →
      ∃ packet : Packet, packet.type = MessageType.msgGroupEvent.code ∧
        packet.payload = encodeFields (eventFields groupEventCreated snapshot) ∧
        events = snapshot.memberNames.map fun member => (before.state.descriptorOf member, packet)) ∧
    (packetDataMax < (encodeFields (eventFields groupEventCreated snapshot)).length → events = [])

/-- What follows a silent part that changes nothing may be seen from before that part. -/
theorem CreationConfirmed.of_silent {machine middle final : ServerMachine} {fd : Int}
    {username name : CString} {members : List CString} {snapshot : GroupSnapshot}
    (same : middle.state = machine.state)
    (silent : deliveries machine final = deliveries middle final)
    (confirmed : CreationConfirmed middle final fd username name members snapshot) :
    CreationConfirmed machine final fd username name members snapshot := by
  obtain ⟨created, added, online, sent⟩ := confirmed
  rw [same] at created added online
  rw [same, ← silent] at sent
  exact ⟨created, added, online, sent⟩

/-- The request is carried out if it is acceptable and refused with one error otherwise; it may be
refused as well when memory runs out. -/
def CreationSettled (before after : ServerMachine) (fd : Int) (packet : Packet) (username : CString)
    (memory : Prop) : Prop :=
  (∃ name members snapshot, GroupAcceptable before.state packet username name members ∧
      CreationConfirmed before after fd username name members snapshot ∧
      after.state.users = before.state.users) ∨
    (memory → ∀ name members, ¬ GroupAcceptable before.state packet username name members) ∧
      after.state = before.state ∧ RepliedError before after fd

/-- What is settled after a silent part that changes nothing is settled from before that part. -/
theorem CreationSettled.of_silent {machine middle final : ServerMachine} {fd : Int}
    {packet : Packet} {username : CString} {memory memory' : Prop}
    (same : middle.state = machine.state)
    (silent : deliveries machine final = deliveries middle final) (lasts : memory → memory')
    (settled : CreationSettled middle final fd packet username memory') :
    CreationSettled machine final fd packet username memory := by
  obtain ⟨name, members, snapshot, acceptable, confirmed, users⟩ | ⟨unaccepted, kept, refused⟩ :=
    settled
  · exact .inl ⟨name, members, snapshot, same ▸ acceptable, confirmed.of_silent same silent,
      users.trans (congrArg ServerState.users same)⟩
  · exact .inr ⟨fun enough => same ▸ unaccepted (lasts enough), kept.trans same,
      refused.of_silent silent⟩

section

variable [Sha256] {outcomes : Nat → Outcome} {machine final : ServerMachine} {fd : Int}
  {packet : Packet} {username : CString}

/-- A refusal settles a request that is not acceptable. -/
theorem refusal_settles {memory : Prop} {message : CString} (success : SendsSucceed outcomes machine)
    (short : message.length + 1 ≤ packetDataMax)
    (ran : (sendTextResponse fd .msgError message).Runs (serverSemantics outcomes) machine () final)
    (unaccepted : memory → ∀ name members,
      ¬ GroupAcceptable machine.state packet username name members) :
    CreationSettled machine final fd packet username memory := by
  obtain ⟨kept, refused⟩ := sendTextResponse_delivers success short ran
  exact .inr ⟨unaccepted, kept, refused⟩

/-- An event about members that are all online is sent to each of them when its payload fits, and
to nobody otherwise. -/
theorem pushGroupEvent_delivers {event : CString} {snapshot : GroupSnapshot}
    (success : SendsSucceed outcomes machine) (wellFormed : machine.state.WellFormed)
    (online : ∀ member ∈ snapshot.memberNames, machine.state.online member = true)
    (ran : (pushGroupEvent event snapshot).Runs (serverSemantics outcomes) machine () final) :
    final.state = machine.state ∧
      ((encodeFields (eventFields event snapshot)).length ≤ packetDataMax →
        ∃ packet : Packet, packet.type = MessageType.msgGroupEvent.code ∧
          packet.payload = encodeFields (eventFields event snapshot) ∧
          deliveries machine final =
            snapshot.memberNames.map fun member => (machine.state.descriptorOf member, packet)) ∧
      (packetDataMax < (encodeFields (eventFields event snapshot)).length →
        deliveries machine final = []) := by
  unfold pushGroupEvent at ran
  by_cases fits : (encodeFields (eventFields event snapshot)).length ≤ packetDataMax
  · obtain ⟨payload, built, data⟩ := groupPayloadBuildEvent_fits fits
    rw [built] at ran
    have accepted : (packetInit MessageType.msgGroupEvent.code serverName snapshot.id.toCString
        payload.data).isSome := packetInit_isSome.mpr payload.length_le
    obtain ⟨packet, initialised⟩ := Option.isSome_iff_exists.mp accepted
    obtain ⟨type, _, _, content⟩ := packetInit_eq initialised
    obtain ⟨same, sent⟩ := sendToMembers_delivers success initialised wellFormed online ran
    exact ⟨same, fun _ => ⟨packet, type, content.trans data, sent⟩, fun full => by omega⟩
  · have refused := groupPayloadBuildEvent_full (Nat.lt_of_not_le fits)
    cases built : groupPayloadBuildEvent event snapshot with
    | mk result payload =>
      rw [built] at ran refused
      cases refused
      obtain ⟨_, rfl⟩ := (runs_done _ _ _ _ _).mp ran
      exact ⟨rfl, fun small => absurd small fits, fun _ => deliveries_self _⟩

/-- The member loop returns whether another user was named. -/
theorem checkMembers_flag {members : List CString} {flag result : Bool}
    (ran : (checkMembers fd username members flag).Runs (serverSemantics outcomes) machine
      (some result) final) :
    result = true ↔ flag = true ∨ ∃ member ∈ members, member ≠ username := by
  induction members generalizing flag machine with
  | nil =>
    obtain ⟨same, _⟩ := (runs_done _ _ _ _ _).mp ran
    cases same
    simp
  | cons member members ih =>
    unfold checkMembers at ran
    simp only [perform_bind, done_bind, runs_perform, answer_userGetFd] at ran
    cases found : userStoreGetFd machine.state.users member with
    | ok memberFd =>
      rw [found] at ran
      rw [ih ran, Bool.or_eq_true, decide_eq_true_iff, List.exists_mem_cons_iff, or_assoc]
    | error refusal =>
      rw [found] at ran
      obtain ⟨_, _, _, returned⟩ := (runs_bind _ _ _ _ _ _).mp ran
      have absurd := ((runs_done _ _ _ _ _).mp returned).1
      contradiction

/-- When the member loop refuses, some member is not online, and it has replied with one error. -/
theorem checkMembers_refuses {members : List CString} {flag : Bool}
    (success : SendsSucceed outcomes machine) (wellFormed : machine.state.WellFormed)
    (ran : (checkMembers fd username members flag).Runs (serverSemantics outcomes) machine none
      final) :
    (∃ member ∈ members, ¬ machine.state.online member = true) ∧ final.state = machine.state ∧
      RepliedError machine final fd := by
  induction members generalizing flag machine with
  | nil =>
    obtain ⟨absurd, _⟩ := (runs_done _ _ _ _ _).mp ran
    contradiction
  | cons member members ih =>
    unfold checkMembers at ran
    simp only [perform_bind, done_bind, runs_perform, answer_userGetFd] at ran
    set looked := machine.after (serverSemantics outcomes) (.userGetFd member)
    obtain ⟨same, later, silent⟩ := looked_up success rfl (by simp) ran
    cases found : userStoreGetFd machine.state.users member with
    | ok memberFd =>
      rw [found] at ran
      obtain ⟨⟨absent, inside, offline⟩, kept, refused⟩ := ih later (same ▸ wellFormed) ran
      exact ⟨⟨absent, List.mem_cons_of_mem _ inside, same ▸ offline⟩, kept.trans same,
        refused.of_silent silent⟩
    | error refusal =>
      rw [found] at ran
      obtain ⟨⟨⟩, middle, answered, returned⟩ := (runs_bind _ _ _ _ _ _).mp ran
      obtain ⟨_, rfl⟩ := (runs_done _ _ _ _ _).mp returned
      obtain ⟨kept, refused⟩ := sendTextResponse_delivers later (by decide) answered
      refine ⟨⟨member, List.mem_cons_self, fun online => ?_⟩, kept.trans same,
        RepliedError.of_silent refused silent⟩
      obtain ⟨memberFd, there⟩ := (ServerState.online_iff_getFd wellFormed).mp online
      rw [found] at there
      contradiction

/-- A request that has passed the handler's checks is settled by the store. -/
theorem creation_settles {name : CString} {members : List CString}
    (success : SendsSucceed outcomes machine) (wellFormed : machine.state.WellFormed)
    (parsed : groupPayloadParse packet.payload = .ok (name :: members))
    (few : members.length ≤ groupMaxMembers) (session : machine.state.online username = true)
    (named : ∀ member ∈ members, machine.state.online member = true)
    (other : ∃ member ∈ members, member ≠ username)
    (ran : (do
      match ← Handler.groupCreate username name members with
      | .error result => sendTextResponse fd .msgError (groupResultMessage result)
      | .ok snapshot =>
        pushGroupEvent groupEventCreated snapshot
        sendTextResponse fd .msgOk (CString.ofString "群聊已创建") : Handler Unit).Runs
      (serverSemantics outcomes) machine () final) :
    CreationSettled machine final fd packet username (AllocationsSucceed outcomes machine) := by
  simp only [perform_bind, done_bind, runs_perform, answer_groupCreate] at ran
  set grown := machine.after (serverSemantics outcomes) (.groupCreate username name members)
  have later : SendsSucceed outcomes grown := success.later (extends_after machine _)
  have silent : deliveries machine final = deliveries grown final :=
    deliveries_silent (extends_of_runs ran) (by simp)
  have sound : grown.state.WellFormed := perform_wellFormed wellFormed _ _
  have users : grown.state.users = machine.state.users := rfl
  have whole : grown.state = { machine.state with
      groups := (groupStoreCreate (outcomes machine.trace.length).allocated machine.state.groups
        username name members).2 } := rfl
  have counted := wellFormed.groups.counted
  obtain ⟨result, refused⟩ | ⟨snapshot, created, done⟩ :=
    GroupStore.create_cases (outcomes machine.trace.length).allocated machine.state.groups username
      name members
  · rw [refused] at ran whole
    obtain ⟨kept, replied⟩ := sendTextResponse_delivers later (groupResultMessage_short _) ran
    refine .inr ⟨fun memory name' members' acceptable => ?_, kept.trans whole,
      RepliedError.of_silent replied silent⟩
    obtain ⟨rfl, rfl⟩ := List.cons.inj (Except.ok.inj (parsed.symm.trans acceptable.parsed))
    rw [memory _ le_rfl] at refused
    obtain ⟨snapshot, accepted⟩ :=
      (GroupStore.create_ok_iff machine.state.groups username name members).mpr
        ⟨online_valid wellFormed session, (validGroupName_iff name).mpr acceptable.named,
          fun member inside => online_valid wellFormed (acceptable.online member inside),
          acceptable.distinct, acceptable.other, counted ▸ acceptable.room⟩
    rw [refused] at accepted
    contradiction
  · have memory : (outcomes machine.trace.length).allocated = true := by
      by_contra full
      rw [Bool.not_eq_true] at full
      rw [full, groupStoreCreate] at done
      split at done <;> simp at done
    have checked := (GroupStore.create_ok_iff machine.state.groups username name members).mp
      ⟨snapshot, by rw [← memory, done]⟩
    have acceptable : GroupAcceptable machine.state packet username name members :=
      { parsed, few, other
        some_ := by
          obtain ⟨member, inside, _⟩ := other
          exact List.length_pos_of_mem inside
        named := (validGroupName_iff name).mp checked.2.1
        online := named
        distinct := checked.2.2.2.1
        room := counted ▸ checked.2.2.2.2.2 }
    rw [done] at ran whole
    obtain ⟨⟨⟩, pushed, push, answered⟩ := (runs_bind _ _ _ _ _ _).mp ran
    have online : ∀ member ∈ snapshot.memberNames, machine.state.online member = true := by
      intro member inside
      rw [created.memberNames, mem_enlist, List.mem_singleton] at inside
      rcases inside with rfl | other
      · exact session
      · exact named member other
    obtain ⟨same, announced, omitted⟩ := pushGroupEvent_delivers later sound online push
    obtain ⟨kept, reply, type, confirmed⟩ :=
      sendTextResponse_delivers (later.later (extends_of_runs push)) (by decide) answered
    have final_ : final.state = grown.state := kept.trans same
    refine .inl ⟨name, members, snapshot, acceptable, ⟨created, ?_, online, deliveries grown pushed,
      reply, type, ?_, announced, omitted⟩, ?_⟩
    · rw [final_, whole]
    · rw [silent, deliveries_append (extends_of_runs push) (extends_of_runs answered), confirmed]
    · rw [final_, whole]

/-- A request of an online user is settled. -/
theorem createGroupFor_settles (success : SendsSucceed outcomes machine)
    (wellFormed : machine.state.WellFormed) (session : machine.state.online username = true)
    (ran : (createGroupFor fd packet username).Runs (serverSemantics outcomes) machine () final) :
    CreationSettled machine final fd packet username (AllocationsSucceed outcomes machine) := by
  unfold createGroupFor at ran
  split at ran
  case h_2 unparsed =>
    refine refusal_settles success (by decide) ran fun _ name members acceptable => ?_
    obtain ⟨member, inside, _⟩ := acceptable.other
    obtain ⟨first, others, rfl⟩ := List.exists_cons_of_ne_nil (List.ne_nil_of_mem inside)
    exact unparsed name first others acceptable.parsed
  rename_i name member others parsed
  have asked : ∀ {name' members'}, GroupAcceptable machine.state packet username name' members' →
      name' = name ∧ members' = member :: others := fun acceptable =>
    List.cons.inj (Except.ok.inj (acceptable.parsed.symm.trans parsed))
  split at ran
  · rename_i many
    refine refusal_settles success (by decide) ran fun _ name' members' acceptable => ?_
    have few := acceptable.few
    rw [(asked acceptable).2] at few
    omega
  rename_i few
  obtain ⟨checked, middle, check, rest⟩ := (runs_bind _ _ _ _ _ _).mp ran
  have extends_ := extends_of_runs check
  have later := success.later extends_
  split at rest
  · obtain ⟨_, rfl⟩ := (runs_done _ _ _ _ _).mp rest
    obtain ⟨⟨absent, inside, offline⟩, kept, refused⟩ := checkMembers_refuses success wellFormed check
    refine .inr ⟨fun _ name' members' acceptable => ?_, kept, refused⟩
    exact offline (acceptable.online absent ((asked acceptable).2 ▸ inside))
  · obtain ⟨same, _, silent⟩ := checkMembers_runs wellFormed check
    have flag := checkMembers_flag check
    have unseen : deliveries machine final = deliveries middle final := by
      rw [deliveries_append extends_ (extends_of_runs rest), silent, List.nil_append]
    refine CreationSettled.of_silent same unseen id
      (refusal_settles later (by decide) rest fun _ name' members' acceptable => ?_)
    rw [same] at acceptable
    have other := (asked acceptable).2 ▸ acceptable.other
    simpa using flag.mpr (.inr other)
  · obtain ⟨same, named, silent⟩ := checkMembers_runs wellFormed check
    have flag := (checkMembers_flag check).mp rfl
    have unseen : deliveries machine final = deliveries middle final := by
      rw [deliveries_append extends_ (extends_of_runs rest), silent, List.nil_append]
    exact CreationSettled.of_silent same unseen (·.later extends_)
      (creation_settles later (same ▸ wellFormed) parsed (Nat.le_of_not_gt few) (same ▸ session)
        (same ▸ named) (flag.resolve_left (by simp)) rest)

/-- A `MSG_GROUP_CREATE` packet is settled for the user of its connection, or refused. -/
theorem handleGroupCreate_settles (success : SendsSucceed outcomes machine)
    (wellFormed : machine.state.WellFormed)
    (ran : (handleGroupCreate fd packet).Runs (serverSemantics outcomes) machine () final) :
    (∃ username, userStoreUsernameByFd machine.state.users fd = some username ∧
        CreationSettled machine final fd packet username (AllocationsSucceed outcomes machine)) ∨
      userStoreUsernameByFd machine.state.users fd = none ∧ final.state = machine.state ∧
        RepliedError machine final fd := by
  unfold handleGroupCreate at ran
  simp only [perform_bind, done_bind, runs_perform, answer_userUsernameByFd] at ran
  set looked := machine.after (serverSemantics outcomes) (.userUsernameByFd fd)
  obtain ⟨same, later, silent⟩ := looked_up success rfl (by simp) ran
  cases found : userStoreUsernameByFd machine.state.users fd with
  | none =>
    rw [found] at ran
    obtain ⟨kept, refused⟩ := sendTextResponse_delivers later (by decide) ran
    exact .inr ⟨rfl, kept.trans same, RepliedError.of_silent refused silent⟩
  | some username =>
    rw [found] at ran
    obtain ⟨user, _, named, member, online, _⟩ := usernameByFd_some found
    have session : looked.state.online username = true := by
      rw [same]
      exact ServerState.online_iff.mpr ⟨user, member, named, online⟩
    have settled := createGroupFor_settles later (same ▸ wellFormed) session ran
    exact .inl ⟨username, rfl, settled.of_silent same silent (·.later (extends_after machine _))⟩

/-- The user of a connection asks for a group that can be created. -/
def GroupRequested (state : ServerState) (fd : Int) (packet : Packet) (username name : CString)
    (members : List CString) : Prop :=
  userStoreUsernameByFd state.users fd = some username ∧
    GroupAcceptable state packet username name members

/-- In every reachable state, while sends and allocations succeed, a request to create a group is
answered at its end, with `MSG_OK` exactly when it is acceptable. Then one group is added, of the user
and the members that were asked for, each once; otherwise nothing changes and no event is sent. -/
theorem processPacket_groupCreate (reached : ServerReachable outcomes machine)
    (success : SendsSucceed outcomes machine) (memory : AllocationsSucceed outcomes machine)
    (fd : Int) {packet : Packet} (type : packet.type = MessageType.msgGroupCreate.code) :
    ∃ final events reply, (processPacket fd packet).Runs (serverSemantics outcomes) machine () final ∧
      deliveries machine final = events ++ [(fd, reply)] ∧
      (∀ sent ∈ events, sent.2.type = MessageType.msgGroupEvent.code) ∧
      (reply.type = MessageType.msgOk.code ↔
        ∃ username name members, GroupRequested machine.state fd packet username name members) ∧
      (∀ username name members, GroupRequested machine.state fd packet username name members →
        final.state.users = machine.state.users ∧
          ∃ group, final.state.groups.head = group :: machine.state.groups.head ∧
            group.name.toCString = name ∧ group.creator.toCString = username ∧
            group.memberNames = (username :: members).eraseDups) ∧
      ((¬ ∃ username name members, GroupRequested machine.state fd packet username name members) →
        final.state = machine.state ∧ events = [] ∧ reply.type = MessageType.msgError.code) := by
  have wellFormed := serverReachable_wellFormed reached
  obtain ⟨⟨⟩, final, ran⟩ := handler_returns outcomes (processPacket fd packet) wellFormed
  have handled := ran
  rw [processPacket, type, MessageType.ofCode?_code] at handled
  change (handleGroupCreate fd packet).Runs _ _ _ _ at handled
  have settled : (∃ username name members snapshot,
        GroupRequested machine.state fd packet username name members ∧
          CreationConfirmed machine final fd username name members snapshot ∧
          final.state.users = machine.state.users) ∨
      (¬ ∃ username name members, GroupRequested machine.state fd packet username name members) ∧
        final.state = machine.state ∧ RepliedError machine final fd := by
    obtain ⟨username, session, ⟨name, members, snapshot, acceptable, confirmed⟩ |
        ⟨unaccepted, refused⟩⟩ | ⟨nobody, refused⟩ :=
      handleGroupCreate_settles success wellFormed handled
    · exact .inl ⟨username, name, members, snapshot, ⟨session, acceptable⟩, confirmed⟩
    · refine .inr ⟨?_, refused⟩
      rintro ⟨username', name, members, session', acceptable⟩
      obtain rfl := Option.some.inj (session.symm.trans session')
      exact unaccepted memory name members acceptable
    · refine .inr ⟨?_, refused⟩
      rintro ⟨username, name, members, session, _⟩
      rw [nobody] at session
      contradiction
  obtain ⟨username, name, members, snapshot, requested, confirmed, users⟩ |
    ⟨nobody, kept, reply, error, sent⟩ := settled
  · obtain ⟨events, reply, ok, sent, announced, omitted⟩ := confirmed.sent
    refine ⟨final, events, reply, ran, sent, ?_,
      iff_of_true ok ⟨username, name, members, requested⟩, ?_,
      fun nobody => absurd ⟨username, name, members, requested⟩ nobody⟩
    · intro entry inside
      by_cases fits : (encodeFields (eventFields groupEventCreated snapshot)).length ≤ packetDataMax
      · obtain ⟨event, kind, _, copies⟩ := announced fits
        rw [copies] at inside
        obtain ⟨_, _, rfl⟩ := List.mem_map.mp inside
        exact kind
      · rw [omitted (Nat.lt_of_not_le fits)] at inside
        exact absurd inside List.not_mem_nil
    · rintro username' name' members' ⟨session', acceptable'⟩
      obtain ⟨session, acceptable⟩ := requested
      obtain rfl := Option.some.inj (session.symm.trans session')
      obtain ⟨rfl, rfl⟩ := List.cons.inj
        (Except.ok.inj (acceptable.parsed.symm.trans acceptable'.parsed))
      refine ⟨users, snapshot, confirmed.added, confirmed.created.called, confirmed.created.founded,
        ?_⟩
      rw [confirmed.created.memberNames, enlist_singleton]
  · have other : ¬ reply.type = MessageType.msgOk.code := by
      rw [error]
      decide
    exact ⟨final, [], reply, ran, sent, by simp, iff_of_false other nobody,
      fun username name members requested => absurd ⟨username, name, members, requested⟩ nobody,
      fun _ => ⟨kept, rfl, error⟩⟩

end

section

attribute [local instance] sampleDigest

/-- One of two users asks for a group of both, which is created. -/
theorem processPacket_groupCreate_couple : ∃ final events reply,
    (processPacket 5 coupleRequest).Runs (serverSemantics (failingAt [])) coupleMachine () final ∧
      deliveries coupleMachine final = events ++ [(5, reply)] ∧
      reply.type = MessageType.msgOk.code := by
  have requested : GroupRequested coupleMachine.state 5 coupleRequest (CString.ofString "ann")
      (CString.ofString "us") [CString.ofString "ben"] :=
    ⟨by decide, by decide, by decide, by decide, by decide,
      by decide, by decide, by decide, by decide⟩
  obtain ⟨final, events, reply, ran, sent, _, ok, _⟩ :=
    processPacket_groupCreate (sample_reachable couple_returns) (fun _ _ => rfl) (fun _ _ => rfl) 5
      (show coupleRequest.type = MessageType.msgGroupCreate.code by decide)
  exact ⟨final, events, reply, ran, sent, ok.mpr ⟨_, _, _, requested⟩⟩

end

end MultiUserChat
