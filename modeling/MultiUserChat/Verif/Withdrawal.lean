import MultiUserChat.Verif.Interleaving
import MultiUserChat.Verif.Membership
/-!
# Members are online under interleavings

A group is created from users that were looked up one by one before, and a user goes offline in two
steps, first out of the groups and then out of the session. Other threads can act in between. When
every creation finds its members still online and none of them on the way out, and every cleanup logs
out the user that it took out of the groups, all members of all groups are online at all times.
-/

namespace MultiUserChat

/-- The operation does not let a member go offline, or somebody offline become a member: the users
named for a new group are online and no thread is about to log them out, and a logout takes only the
user offline that the thread has taken out of the groups. -/
def Operation.holdsMembers (server : ThreadedServer) (thread : Thread) : Operation → Bool
  | .groupCreate creator _ members => (creator :: members).all fun name =>
      server.state.online name && server.threads.all fun other => other.withdrawing ≠ some name
  | .userLogoutFd fd =>
    (userStoreUsernameByFd server.state.users fd).all fun name => thread.withdrawing = some name
  | _ => true

namespace ThreadedServer

/-- The operation that a choice performs, if any, holds the members. -/
def holdsMembers (server : ThreadedServer) : Choice → Bool
  | .advance number _ => server.threads[number]?.all fun thread =>
      match thread.code with
      | .perform op _ => op.holdsMembers server thread
      | _ => true
  | _ => true

/-- Members are online, and who is on the way out is a member of no group. -/
structure MembersHeld (server : ThreadedServer) : Prop where
  /-- The stores are well formed. -/
  wellFormed : server.state.WellFormed
  /-- Every member of every group is online. -/
  online : server.state.MembersOnline
  /-- A user that a thread has taken out of the groups is in none. -/
  withdrawn : ∀ thread ∈ server.threads, ∀ name, thread.withdrawing = some name →
    ∀ group ∈ server.state.groups.head, name ∉ group.memberNames

/-- Nobody is a member of a group that was created, or of one that existed, and not online. -/
theorem groupCreate_members [Sha256] {state : ServerState} (outcome : Outcome)
    {creator name : CString} {members : List CString} {group : GroupSnapshot}
    (listed : group ∈ (perform outcome (.groupCreate creator name members) state).2.groups.head) :
    group ∈ state.groups.head ∨ ∀ member ∈ group.memberNames, member ∈ creator :: members := by
  change group ∈ (groupStoreCreate outcome.allocated state.groups creator name members).2.head
    at listed
  obtain ⟨result, refused⟩ | ⟨snapshot, created, done⟩ :=
    GroupStore.create_cases outcome.allocated state.groups creator name members
  · rw [refused] at listed
    exact .inl listed
  · rw [done] at listed
    rcases List.mem_cons.mp listed with rfl | old
    · refine .inr fun member inside => ?_
      rw [created.memberNames, mem_enlist, List.mem_singleton] at inside
      exact List.mem_cons.mpr inside
    · exact .inl old

/-- Members after a removal were members before, and the removed user is none of them. -/
theorem groupRemoveMember_members [Sha256] {state : ServerState} (wellFormed : state.WellFormed)
    (outcome : Outcome) {username : CString} {group : GroupSnapshot}
    (listed : group ∈ (perform outcome (.groupRemoveMember username) state).2.groups.head) :
    username ∉ group.memberNames ∧
      ∃ before ∈ state.groups.head, ∀ member ∈ group.memberNames, member ∈ before.memberNames := by
  have departed := wellFormed.groups.removeMember_roster username groupEventMaxChanges
  have entry : group.entry ∈ Roster.depart (fun name => decide (name = username))
      state.groups.roster := by
    rw [← departed]
    exact List.mem_map_of_mem listed
  obtain ⟨_, original, old, _, members⟩ := Roster.mem_depart.mp entry
  obtain ⟨before, member, rfl⟩ := List.mem_map.mp old
  have names : group.memberNames =
      before.memberNames.filter fun name => !decide (name = username) := members
  refine ⟨fun inside => ?_, before, member, fun other inside => ?_⟩
  · rw [names, List.mem_filter] at inside
    simp at inside
  · rw [names] at inside
    exact (List.mem_filter.mp inside).1

/-- Whom a thread withdraws after a step that changed none of that, some thread withdrew before. -/
theorem withdrawing_before {threads : List Thread} {number : Nat} {thread replaced other : Thread}
    (serves : threads[number]? = some thread) (member : other ∈ threads.set number replaced)
    (same : replaced.withdrawing = thread.withdrawing) {name : CString}
    (leaving : other.withdrawing = some name) :
    ∃ earlier ∈ threads, earlier.withdrawing = some name := by
  rcases List.mem_or_eq_of_mem_set member with old | rfl
  · exact ⟨other, old, leaving⟩
  · exact ⟨thread, List.mem_of_getElem? serves, same.symm.trans leaving⟩

/-- Replacing a thread by one that withdraws the same user keeps the members held. -/
theorem MembersHeld.replace {server : ThreadedServer} (held : server.MembersHeld) {number : Nat}
    {thread replaced : Thread} (serves : server.threads[number]? = some thread)
    (same : replaced.withdrawing = thread.withdrawing) :
    MembersHeld { server with threads := server.threads.set number replaced } := by
  refine ⟨held.wellFormed, held.online, fun other member name leaving => ?_⟩
  obtain ⟨earlier, old, withdraws⟩ := withdrawing_before serves member same leaving
  exact held.withdrawn earlier old name withdraws

/-- Recording a harmless operation does not change whom the thread withdraws. -/
theorem record_withdrawing {op : Operation} (harmless : op.harmless = true) (thread : Thread)
    (state : ServerState) (answer : Answer op) :
    (thread.record state op answer).withdrawing = thread.withdrawing := by
  cases op with
  | send fd packet target =>
    cases target with
    | none => rfl
    | some name =>
      simp only [Thread.record]
      split <;> rfl
  | userLogoutFd _ | groupCreate _ _ _ | groupRemoveMember _ => contradiction
  | _ => rfl

section

variable [Sha256]

variable {server : ThreadedServer} {number : Nat} {thread : Thread}

/-- An operation that neither takes anybody offline nor changes a group keeps the members held. -/
theorem MembersHeld.harmless (held : server.MembersHeld) {op : Operation} (outcome : Outcome)
    (serves : server.threads[number]? = some thread) (harmless : op.harmless = true)
    (next : Answer op → Handler Unit) :
    (server.performed number thread outcome op next).MembersHeld := by
  have groups : (perform outcome op server.state).2.groups = server.state.groups :=
    perform_keepsGroups (Operation.keepsGroups_of_harmless harmless) outcome server.state
  refine ⟨perform_wellFormed held.wellFormed outcome op, fun group listed name inside => ?_,
    fun other member name leaving group listed => ?_⟩
  · change group ∈ (perform outcome op server.state).2.groups.head at listed
    rw [groups] at listed
    exact perform_harmless_online harmless outcome held.wellFormed
      (held.online group listed name inside)
  · change group ∈ (perform outcome op server.state).2.groups.head at listed
    rw [groups] at listed
    obtain ⟨earlier, old, withdraws⟩ :=
      withdrawing_before serves member (record_withdrawing harmless _ _ _) leaving
    exact held.withdrawn earlier old name withdraws group listed

/-- Creating a group of users that are online and not on the way out keeps the members held. -/
theorem MembersHeld.groupCreate (held : server.MembersHeld) {creator name : CString}
    {members : List CString} (outcome : Outcome) (serves : server.threads[number]? = some thread)
    (holds : (Operation.groupCreate creator name members).holdsMembers server thread = true)
    (next : Answer (.groupCreate creator name members) → Handler Unit) :
    (server.performed number thread outcome (.groupCreate creator name members) next).MembersHeld := by
  simp only [Operation.holdsMembers, List.all_eq_true, Bool.and_eq_true, decide_eq_true_eq] at holds
  refine ⟨perform_wellFormed held.wellFormed outcome (.groupCreate creator name members), fun group listed member inside => ?_,
    fun other member who leaving group listed => ?_⟩
  · rcases groupCreate_members outcome listed with old | named
    · exact held.online group old member inside
    · exact (holds member (named member inside)).1
  · obtain ⟨earlier, old, withdraws⟩ := withdrawing_before serves member rfl leaving
    rcases groupCreate_members outcome listed with present | named
    · exact held.withdrawn earlier old who withdraws group present
    · exact fun inside => (holds who (named who inside)).2 earlier old withdraws

/-- Removing a user from the groups keeps the members held. -/
theorem MembersHeld.groupRemoveMember (held : server.MembersHeld) (username : CString)
    (outcome : Outcome) (next : Answer (.groupRemoveMember username) → Handler Unit) :
    (server.performed number thread outcome (.groupRemoveMember username) next).MembersHeld := by
  refine ⟨perform_wellFormed held.wellFormed outcome (.groupRemoveMember username), fun group listed member inside => ?_,
    fun other member who leaving group listed => ?_⟩
  · obtain ⟨_, before, present, names⟩ :=
      groupRemoveMember_members held.wellFormed outcome listed
    exact held.online before present member (names member inside)
  · obtain ⟨absent, before, present, names⟩ :=
      groupRemoveMember_members held.wellFormed outcome listed
    rcases List.mem_or_eq_of_mem_set member with old | rfl
    · exact fun inside => held.withdrawn other old who leaving before present (names who inside)
    · exact Option.some.inj leaving ▸ absent

/-- Logging out the user that was taken out of the groups keeps the members held. -/
theorem MembersHeld.userLogoutFd (held : server.MembersHeld) {fd : Int} (outcome : Outcome)
    (serves : server.threads[number]? = some thread)
    (holds : (Operation.userLogoutFd fd).holdsMembers server thread = true)
    (next : Answer (.userLogoutFd fd) → Handler Unit) :
    (server.performed number thread outcome (.userLogoutFd fd) next).MembersHeld := by
  simp only [Operation.holdsMembers, Option.all_eq_true, decide_eq_true_eq] at holds
  refine ⟨perform_wellFormed held.wellFormed outcome (.userLogoutFd fd), fun group listed name inside => ?_,
    fun other member who leaving group listed => ?_⟩
  · obtain ⟨at_, login⟩ := ServerState.online_iff_loggedIn.mp
      (held.online group listed name inside)
    obtain still | ⟨same, found⟩ :=
      perform_loggedIn held.wellFormed login outcome (.userLogoutFd fd)
    · exact ServerState.online_iff_loggedIn.mpr ⟨at_, still⟩
    · -- The user that is logged out has been taken out of every group.
      cases same
      have leaving := holds name found
      have here := List.mem_of_getElem? serves
      exact absurd inside (held.withdrawn thread here name leaving group listed)
  · rcases List.mem_or_eq_of_mem_set member with old | rfl
    · exact held.withdrawn other old who leaving group listed
    · contradiction

/-- An operation that holds the members keeps them held. -/
theorem MembersHeld.performed (held : server.MembersHeld) {op : Operation} (outcome : Outcome)
    (serves : server.threads[number]? = some thread) (holds : op.holdsMembers server thread = true)
    (next : Answer op → Handler Unit) :
    (server.performed number thread outcome op next).MembersHeld := by
  by_cases harmless : op.harmless = true
  · exact held.harmless outcome serves harmless next
  cases op with
  | groupCreate creator name members => exact held.groupCreate outcome serves holds next
  | groupRemoveMember username => exact held.groupRemoveMember username outcome next
  | userLogoutFd fd => exact held.userLogoutFd outcome serves holds next
  | _ => exact absurd rfl harmless

/-- In every interleaving whose steps hold the members, every member of every group is online, in
particular when no handler is part-way through a packet or a cleanup. -/
theorem membersOnline_of_held {server : ThreadedServer}
    (reached : Reachable Started (fun server choice server' =>
      server.step choice = some server' ∧ server.holdsMembers choice = true) server) :
    server.state.MembersOnline := by
  refine MembersHeld.online (reached.invariant MembersHeld (fun server started => ?_)
    fun server choice server' _ held taken => ?_)
  · obtain ⟨allocated, file, rfl⟩ := started
    exact ⟨(startState_wellFormed allocated file).1,
      fun group listed => absurd listed List.not_mem_nil,
      fun thread member => absurd member List.not_mem_nil⟩
  · have holds := taken.2
    cases step_move taken.1 with
    | accept possible free =>
      refine ⟨⟨held.wellFormed.users, held.wellFormed.groups⟩, held.online, ?_⟩
      intro thread member name leaving
      rcases List.mem_append.mp member with old | new
      · exact held.withdrawn thread old name leaving
      · rw [List.mem_singleton.mp new] at leaving
        contradiction
    | receive packet serves idle staying => exact held.replace serves rfl
    | hangUp serves idle staying => exact held.replace serves rfl
    | enter outcome serves calls => exact held.replace serves rfl
    | perform outcome serves performs =>
      simp only [holdsMembers, serves, Option.all_some, performs] at holds
      exact held.performed outcome serves holds _

end

section

attribute [local instance] sampleDigest

/-- Two users join and one of them founds a group of both. -/
def founding : List Choice :=
  enrolling 0 5 (CString.ofString "ann") ++ enrolling 1 6 (CString.ofString "ben") ++
    .receive 0 coupleRequest :: goOn 0 8

/-- The run is possible, and its steps hold the members. -/
theorem founding_returns : (emptyServer.stepAll holdsMembers founding).isSome := by decide

/-- The two members are online. -/
theorem membersOnline_of_held_founding :
    ((emptyServer.stepAll holdsMembers founding).get founding_returns).state.MembersOnline :=
  membersOnline_of_held (stepAll_reachable (.start emptyServer_started)
    (Option.some_get founding_returns).symm)

/-- A user is looked up for a new group, leaves, and is then made a member. -/
def overtaking : List Choice :=
  enrolling 0 5 (CString.ofString "ann") ++ enrolling 1 6 (CString.ofString "ben") ++
    .receive 0 coupleRequest :: goOn 0 2 ++ .hangUp 1 :: goOn 1 5 ++ goOn 0 5

/-- The run is possible. -/
theorem overtaking_returns : (emptyServer.stepAll (fun _ _ => true) overtaking).isSome := by
  decide

/-- A user that left between the lookup and the creation is a member without being online. -/
theorem membersOnline_overtaking : ¬ ∀ [Sha256] (server : ThreadedServer),
    server.ReachableBy → server.Quiet → server.state.MembersOnline := by
  intro claim
  have reached : ReachableBy ((emptyServer.stepAll (fun _ _ => true) overtaking).get
      overtaking_returns) :=
    (stepAll_reachable (.start emptyServer_started) (Option.some_get overtaking_returns).symm).widen
      fun _ _ _ taken => taken.1
  have quiet : ((emptyServer.stepAll (fun _ _ => true) overtaking).get
      overtaking_returns).Quiet := by
    unfold Quiet
    decide
  have online := claim _ reached quiet
  revert online
  unfold ServerState.MembersOnline
  decide

end

end ThreadedServer

end MultiUserChat
