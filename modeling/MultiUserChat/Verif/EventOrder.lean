import MultiUserChat.Verif.Membership
import MultiUserChat.Verif.Payload
/-!
# The order of group events

The events about a group carry its member list, and groups only shrink, so a client that keeps the
last event stays current as long as events are sent in the order of the changes. They are sent from
snapshots: an event is up to date when the store still has the group as the snapshot has it. The
failure of a send inside a fan-out runs a nested cleanup that announces newer snapshots, and the
fan-out then resumes with its own. `Operation.UpToDate` says that an event is current, and runs in
which nothing resumes with users that have gone offline send only current events.
-/

namespace MultiUserChat

open Program

/-- The member list that an event carries, after the event, the id, the name, the creator and the
count. -/
def eventMembers (packet : Packet) : List CString :=
  match groupPayloadParse packet.payload with
  | .ok fields => fields.drop 5
  | .error _ => []

/-- Extend the member lists seen about a group on a descriptor by one operation. A new group with
the id starts a new list. -/
def recordEvent (fd : Int) (groupId : CString) (history : List (List CString)) :
    Event Operation Answer → List (List CString)
  | ⟨.send target packet _, delivered⟩ =>
    if delivered = true ∧ target = fd ∧ packet.type = MessageType.msgGroupEvent.code ∧
        packet.receiverName = groupId then history ++ [eventMembers packet]
    else history
  | ⟨.groupCreate _ _ _, .ok snapshot⟩ => if snapshot.id.toCString = groupId then [] else history
  | _ => history

/-- The member lists of the events about a group on a descriptor, since a group got this id. -/
def eventHistory (fd : Int) (groupId : CString) (trace : List (Event Operation Answer)) :
    List (List CString) :=
  trace.foldl (recordEvent fd groupId) []

/-- At any moment, the member lists sent about a group on a descriptor, and therefore on any one
connection, shrink from each event to the next. -/
def EventsShrink (trace : List (Event Operation Answer)) : Prop :=
  ∀ fd groupId before, before <+: trace →
    (eventHistory fd groupId before).Pairwise fun earlier later => later.Sublist earlier

/-- The history is extended by one operation at a time. -/
theorem eventHistory_append (fd : Int) (groupId : CString) (trace : List (Event Operation Answer))
    (event : Event Operation Answer) : eventHistory fd groupId (trace ++ [event]) =
      recordEvent fd groupId (eventHistory fd groupId trace) event := by
  rw [eventHistory, List.foldl_append]
  rfl

/-- The store has a group of this id with exactly these members. -/
def ServerState.Lists (state : ServerState) (groupId : CString) (members : List CString) : Prop :=
  ∃ group ∈ state.groups.head, group.id.toCString = groupId ∧ group.memberNames = members

/-- What the store has is on its roster. -/
theorem ServerState.lists_iff_roster {state : ServerState} {groupId : CString}
    {members : List CString} : state.Lists groupId members ↔
      ∃ entry ∈ state.groups.roster, entry.1.1.toCString = groupId ∧ entry.2 = members := by
  simp only [Lists, GroupStore.roster, List.mem_map, exists_exists_and_eq_and]
  rfl

/-- An event is sent with the members its group has, and a new group gets an id that no group has. -/
def Operation.UpToDate (state : ServerState) : Operation → Prop
  | .send _ packet _ => packet.type = MessageType.msgGroupEvent.code →
      state.Lists packet.receiverName (eventMembers packet)
  | .groupCreate _ _ _ => findGroupLocked state.groups (groupIdText state.groups.nextId) = none
  | _ => True

/-- The groups were never larger than in any event sent about them, and the events shrink. -/
structure EventsCovered (machine : ServerMachine) : Prop where
  /-- Member lists shrink from each event to the next. -/
  shrink : EventsShrink machine.trace
  /-- Every event sent about a group lists its members, perhaps with others. -/
  covered : ∀ fd groupId, ∀ members ∈ eventHistory fd groupId machine.trace,
    ∀ group ∈ machine.state.groups.head, group.id.toCString = groupId →
      group.memberNames.Sublist members
  /-- No two groups have the same id. -/
  numbered : (machine.state.groups.head.map fun group => group.id.toCString).Nodup

/-- Shrinking is kept when the last list is contained in all before it. -/
theorem EventsShrink.append {trace : List (Event Operation Answer)}
    {event : Event Operation Answer} (shrink : EventsShrink trace)
    (last : ∀ fd groupId, (recordEvent fd groupId (eventHistory fd groupId trace) event).Pairwise
      fun earlier later => later.Sublist earlier) : EventsShrink (trace ++ [event]) := by
  intro fd groupId before earlier
  rcases List.prefix_concat_iff.mp earlier with rfl | older
  · rw [eventHistory_append]
    exact last fd groupId
  · exact shrink fd groupId before older

/-- Groups that only shrank, after an operation that is in no history, are still covered. -/
theorem EventsCovered.shrunk {machine next : ServerMachine} {event : Event Operation Answer}
    (covered : EventsCovered machine) (appended : next.trace = machine.trace ++ [event])
    (silent : ∀ fd groupId history, recordEvent fd groupId history event = history)
    (headers : (next.state.groups.roster.map Prod.fst).Sublist
      (machine.state.groups.roster.map Prod.fst))
    (smaller : ∀ entry ∈ next.state.groups.roster, ∃ before ∈ machine.state.groups.roster,
      before.1 = entry.1 ∧ entry.2.Sublist before.2) : EventsCovered next := by
  have ids : ∀ store : GroupStore, store.head.map (fun group => group.id.toCString) =
      (store.roster.map Prod.fst).map fun header => header.1.toCString := by
    intro store
    simp only [GroupStore.roster, List.map_map]
    rfl
  refine ⟨?_, ?_, ?_⟩
  · rw [appended]
    refine covered.shrink.append fun fd groupId => ?_
    rw [silent]
    exact covered.shrink fd groupId _ (List.prefix_refl _)
  · intro fd groupId members recorded group listed named
    rw [appended, eventHistory_append, silent] at recorded
    obtain ⟨before, old, header, fewer⟩ := smaller group.entry (List.mem_map_of_mem listed)
    obtain ⟨original, member, rfl⟩ := List.mem_map.mp old
    have same : original.id = group.id := congrArg Prod.fst header
    exact fewer.trans (covered.covered fd groupId members recorded original member (same ▸ named))
  · have numbered := covered.numbered
    rw [ids] at numbered ⊢
    exact numbered.sublist (headers.map _)

section

variable [Sha256] {outcomes : Nat → Outcome} {machine : ServerMachine}

/-- An operation that is in no history and leaves the groups alone keeps them covered. -/
theorem EventsCovered.after_silent (covered : EventsCovered machine) {op : Operation}
    (keeps : op.keepsGroups = true)
    (silent : ∀ fd groupId history, recordEvent fd groupId history
      ⟨op, machine.answer (serverSemantics outcomes) op⟩ = history) :
    EventsCovered (machine.after (serverSemantics outcomes) op) := by
  have same : (machine.after (serverSemantics outcomes) op).state.groups = machine.state.groups :=
    perform_keepsGroups keeps _ _
  refine covered.shrunk rfl silent ?_ fun entry listed => ?_
  · rw [same]
  · rw [same] at listed
    exact ⟨entry, listed, rfl, List.Sublist.refl _⟩

/-- Sending an event that is up to date keeps the groups covered. -/
theorem EventsCovered.after_send (covered : EventsCovered machine) {fd : Int} {packet : Packet}
    {target : Option CString} (current : (Operation.send fd packet target).UpToDate machine.state) :
    EventsCovered (machine.after (serverSemantics outcomes) (.send fd packet target)) := by
  set next := machine.after (serverSemantics outcomes) (.send fd packet target)
  have appended : next.trace = machine.trace ++
      [⟨.send fd packet target, (outcomes machine.trace.length).delivered⟩] := rfl
  refine ⟨?_, ?_, covered.numbered⟩
  · rw [appended]
    refine covered.shrink.append fun other groupId => ?_
    have shrunk := covered.shrink other groupId _ (List.prefix_refl _)
    simp only [recordEvent]
    split
    · rename_i sent
      obtain ⟨group, listed, id, members⟩ := current sent.2.2.1
      refine List.pairwise_append.mpr ⟨shrunk, List.pairwise_singleton _ _, ?_⟩
      intro earlier recorded later last
      rw [List.mem_singleton.mp last, ← members]
      exact covered.covered other groupId earlier recorded group listed (id.trans sent.2.2.2)
    · exact shrunk
  · intro other groupId members recorded group listed named
    rw [appended, eventHistory_append] at recorded
    simp only [recordEvent] at recorded
    split at recorded
    · rename_i sent
      rcases List.mem_append.mp recorded with old | new
      · exact covered.covered other groupId members old group listed named
      · -- The event lists the only group with this id.
        obtain ⟨snapshot, member, id, same⟩ := current sent.2.2.1
        have sole : snapshot = group := List.inj_on_of_nodup_map covered.numbered member listed
          ((id.trans sent.2.2.2).trans named.symm)
        rw [List.mem_singleton.mp new, ← same, sole]
    · exact covered.covered other groupId members recorded group listed named

/-- A removal keeps the groups covered. -/
theorem EventsCovered.after_remove (covered : EventsCovered machine)
    (wellFormed : machine.state.WellFormed) (username : CString) :
    EventsCovered (machine.after (serverSemantics outcomes) (.groupRemoveMember username)) := by
  have departed : (machine.after (serverSemantics outcomes)
      (.groupRemoveMember username)).state.groups.roster =
        Roster.depart (fun name => decide (name = username)) machine.state.groups.roster :=
    wellFormed.groups.removeMember_roster username groupEventMaxChanges
  refine covered.shrunk rfl (fun _ _ _ => rfl) ?_ fun entry listed => ?_
  · rw [departed]
    exact Roster.depart_headers _ _
  · rw [departed] at listed
    obtain ⟨_, before, old, header, members⟩ := Roster.mem_depart.mp listed
    exact ⟨before, old, header, members ▸ List.filter_sublist⟩

/-- A creation with an unused id keeps the groups covered. -/
theorem EventsCovered.after_create (covered : EventsCovered machine) {creator name : CString}
    {members : List CString}
    (current : (Operation.groupCreate creator name members).UpToDate machine.state) :
    EventsCovered (machine.after (serverSemantics outcomes) (.groupCreate creator name members)) := by
  set next := machine.after (serverSemantics outcomes) (.groupCreate creator name members)
  set allocated := (outcomes machine.trace.length).allocated
  have appended : next.trace = machine.trace ++ [⟨.groupCreate creator name members,
      (groupStoreCreate allocated machine.state.groups creator name members).1⟩] := rfl
  have groups : next.state.groups =
      (groupStoreCreate allocated machine.state.groups creator name members).2 := rfl
  obtain ⟨result, refused⟩ | ⟨snapshot, created, done⟩ :=
    GroupStore.create_cases allocated machine.state.groups creator name members
  · rw [refused] at appended groups
    refine covered.shrunk appended (fun _ _ _ => rfl) ?_ fun entry listed => ?_
    · rw [groups]
    · rw [groups] at listed
      exact ⟨entry, listed, rfl, List.Sublist.refl _⟩
  · rw [done] at appended groups
    have id : snapshot.id.toCString = groupIdText machine.state.groups.nextId := by
      rw [created.id, GroupStore.groupIdText_copied]
    have unused : ∀ group ∈ machine.state.groups.head,
        group.id.toCString ≠ groupIdText machine.state.groups.nextId := by
      have missing : findGroupLocked machine.state.groups
          (groupIdText machine.state.groups.nextId) = none := current
      rw [findGroupLocked, GroupStore.groupIdText_valid] at missing
      simpa using missing
    have head : next.state.groups.head = snapshot :: machine.state.groups.head := by rw [groups]
    refine ⟨?_, ?_, ?_⟩
    · rw [appended]
      refine covered.shrink.append fun fd groupId => ?_
      simp only [recordEvent]
      split
      · exact List.Pairwise.nil
      · exact covered.shrink fd groupId _ (List.prefix_refl _)
    · intro fd groupId members' recorded group listed named
      rw [appended, eventHistory_append] at recorded
      simp only [recordEvent] at recorded
      split at recorded
      · contradiction
      · rename_i other
        rw [head] at listed
        rcases List.mem_cons.mp listed with rfl | old
        · exact absurd named other
        · exact covered.covered fd groupId members' recorded group old named
    · rw [head, List.map_cons, List.nodup_cons]
      refine ⟨fun taken => ?_, covered.numbered⟩
      obtain ⟨group, listed, same⟩ := List.mem_map.mp taken
      exact unused group listed (same.trans id)

/-- An operation that is up to date keeps the groups covered. -/
theorem EventsCovered.after (covered : EventsCovered machine)
    (wellFormed : machine.state.WellFormed) {op : Operation} (current : op.UpToDate machine.state) :
    EventsCovered (machine.after (serverSemantics outcomes) op) := by
  cases op with
  | send fd packet target => exact covered.after_send current
  | groupCreate creator name members => exact covered.after_create current
  | groupRemoveMember username => exact covered.after_remove wellFormed username
  | userRegister _ _ | userLogin _ _ _ | userLogoutFd _ | userGetFd _ | userOnlineList =>
    exact covered.after_silent rfl fun _ _ _ => rfl
  | userSnapshotOnlineFds _ | userUsernameByFd _ | groupGetSnapshot _ | groupBuildListPayload _ =>
    exact covered.after_silent rfl fun _ _ _ => rfl
  | close _ => exact covered.after_silent rfl fun _ _ _ => rfl

end

end MultiUserChat
