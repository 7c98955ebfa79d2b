import MultiUserChat.Verif.PageAccount
import MultiUserChat.Verif.PageMessages
/-!
# The contacts outlive the page

The contacts are written to the storage of the browser whenever a message of the gateway may have
changed them. So the storage always says what the page knows (`Account.Persisted`), and a page that
is loaded again knows the first eighty contacts, without those that are nothing but white space.
-/

namespace MultiUserChat.Web

open Page

/-! ## What is loaded -/

/-- The contacts that a page knows when it is loaded again. -/
def loadable (contacts : List Text) : List Text :=
  (contacts.take 80).filter fun name => trim name ≠ []

/-- The strings of an array. -/
theorem filterMap_contactOf (names : List Text) :
    (names.map Json.string).filterMap contactOf = names.filter fun name => trim name ≠ [] := by
  rw [List.filterMap_map, ← List.filterMap_eq_filter]
  apply List.filterMap_congr
  intro name _
  unfold Option.guard
  by_cases blank : trim name = []
  · simp [contactOf, blank]
  · simp [contactOf, blank]

/-- What is in an array of strings. -/
theorem contactsOf_strings {names : List Text} (few : names.length ≤ 80) :
    contactsOf (some (.array (names.map .string))) = names.filter fun name => trim name ≠ [] := by
  have short := (List.length_filter_le (fun name : Text => decide (trim name ≠ [])) names).trans few
  rw [contactsOf, filterMap_contactOf, List.take_of_length_le short]

/-- Contacts are few, and none is nothing but white space. -/
theorem contactsOf_loadable (value : Option Json) : loadable (contactsOf value) = contactsOf value := by
  have few : (contactsOf value).length ≤ 80 := by
    unfold contactsOf
    split
    · exact List.length_take_le _ _
    · decide
  have named : ∀ name ∈ contactsOf value, trim name ≠ [] := by
    intro name inside
    unfold contactsOf at inside
    split at inside
    · obtain ⟨item, _, named⟩ := List.mem_filterMap.mp (List.mem_of_mem_take inside)
      unfold contactOf at named
      split at named
      · split at named
        · contradiction
        · rename_i given
          cases named
          exact given
      · contradiction
    · revert name
      decide
  rw [loadable, List.take_of_length_le few, List.filter_eq_self]
  exact fun name inside => decide_eq_true (named name inside)

namespace Account

/-! ## What is stored -/

/-- What is stored of the contacts is what the page knows. -/
def Persisted (account : Account) : Prop :=
  loadKnownContacts account.stored = loadable account.contacts

/-- Saving the contacts. -/
theorem persisted_save {account : Account} (paired : ∀ name ∈ account.save.contacts, Utf16.Paired name) :
    account.save.Persisted := by
  have names : ∀ name ∈ (uniqueNames account.contacts).take 80, Utf16.Paired name :=
    fun name inside => paired name (List.mem_of_mem_take inside)
  have sound : (Json.array (((uniqueNames account.contacts).take 80).map .string)).Sound :=
    sound_strings names
  have some_ : (Json.array (((uniqueNames account.contacts).take 80).map .string)).stringify ≠ [] := by
    simp [Json.stringify]
  have loaded : loadKnownContacts account.save.stored =
      contactsOf (Json.parse (Json.array
        (((uniqueNames account.contacts).take 80).map .string)).stringify) := by
    unfold loadKnownContacts save
    dsimp only
    rw [Option.getD_some, if_neg some_]
  rw [Persisted, loaded, Json.parse_stringify sound, contactsOf_strings (List.length_take_le _ _)]
  rfl

/-- A group more leaves the contacts. -/
theorem join_contacts (account : Account) (group : Group) :
    (account.join group).contacts = account.contacts ∧ (account.join group).stored = account.stored := by
  unfold Account.join
  split
  · exact ⟨rfl, rfl⟩
  split
  · exact ⟨rfl, rfl⟩
  · exact ⟨rfl, rfl⟩

/-- A message in a conversation leaves the contacts, or saves them. -/
theorem chat_contacts (account : Account) (conversation : Conversation) (sender : Text) :
    ((account.chat conversation sender).contacts = account.contacts ∧
        (account.chat conversation sender).stored = account.stored) ∨
      ∃ known : Account, account.chat conversation sender = known.save := by
  have same : ∃ known : Account,
      (if conversation.mode = .group ∧ ¬ account.groups.any (·.id = conversation.id) then
        account.join ⟨conversation.id, conversation.name, none, some []⟩
      else account) = known ∧ known.contacts = account.contacts ∧ known.stored = account.stored := by
    refine ⟨_, rfl, ?_⟩
    split
    · exact account.join_contacts _
    · exact ⟨rfl, rfl⟩
  obtain ⟨known, joined, same⟩ := same
  unfold Account.chat
  dsimp only
  rw [joined]
  by_cases listed : sender ∈ known.contacts
  · rw [if_pos listed]
    exact .inl same
  · rw [if_neg listed]
    exact .inr ⟨_, rfl⟩

/-- A message leaves the contacts, or saves them. -/
theorem hear_contacts (account : Account) (notice : Notice) :
    ((account.hear notice).contacts = account.contacts ∧ (account.hear notice).stored = account.stored) ∨
      ∃ known : Account, account.hear notice = known.save := by
  cases notice with
  | authResult action ok message username =>
    rw [hear]
    split
    · exact .inr ⟨_, rfl⟩
    · exact .inl ⟨rfl, rfl⟩
  | onlineList users => exact .inr ⟨_, rfl⟩
  | groupList groups => exact .inl ⟨rfl, rfl⟩
  | groupEvent event group => exact .inl (account.join_contacts group)
  | chatMessage mode sender receiver text => exact account.chat_contacts _ sender
  | groupChatMessage groupId groupName sender text => exact account.chat_contacts _ sender
  | fileProgress sender filename receivedSize expectedSize => exact .inl ⟨rfl, rfl⟩
  | fileReceived sender filename data => exact .inl ⟨rfl, rfl⟩
  | status code ok reason message =>
    rw [hear]
    split
    · exact .inl ⟨rfl, rfl⟩
    · exact .inl ⟨rfl, rfl⟩
  | error code ok message => exact .inl ⟨rfl, rfl⟩

/-- A message keeps what is stored up to date. -/
theorem Persisted.hear {account : Account} (persisted : account.Persisted) {notice : Notice}
    (paired : ∀ name ∈ (account.hear notice).contacts, Utf16.Paired name) :
    (account.hear notice).Persisted := by
  rcases account.hear_contacts notice with ⟨contacts, stored⟩ | ⟨known, saved⟩
  · rw [Persisted, contacts, stored]
    exact persisted
  · rw [saved] at paired ⊢
    exact persisted_save paired

end Account

/-! ## Runs -/

section

variable [Browser]

/-- Whatever happens to a page, a page that is loaded after it knows its first eighty contacts, without
those that are nothing but white space. -/
theorem contacts_persist {form : Bool} {page : Page} (reached : StringPage form page)
    (authMessage : Option (Text × String)) :
    (Page.load page.stored authMessage).knownContacts = loadable page.knownContacts := by
  have persisted : page.account.Persisted := by
    refine Reachable.invariant (fun page => page.account.Persisted) ?_ ?_ reached
    · rintro _ ⟨stored, authMessage, rfl, _⟩
      exact (contactsOf_loadable _).symm
    · rintro page event page' earlier persisted ⟨taken, given⟩
      have orderly : page'.Orderly Utf16.Paired form :=
        StringPage.orderly (.next earlier ⟨taken, given⟩)
      have account := step_account taken
      have paired : ∀ name ∈ page'.account.contacts, Utf16.Paired name := orderly.texts.contacts
      rw [account] at paired ⊢
      cases heard : told event with
      | none => exact persisted
      | some notice =>
        rw [heard] at paired
        exact persisted.hear paired
  exact persisted

end

/-- A page that has heard of a contact in a group is loaded again with it. -/
theorem contacts_persist_groupChat : ∃ page, @StringPage asciiBrowser false page ∧
    page.knownContacts =
      [literal "u", literal "user1", literal "user2", literal "user3", literal "v"] ∧
    ∀ authMessage, (@Page.load asciiBrowser page.stored authMessage).knownContacts =
      loadable page.knownContacts := by
  have ran : ∃ page, groupChat.foldlM (@Page.plainStep asciiBrowser)
      (@Page.load asciiBrowser (some (literal "{}")) none) = some page ∧ page.knownContacts =
        [literal "u", literal "user1", literal "user2", literal "user3", literal "v"] :=
    ⟨_, rfl, rfl⟩
  obtain ⟨page, ran, contacts⟩ := ran
  have reached := @plainStep_reachable asciiBrowser _ (Utf16.Paired.of_plain (by decide)) _ _ _ ran
  exact ⟨page, reached, contacts, @contacts_persist asciiBrowser false page reached⟩

end MultiUserChat.Web
