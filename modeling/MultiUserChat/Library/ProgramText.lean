import MultiUserChat.Library.ProgramRules
/-!
# What the text of a program promises

Under interleaving a program is known by the text that is left of it. `Inevitable` says that it will
perform an operation of some kind whatever the answers are. `Grounded` says that such a promise is
only ever made because of an answer: when an operation returns, what is inevitable from then on was
inevitable before, or the answer is a ground for it. `Closes` says that a final operation is the last.
`Once` counts the operations of a kind, and `Runs.once` finds them in a run. `Permitted` says that
procedures are only called with a permission that an answer has given, and `Runs.explained` finds that
answer for the operations that belong to a procedure.
-/

namespace MultiUserChat.Program

variable {Op : Type} {Answer : Op → Type} {Call : Type} {α β : Type}

/-- Whatever the answers are, the text that is left performs an operation of this kind. Bodies of
called procedures are not part of the text. -/
def Inevitable (kind : Op → Prop) : Program Op Answer Call α → Prop
  | .done _ => False
  | .perform op next => kind op ∨ ∀ answer, (next answer).Inevitable kind
  | .call _ next => next.Inevitable kind

section

variable {kind : Op → Prop}

/-- What the first part of a sequence does inevitably, the sequence does. -/
theorem Inevitable.first {program : Program Op Answer Call α} (inevitable : program.Inevitable kind)
    (rest : α → Program Op Answer Call β) : (program >>= rest).Inevitable kind := by
  induction program with
  | done value => contradiction
  | perform op next ih =>
    rcases inevitable with here | later
    · exact .inl here
    · exact .inr fun answer => ih answer (later answer)
  | call target next ih => exact ih inevitable

/-- What the rest of a sequence does inevitably for every value, the sequence does. -/
theorem Inevitable.rest {rest : α → Program Op Answer Call β}
    (inevitable : ∀ value, (rest value).Inevitable kind) (program : Program Op Answer Call α) :
    (program >>= rest).Inevitable kind := by
  induction program with
  | done value => exact inevitable value
  | perform op next ih => exact .inr ih
  | call target next ih => exact ih

/-- What a sequence does inevitably, its first part or the rest for some value does. -/
theorem inevitable_bind {program : Program Op Answer Call α} {rest : α → Program Op Answer Call β}
    (inevitable : (program >>= rest).Inevitable kind) :
    program.Inevitable kind ∨ ∃ value, (rest value).Inevitable kind := by
  induction program with
  | done value => exact .inr ⟨value, inevitable⟩
  | perform op next ih =>
    rcases inevitable with here | later
    · exact .inl (.inl here)
    · by_cases always : ∀ answer, (next answer).Inevitable kind
      · exact .inl (.inr always)
      · obtain ⟨answer, avoided⟩ := not_forall.mp always
        exact .inr ((ih answer (later answer)).resolve_left avoided)
  | call target next ih => exact ih inevitable

end

section

variable {ι : Type} {kind : ι → Op → Prop} {grounds : (op : Op) → Answer op → ι → Prop}

/-- Nothing becomes inevitable without a ground in an answer. -/
def Grounded (kind : ι → Op → Prop) (grounds : (op : Op) → Answer op → ι → Prop) :
    Program Op Answer Call α → Prop
  | .done _ => True
  | .perform op next => ∀ answer, (next answer).Grounded kind grounds ∧
      ∀ key, (next answer).Inevitable (kind key) →
        (Program.perform op next).Inevitable (kind key) ∨ grounds op answer key
  | .call _ next => next.Grounded kind grounds

/-- The text makes no promise yet, and later ones only with a ground. -/
structure Unpromised (kind : ι → Op → Prop) (grounds : (op : Op) → Answer op → ι → Prop)
    (program : Program Op Answer Call α) : Prop where
  /-- Later promises have a ground. -/
  grounded : program.Grounded kind grounds
  /-- There is no promise yet. -/
  free : ∀ key, ¬program.Inevitable (kind key)

/-- A sequence is grounded when its parts are and the promises of the rest do not depend on the
value. -/
theorem Grounded.bind {program : Program Op Answer Call α} {rest : α → Program Op Answer Call β}
    (first : program.Grounded kind grounds) (later : ∀ value, (rest value).Grounded kind grounds)
    (uniform : ∀ key value value', (rest value).Inevitable (kind key) →
      (rest value').Inevitable (kind key)) : (program >>= rest).Grounded kind grounds := by
  induction program with
  | done value => exact later value
  | perform op next ih =>
    refine fun answer => ⟨ih answer (first answer).1, fun key inevitable => ?_⟩
    rcases inevitable_bind inevitable with promised | ⟨value, promised⟩
    · exact ((first answer).2 key promised).imp (·.first rest) id
    · exact .inl (.inr fun other => Inevitable.rest (uniform key value · promised) (next other))
  | call target next ih => exact ih first

/-- A sequence of texts without promises is one. -/
theorem Unpromised.bind {program : Program Op Answer Call α} {rest : α → Program Op Answer Call β}
    (first : program.Unpromised kind grounds)
    (later : ∀ value, (rest value).Unpromised kind grounds) :
    (program >>= rest).Unpromised kind grounds := by
  refine ⟨first.grounded.bind (fun value => (later value).grounded)
    fun key value _ promised => absurd promised ((later value).free key), fun key promised => ?_⟩
  rcases inevitable_bind promised with early | ⟨value, late⟩
  · exact first.free key early
  · exact (later value).free key late

/-- Returning promises nothing. -/
theorem unpromised_done (value : α) :
    (.done value : Program Op Answer Call α).Unpromised kind grounds := ⟨trivial, fun _ => id⟩

/-- A call promises what comes after it. -/
theorem unpromised_call {target : Call} {next : Program Op Answer Call α} :
    (Program.call target next).Unpromised kind grounds ↔ next.Unpromised kind grounds :=
  ⟨fun unpromised => ⟨unpromised.grounded, unpromised.free⟩,
    fun unpromised => ⟨unpromised.grounded, unpromised.free⟩⟩

/-- An operation of no kind promises nothing when nothing is promised after some answer, and every
promise after an answer has a ground there. -/
theorem unpromised_perform {op : Op} {next : Answer op → Program Op Answer Call α}
    (other : ∀ key, ¬kind key op) (later : ∀ answer, (next answer).Grounded kind grounds)
    (ground : ∀ answer key, (next answer).Inevitable (kind key) → grounds op answer key)
    (avoids : ∃ answer, ∀ key, ¬(next answer).Inevitable (kind key)) :
    (Program.perform op next).Unpromised kind grounds := by
  refine ⟨fun answer => ⟨later answer, fun key promised => .inr (ground answer key promised)⟩, ?_⟩
  obtain ⟨answer, avoided⟩ := avoids
  rintro key (here | always)
  · exact other key here
  · exact avoided key (always answer)

/-- An operation of no kind, after which nothing is promised, promises nothing. -/
theorem unpromised_perform_of_later [∀ op, Nonempty (Answer op)] {op : Op}
    {next : Answer op → Program Op Answer Call α} (other : ∀ key, ¬kind key op)
    (later : ∀ answer, (next answer).Unpromised kind grounds) :
    (Program.perform op next).Unpromised kind grounds :=
  unpromised_perform other (fun answer => (later answer).grounded)
    (fun answer key promised => absurd promised ((later answer).free key))
    ⟨Classical.choice inferInstance, (later _).free⟩

/-- A text without operations of any kind promises nothing. -/
theorem Only.unpromised [∀ op, Nonempty (Answer op)] {program : Program Op Answer Call α}
    (only : program.Only fun op => ∀ key, ¬kind key op) : program.Unpromised kind grounds := by
  induction program with
  | done value => exact unpromised_done value
  | perform op next ih => exact unpromised_perform_of_later only.1 fun answer => ih answer (only.2 answer)
  | call target next ih => exact unpromised_call.mpr (ih only)

end

section

variable {allowed last : Op → Prop}

/-- Every operation in the text is allowed, or is a last one after which nothing is left. -/
def Closes (allowed last : Op → Prop) : Program Op Answer Call α → Prop
  | .done _ => True
  | .perform op next => (allowed op ∧ ∀ answer, (next answer).Closes allowed last) ∨
      (last op ∧ ∀ answer, ∃ value, next answer = .done value)
  | .call _ next => next.Closes allowed last

/-- A text of allowed operations has nothing to close. -/
theorem Only.closes {program : Program Op Answer Call α} (only : program.Only allowed) :
    program.Closes allowed last := by
  induction program with
  | done value => trivial
  | perform op next ih => exact .inl ⟨only.1, fun answer => ih answer (only.2 answer)⟩
  | call target next ih => exact ih only

/-- Allowed operations can come before a text that closes. -/
theorem Only.closes_bind {program : Program Op Answer Call α} {rest : α → Program Op Answer Call β}
    (only : program.Only allowed) (later : ∀ value, (rest value).Closes allowed last) :
    (program >>= rest).Closes allowed last := by
  induction program with
  | done value => exact later value
  | perform op next ih => exact .inl ⟨only.1, fun answer => ih answer (only.2 answer)⟩
  | call target next ih => exact ih only

end

section

variable {kind own : Op → Prop} {must : Prop}

/-- Whatever the answers are, the text performs at most one operation of the kind, one of its own, and
exactly one if it must. Bodies of called procedures are not part of the text. -/
def Once (kind own : Op → Prop) (must : Prop) : Program Op Answer Call α → Prop
  | .done _ => ¬must
  | .perform op next => (own op ∧ ∀ answer, (next answer).Only fun op => ¬kind op) ∨
      (¬kind op ∧ ∀ answer, (next answer).Once kind own must)
  | .call _ next => next.Once kind own must

/-- A text without operations of the kind performs at most one. -/
theorem Only.once {program : Program Op Answer Call α} (only : program.Only fun op => ¬kind op)
    (may : ¬must) : program.Once kind own must := by
  induction program with
  | done value => exact may
  | perform op next ih => exact .inr ⟨only.1, fun answer => ih answer (only.2 answer)⟩
  | call target next ih => exact ih only

/-- Other operations can come before the one. -/
theorem Only.once_bind {program : Program Op Answer Call α} {rest : α → Program Op Answer Call β}
    (only : program.Only fun op => ¬kind op) (later : ∀ value, (rest value).Once kind own must) :
    (program >>= rest).Once kind own must := by
  induction program with
  | done value => exact later value
  | perform op next ih => exact .inr ⟨only.1, fun answer => ih answer (only.2 answer)⟩
  | call target next ih => exact ih only

/-- Other operations can come after the one. -/
theorem Once.bind {program : Program Op Answer Call α} {rest : α → Program Op Answer Call β}
    (once : program.Once kind own must)
    (later : ∀ value, (rest value).Only fun op => ¬kind op) :
    (program >>= rest).Once kind own must := by
  induction program with
  | done value => exact (later value).once once
  | perform op next ih =>
    rcases once with ⟨here, rest⟩ | ⟨other, next⟩
    · exact .inl ⟨here, fun answer => only_bind (rest answer) later⟩
    · exact .inr ⟨other, fun answer => ih answer (next answer)⟩
  | call target next ih => exact ih once

/-- A run of such a text, when called procedures perform no operation of the kind. -/
theorem Runs.once {σ : Type} {sem : Semantics Op Answer Call σ}
    (bodies : ∀ target, (sem.body target).Only fun op => ¬kind op)
    {program : Program Op Answer Call α} (once : program.Once kind own must)
    {machine final : Machine Op Answer σ} {value : α} (ran : Runs sem program machine value final) :
    ∃ front middle back, final.trace = machine.trace ++ (front ++ middle ++ back) ∧
      (∀ event ∈ front, ¬kind event.op) ∧ (∀ event ∈ back, ¬kind event.op) ∧
      (middle = [] ∧ ¬must ∨ ∃ event, middle = [event] ∧ own event.op) := by
  induction program generalizing machine with
  | done value =>
    obtain ⟨_, rfl⟩ := (runs_done sem value _ machine final).mp ran
    exact ⟨[], [], [], by simp, by simp, by simp, .inl ⟨rfl, once⟩⟩
  | perform op next ih =>
    have appended : (machine.after sem op).trace =
        machine.trace ++ [⟨op, machine.answer sem op⟩] := rfl
    rcases once with ⟨here, rest⟩ | ⟨other, later⟩
    · obtain ⟨back, whole, others⟩ := Runs.performed bodies (rest _) ran
      exact ⟨[], [⟨op, machine.answer sem op⟩], back, by rw [whole, appended]; simp, by simp, others,
        .inr ⟨_, rfl, here⟩⟩
    · obtain ⟨front, middle, back, whole, before, after, one⟩ := ih _ (later _) ran
      refine ⟨⟨op, machine.answer sem op⟩ :: front, middle, back, by rw [whole, appended]; simp, ?_,
        after, one⟩
      exact List.forall_mem_cons.mpr ⟨other, before⟩
  | call target next ih =>
    obtain ⟨between, called, rest⟩ := (runs_call sem target next machine final value).mp ran
    obtain ⟨early, first, others⟩ := Runs.performed bodies (bodies target) called
    obtain ⟨front, middle, back, whole, before, after, one⟩ := ih once rest
    refine ⟨early ++ front, middle, back, by rw [whole, first]; simp, ?_, after, one⟩
    exact List.forall_mem_append.mpr ⟨others, before⟩

end

/-! ## Permissions -/

section

variable {owns : Call → Op → Prop} {permits : (op : Op) → Answer op → Call → Prop}
  {granted : Call → Prop}

/-- Each call in the text, and each operation that belongs to a procedure, has a permission: it was
granted before, or an answer has given it. -/
def Permitted (owns : Call → Op → Prop) (permits : (op : Op) → Answer op → Call → Prop) :
    (Call → Prop) → Program Op Answer Call α → Prop
  | _, .done _ => True
  | granted, .perform op next => (∀ target, owns target op → granted target) ∧
      ∀ answer, (next answer).Permitted owns permits fun target =>
        granted target ∨ permits op answer target
  | granted, .call target next => granted target ∧ next.Permitted owns permits granted

/-- The operations of procedures were permitted: it was granted before, or an answer has given it. -/
def Explained (owns : Call → Op → Prop) (permits : (op : Op) → Answer op → Call → Prop)
    (granted : Call → Prop) (events : List (Event Op Answer)) : Prop :=
  ∀ event ∈ events, ∀ target, owns target event.op →
    granted target ∨ ∃ other ∈ events, permits other.op other.answer target

/-- More may be granted. -/
theorem Permitted.mono {granted' : Call → Prop} {program : Program Op Answer Call α}
    (permitted : program.Permitted owns permits granted)
    (more : ∀ target, granted target → granted' target) :
    program.Permitted owns permits granted' := by
  induction program generalizing granted granted' with
  | done value => trivial
  | perform op next ih =>
    exact ⟨fun target own => more target (permitted.1 target own), fun answer =>
      ih answer (permitted.2 answer) fun target => Or.imp_left (more target)⟩
  | call target next ih => exact ⟨more target permitted.1, ih permitted.2 more⟩

/-- A sequence is permitted when its parts are. -/
theorem Permitted.bind {program : Program Op Answer Call α} {rest : α → Program Op Answer Call β}
    (first : program.Permitted owns permits granted)
    (later : ∀ value, (rest value).Permitted owns permits granted) :
    (program >>= rest).Permitted owns permits granted := by
  induction program generalizing granted with
  | done value => exact later value
  | perform op next ih =>
    exact ⟨first.1, fun answer => ih answer (first.2 answer) fun value =>
      (later value).mono fun _ => .inl⟩
  | call target next ih => exact ⟨first.1, ih first.2 later⟩

variable {σ : Type} {sem : Semantics Op Answer Call σ}

/-- The operations of a permitted program are explained when those of the procedures it calls are. -/
theorem Permitted.runWith {callee : Call → Machine Op Answer σ → Option (Machine Op Answer σ)}
    (calls : ∀ target machine final, callee target machine = some final → ∃ events,
      final.trace = machine.trace ++ events ∧ Explained owns permits (· = target) events)
    {program : Program Op Answer Call α} (permitted : program.Permitted owns permits granted)
    {machine final : Machine Op Answer σ} {value : α}
    (ran : program.runWith sem callee machine = some (value, final)) : ∃ events,
      final.trace = machine.trace ++ events ∧ Explained owns permits granted events := by
  induction program generalizing granted machine with
  | done value =>
    cases ran
    exact ⟨[], (List.append_nil _).symm, fun _ member => absurd member List.not_mem_nil⟩
  | perform op next ih =>
    obtain ⟨events, whole, explained⟩ := ih _ (permitted.2 _) ran
    refine ⟨⟨op, machine.answer sem op⟩ :: events, by rw [whole, Machine.after]; simp, ?_⟩
    intro event member target own
    rcases List.mem_cons.mp member with rfl | later
    · exact .inl (permitted.1 target own)
    · rcases explained event later target own with (before | here) | ⟨other, found, gave⟩
      · exact .inl before
      · exact .inr ⟨_, List.mem_cons_self, here⟩
      · exact .inr ⟨other, List.mem_cons_of_mem _ found, gave⟩
  | call called next ih =>
    obtain ⟨middle, returned, rest⟩ := Option.bind_eq_some_iff.mp ran
    obtain ⟨early, first, inside⟩ := calls called machine middle returned
    obtain ⟨late, second, after⟩ := ih permitted.2 rest
    refine ⟨early ++ late, by rw [second, first, List.append_assoc], ?_⟩
    intro event member target own
    rcases List.mem_append.mp member with before | later
    · rcases inside event before target own with rfl | ⟨other, found, gave⟩
      · exact .inl permitted.1
      · exact .inr ⟨other, List.mem_append_left _ found, gave⟩
    · rcases after event later target own with before | ⟨other, found, gave⟩
      · exact .inl before
      · exact .inr ⟨other, List.mem_append_right _ found, gave⟩

/-- The operations of a called procedure are explained when it may do what it owns. -/
theorem permitted_runCall
    (bodies : ∀ target, (sem.body target).Permitted owns permits (· = target)) {depth : Nat}
    {target : Call} {machine final : Machine Op Answer σ}
    (returned : runCall sem depth target machine = some final) : ∃ events,
      final.trace = machine.trace ++ events ∧ Explained owns permits (· = target) events := by
  induction depth generalizing target machine final with
  | zero => simp [runCall] at returned
  | succ depth ih =>
    obtain ⟨⟨⟨⟩, reached⟩, inner, rfl⟩ := Option.map_eq_some_iff.mp returned
    exact (bodies target).runWith (fun _ _ _ => ih) inner

/-- The operations of a permitted program are explained. -/
theorem Runs.explained (bodies : ∀ target, (sem.body target).Permitted owns permits (· = target))
    {program : Program Op Answer Call α} (permitted : program.Permitted owns permits granted)
    {machine final : Machine Op Answer σ} {value : α} (ran : Runs sem program machine value final) :
    ∃ events, final.trace = machine.trace ++ events ∧ Explained owns permits granted events := by
  obtain ⟨_, ran⟩ := ran
  exact permitted.runWith (fun _ _ _ => permitted_runCall bodies) ran

end

end MultiUserChat.Program
