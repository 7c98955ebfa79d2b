import MultiUserChat.Library.ProgramText
/-!
# Programs that make notes

A note is an operation that answers nothing and changes nothing; it marks what the code does between
two operations. `erase` takes the notes out again, so a text with notes is a text without them that
says more, and `unnoted` is the text that says nothing more.
-/

namespace MultiUserChat

/-- An operation, or a note. -/
inductive Noted (ν Op : Type)
  | note (note : ν)
  | operation (op : Op)

/-- What an operation with notes returns. -/
@[reducible]
def NotedAnswer {Op : Type} (ν : Type) (Answer : Op → Type) : Noted ν Op → Type
  | .note _ => Unit
  | .operation op => Answer op

namespace Program

variable {ν Op : Type} {Answer : Op → Type} {Call : Type} {α β : Type}

/-- A note. -/
def note (note : ν) : Program (Noted ν Op) (NotedAnswer ν Answer) Call Unit :=
  .perform (.note note) .done

/-- A text without notes. -/
def unnoted : Program Op Answer Call α → Program (Noted ν Op) (NotedAnswer ν Answer) Call α
  | .done value => .done value
  | .perform op next => .perform (.operation op) fun answer => (next answer).unnoted
  | .call target next => .call target next.unnoted

/-- The text without its notes. -/
def erase : Program (Noted ν Op) (NotedAnswer ν Answer) Call α → Program Op Answer Call α
  | .done value => .done value
  | .perform (.note _) next => (next ()).erase
  | .perform (.operation op) next => .perform op fun answer => (next answer).erase
  | .call target next => .call target next.erase

/-- There is nothing to take out of a text without notes. -/
@[simp]
theorem erase_unnoted (program : Program Op Answer Call α) :
    (program.unnoted : Program (Noted ν Op) (NotedAnswer ν Answer) Call α).erase = program := by
  induction program with
  | done value => rfl
  | perform op next ih => simp only [unnoted, erase, ih]
  | call target next ih => simp only [unnoted, erase, ih]

/-- Notes are taken out of the parts of a sequence. -/
@[simp]
theorem erase_bind (program : Program (Noted ν Op) (NotedAnswer ν Answer) Call α)
    (rest : α → Program (Noted ν Op) (NotedAnswer ν Answer) Call β) :
    (program >>= rest).erase = program.erase >>= fun value => (rest value).erase := by
  induction program with
  | done value => rfl
  | perform op next ih =>
    cases op with
    | note note => exact ih ()
    | operation op => exact congrArg (Program.perform op) (funext fun answer => ih answer)
  | call target next ih => exact congrArg (Program.call target) ih

/-- A note in front is taken out. -/
@[simp]
theorem erase_note_bind (mark : ν)
    (rest : Unit → Program (Noted ν Op) (NotedAnswer ν Answer) Call β) :
    (note mark >>= rest).erase = (rest ()).erase := rfl

/-- Every note in the text satisfies the predicate. -/
def Notes (allowed : ν → Prop) (program : Program (Noted ν Op) (NotedAnswer ν Answer) Call α) :
    Prop :=
  program.Only fun
    | .note note => allowed note
    | .operation _ => True

/-- Whatever the answers are, the text that is left makes a note of this kind. -/
def Marks (kind : ν → Prop) (program : Program (Noted ν Op) (NotedAnswer ν Answer) Call α) : Prop :=
  program.Inevitable fun
    | .note note => kind note
    | .operation _ => False

/-- A text without notes has only allowed ones. -/
theorem notes_unnoted (allowed : ν → Prop) (program : Program Op Answer Call α) :
    (program.unnoted : Program (Noted ν Op) (NotedAnswer ν Answer) Call α).Notes allowed := by
  induction program with
  | done value => trivial
  | perform op next ih => exact ⟨trivial, ih⟩
  | call target next ih => exact ih

/-- A sequence has the notes of its parts. -/
theorem Notes.bind {allowed : ν → Prop}
    {program : Program (Noted ν Op) (NotedAnswer ν Answer) Call α}
    {rest : α → Program (Noted ν Op) (NotedAnswer ν Answer) Call β} (first : program.Notes allowed)
    (later : ∀ value, (rest value).Notes allowed) : (program >>= rest).Notes allowed :=
  only_bind first later

/-- A note in front of a text. -/
@[simp]
theorem notes_note_bind {allowed : ν → Prop} {mark : ν}
    {rest : Unit → Program (Noted ν Op) (NotedAnswer ν Answer) Call β} :
    (note mark >>= rest).Notes allowed ↔ allowed mark ∧ (rest ()).Notes allowed :=
  ⟨fun notes => ⟨notes.1, notes.2 ()⟩, fun notes => ⟨notes.1, fun _ => notes.2⟩⟩

end Program

end MultiUserChat
