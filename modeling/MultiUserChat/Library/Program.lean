import Mathlib.Data.List.Basic
/-!
# Programs over atomic operations

A `Program` is code seen as a tree: perform an atomic operation and continue with its answer, call
a procedure, or return. The tree says nothing about what an operation does, so one text serves both
a run by itself (`run`, here) and any interleaving with other programs.

Calls name procedures whose bodies are given separately and may call each other without bound. `run`
therefore takes a call depth; `Runs` says that some depth is enough, which is termination together
with the result, and its rules hide the depth again.
-/

namespace MultiUserChat

/-- Code over operations `Op`, answered in `Answer`, with calls to procedures named by `Call`. -/
inductive Program (Op : Type) (Answer : Op → Type) (Call : Type) (α : Type) : Type
  | done (value : α)
  | perform (op : Op) (next : Answer op → Program Op Answer Call α)
  | call (target : Call) (next : Program Op Answer Call α)

namespace Program

variable {Op : Type} {Answer : Op → Type} {Call : Type} {α β γ : Type}

/-- Continue with a program once the first one has returned. -/
def bind (program : Program Op Answer Call α) (rest : α → Program Op Answer Call β) :
    Program Op Answer Call β :=
  match program with
  | .done value => rest value
  | .perform op next => .perform op fun answer => (next answer).bind rest
  | .call target next => .call target (next.bind rest)

instance : Monad (Program Op Answer Call) where
  pure := .done
  bind := Program.bind

@[simp]
theorem pure_eq (value : α) : (pure value : Program Op Answer Call α) = .done value := rfl

@[simp]
theorem done_bind (value : α) (rest : α → Program Op Answer Call β) :
    (done value >>= rest) = rest value := rfl

@[simp]
theorem perform_bind (op : Op) (next : Answer op → Program Op Answer Call α)
    (rest : α → Program Op Answer Call β) :
    (perform op next >>= rest) = perform op fun answer => next answer >>= rest := rfl

@[simp]
theorem call_bind (target : Call) (next : Program Op Answer Call α)
    (rest : α → Program Op Answer Call β) :
    (call target next >>= rest) = call target (next >>= rest) := rfl

/-- Returning last adds nothing. -/
theorem bind_done (program : Program Op Answer Call α) : program.bind .done = program := by
  induction program with
  | done value => rfl
  | perform op next ih => simp only [bind, ih]
  | call target next ih => simp only [bind, ih]

/-- Sequencing is associative. -/
theorem bind_assoc (program : Program Op Answer Call α) (second : α → Program Op Answer Call β)
    (third : β → Program Op Answer Call γ) :
    (program.bind second).bind third = program.bind fun value => (second value).bind third := by
  induction program with
  | done value => rfl
  | perform op next ih => simp only [bind, ih]
  | call target next ih => simp only [bind, ih]

instance : LawfulMonad (Program Op Answer Call) :=
  LawfulMonad.mk' _ bind_done (fun _ _ => rfl) bind_assoc

end Program

/-! ## Running a program by itself -/

/-- One operation that was performed, with the answer it got. -/
structure Event (Op : Type) (Answer : Op → Type) where
  /-- The operation. -/
  op : Op
  /-- What it returned. -/
  answer : Answer op

/-- A shared state with everything performed on it so far, oldest first. -/
structure Machine (Op : Type) (Answer : Op → Type) (σ : Type) where
  /-- The state the operations act on. -/
  state : σ
  /-- The operations performed so far. -/
  trace : List (Event Op Answer)

/-- The meaning of operations and procedures. The answer may depend on how many operations came
before it, which is how an environment that is free to choose enters. -/
structure Semantics (Op : Type) (Answer : Op → Type) (Call : Type) (σ : Type) where
  /-- What the n-th operation answers and how it changes the state. -/
  respond : Nat → (op : Op) → σ → Answer op × σ
  /-- The bodies of the procedures. -/
  body : Call → Program Op Answer Call Unit

namespace Machine

variable {Op : Type} {Answer : Op → Type} {Call : Type} {σ : Type}

/-- The answer an operation gets from a machine. -/
def answer (sem : Semantics Op Answer Call σ) (op : Op) (machine : Machine Op Answer σ) :
    Answer op :=
  (sem.respond machine.trace.length op machine.state).1

/-- The machine after an operation. -/
def after (sem : Semantics Op Answer Call σ) (op : Op) (machine : Machine Op Answer σ) :
    Machine Op Answer σ where
  state := (sem.respond machine.trace.length op machine.state).2
  trace := machine.trace ++ [⟨op, machine.answer sem op⟩]

end Machine

namespace Program

variable {Op : Type} {Answer : Op → Type} {Call : Type} {σ : Type} {α β : Type}

/-- Run a program on a machine, given how its calls run. -/
def runWith (sem : Semantics Op Answer Call σ)
    (callee : Call → Machine Op Answer σ → Option (Machine Op Answer σ)) :
    Program Op Answer Call α → Machine Op Answer σ → Option (α × Machine Op Answer σ)
  | .done value, machine => some (value, machine)
  | .perform op next, machine =>
    (next (machine.answer sem op)).runWith sem callee (machine.after sem op)
  | .call target next, machine => (callee target machine).bind (next.runWith sem callee)

/-- Run a procedure whose calls nest at most the given number of levels. -/
def runCall (sem : Semantics Op Answer Call σ) :
    Nat → Call → Machine Op Answer σ → Option (Machine Op Answer σ)
  | 0, _, _ => none
  | depth + 1, target, machine =>
    ((sem.body target).runWith sem (runCall sem depth) machine).map Prod.snd

/-- Run a program whose calls nest at most the given number of levels. -/
def run (sem : Semantics Op Answer Call σ) (depth : Nat) (program : Program Op Answer Call α) :
    Machine Op Answer σ → Option (α × Machine Op Answer σ) :=
  program.runWith sem (runCall sem depth)

@[simp]
theorem run_perform (sem : Semantics Op Answer Call σ) (depth : Nat) (op : Op)
    (next : Answer op → Program Op Answer Call α) (machine : Machine Op Answer σ) :
    run sem depth (.perform op next) machine =
      run sem depth (next (machine.answer sem op)) (machine.after sem op) := rfl

/-- A callee that returns more often makes a program return more often, with the same result. -/
theorem runWith_mono (sem : Semantics Op Answer Call σ)
    {less more : Call → Machine Op Answer σ → Option (Machine Op Answer σ)}
    (extends_ : ∀ target machine result, less target machine = some result →
      more target machine = some result)
    (program : Program Op Answer Call α) (machine : Machine Op Answer σ)
    (result : α × Machine Op Answer σ) (ran : program.runWith sem less machine = some result) :
    program.runWith sem more machine = some result := by
  induction program generalizing machine with
  | done value => exact ran
  | perform op next ih => exact ih _ _ ran
  | call target next ih =>
    simp only [runWith, Option.bind_eq_some_iff] at ran ⊢
    obtain ⟨middle, called, rest⟩ := ran
    exact ⟨middle, extends_ _ _ _ called, ih _ rest⟩

/-- One more level of calls changes no result. -/
theorem runCall_succ (sem : Semantics Op Answer Call σ) (depth : Nat) (target : Call)
    (machine result : Machine Op Answer σ)
    (ran : runCall sem depth target machine = some result) :
    runCall sem (depth + 1) target machine = some result := by
  induction depth generalizing target machine result with
  | zero => simp [runCall] at ran
  | succ depth ih =>
    simp only [runCall, Option.map_eq_some_iff] at ran ⊢
    obtain ⟨outcome, inner, rfl⟩ := ran
    exact ⟨outcome, runWith_mono sem ih _ _ _ inner, rfl⟩

/-- A greater depth changes no result of a call. -/
theorem runCall_mono (sem : Semantics Op Answer Call σ) {depth deeper : Nat}
    (bound : depth ≤ deeper) (target : Call) (machine result : Machine Op Answer σ)
    (ran : runCall sem depth target machine = some result) :
    runCall sem deeper target machine = some result := by
  induction bound with
  | refl => exact ran
  | step _ ih => exact runCall_succ sem _ target machine result ih

/-- A greater depth changes no result. -/
theorem run_mono (sem : Semantics Op Answer Call σ) {depth deeper : Nat} (bound : depth ≤ deeper)
    (program : Program Op Answer Call α) (machine : Machine Op Answer σ)
    (result : α × Machine Op Answer σ) (ran : run sem depth program machine = some result) :
    run sem deeper program machine = some result :=
  runWith_mono sem (runCall_mono sem bound) program machine result ran

/-- The program returns the value and leaves the machine, at some depth. -/
def Runs (sem : Semantics Op Answer Call σ) (program : Program Op Answer Call α)
    (machine : Machine Op Answer σ) (value : α) (final : Machine Op Answer σ) : Prop :=
  ∃ depth, run sem depth program machine = some (value, final)

/-- A program has one result: the depth only decides whether it is reached. -/
theorem Runs.unique {sem : Semantics Op Answer Call σ} {program : Program Op Answer Call α}
    {machine final final' : Machine Op Answer σ} {value value' : α}
    (first : Runs sem program machine value final)
    (second : Runs sem program machine value' final') : value = value' ∧ final = final' := by
  obtain ⟨depth, ran⟩ := first
  obtain ⟨depth', ran'⟩ := second
  have left := run_mono sem (Nat.le_max_left depth depth') _ _ _ ran
  have right := run_mono sem (Nat.le_max_right depth depth') _ _ _ ran'
  rw [left] at right
  simpa using right

@[simp]
theorem runs_done (sem : Semantics Op Answer Call σ) (value value' : α)
    (machine final : Machine Op Answer σ) :
    Runs sem (.done value) machine value' final ↔ value' = value ∧ final = machine := by
  simp [Runs, run, runWith, eq_comm]

@[simp]
theorem runs_perform (sem : Semantics Op Answer Call σ) (op : Op)
    (next : Answer op → Program Op Answer Call α) (machine final : Machine Op Answer σ)
    (value : α) :
    Runs sem (.perform op next) machine value final ↔
      Runs sem (next (machine.answer sem op)) (machine.after sem op) value final := Iff.rfl

/-- A call runs the body and then the rest. -/
theorem runs_call (sem : Semantics Op Answer Call σ) (target : Call)
    (next : Program Op Answer Call α) (machine final : Machine Op Answer σ) (value : α) :
    Runs sem (.call target next) machine value final ↔
      ∃ middle, Runs sem (sem.body target) machine () middle ∧ Runs sem next middle value final := by
  constructor
  · rintro ⟨depth, ran⟩
    simp only [run, runWith, Option.bind_eq_some_iff] at ran
    obtain ⟨middle, called, rest⟩ := ran
    cases depth with
    | zero => simp [runCall] at called
    | succ depth =>
      simp only [runCall, Option.map_eq_some_iff] at called
      obtain ⟨⟨⟨⟩, reached⟩, inner, rfl⟩ := called
      exact ⟨reached, ⟨depth, inner⟩, ⟨depth + 1, rest⟩⟩
  · rintro ⟨middle, ⟨depth, inner⟩, ⟨depth', rest⟩⟩
    refine ⟨max depth depth' + 1, ?_⟩
    have called : runCall sem (max depth depth' + 1) target machine = some middle := by
      simp only [runCall, Option.map_eq_some_iff]
      exact ⟨_, run_mono sem (Nat.le_max_left depth depth') _ _ _ inner, rfl⟩
    have bound : depth' ≤ max depth depth' + 1 := by omega
    simp only [run, runWith, called, Option.bind_some]
    exact run_mono sem bound _ _ _ rest

/-- A sequence runs its parts one after the other. -/
theorem runs_bind (sem : Semantics Op Answer Call σ) (program : Program Op Answer Call α)
    (rest : α → Program Op Answer Call β) (machine final : Machine Op Answer σ) (value : β) :
    Runs sem (program >>= rest) machine value final ↔
      ∃ first middle, Runs sem program machine first middle ∧
        Runs sem (rest first) middle value final := by
  induction program generalizing machine with
  | done first => simp
  | perform op next ih => simpa using ih _ _
  | call target next ih =>
    simp only [call_bind, runs_call, ih]
    constructor
    · rintro ⟨middle, called, first, later, inner, ran⟩
      exact ⟨first, later, ⟨middle, called, inner⟩, ran⟩
    · rintro ⟨first, later, ⟨middle, called, inner⟩, ran⟩
      exact ⟨middle, called, first, later, inner, ran⟩

end Program

end MultiUserChat
