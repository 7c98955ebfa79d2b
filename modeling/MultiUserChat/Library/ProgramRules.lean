import MultiUserChat.Library.Program
/-!
# Rules for whole runs of a program

A run is a sequence of operations, whichever program chose them. What each operation keeps, the run
keeps (`Runs.relate`), and when the text of a program and of the procedures it may call contains
only operations of some kind (`Only`), only those need be examined. `Runs.preserves` and
`Runs.performed` are the two uses: an invariant of the state, and a bound on what the run did.
-/

namespace MultiUserChat.Program

variable {Op : Type} {Answer : Op → Type} {Call : Type} {σ : Type} {α β : Type}

/-- Every operation in the text of the program, under any answers, is allowed. Bodies of called
procedures are not part of the text. -/
def Only (allowed : Op → Prop) : Program Op Answer Call α → Prop
  | .done _ => True
  | .perform op next => allowed op ∧ ∀ answer, (next answer).Only allowed
  | .call _ next => next.Only allowed

@[simp]
theorem only_perform (allowed : Op → Prop) (op : Op) (next : Answer op → Program Op Answer Call α) :
    (Program.perform op next).Only allowed ↔ allowed op ∧ ∀ answer, (next answer).Only allowed :=
  Iff.rfl

@[simp]
theorem only_call (allowed : Op → Prop) (target : Call) (next : Program Op Answer Call α) :
    (Program.call target next).Only allowed ↔ next.Only allowed := Iff.rfl

/-- A sequence contains what its parts contain. -/
theorem only_bind {allowed : Op → Prop} {program : Program Op Answer Call α}
    {rest : α → Program Op Answer Call β} (first : program.Only allowed)
    (later : ∀ value, (rest value).Only allowed) : (program >>= rest).Only allowed := by
  induction program with
  | done value => exact later value
  | perform op next ih => exact ⟨first.1, fun answer => ih answer (first.2 answer)⟩
  | call target next ih => exact ih first

/-- A weaker predicate allows more. -/
theorem Only.weaken {allowed allowed' : Op → Prop} {program : Program Op Answer Call α}
    (only : program.Only allowed) (implies : ∀ op, allowed op → allowed' op) :
    program.Only allowed' := by
  induction program with
  | done value => trivial
  | perform op next ih => exact ⟨implies op only.1, fun answer => ih answer (only.2 answer)⟩
  | call target next ih => exact ih only

/-- Two predicates that each allow the text allow it together. -/
theorem Only.and {allowed allowed' : Op → Prop} {program : Program Op Answer Call α}
    (only : program.Only allowed) (only' : program.Only allowed') :
    program.Only fun op => allowed op ∧ allowed' op := by
  induction program with
  | done value => trivial
  | perform op next ih =>
    exact ⟨⟨only.1, only'.1⟩, fun answer => ih answer (only.2 answer) (only'.2 answer)⟩
  | call target next ih => exact ih only only'

/-- Anything is allowed when the predicate is always true. -/
theorem only_true (program : Program Op Answer Call α) : program.Only fun _ => True := by
  induction program with
  | done value => trivial
  | perform op next ih => exact ⟨trivial, ih⟩
  | call target next ih => exact ih

/-- A reflexive and transitive relation that holds across each allowed operation holds across a
run of allowed operations. -/
theorem Runs.relate {sem : Semantics Op Answer Call σ} {allowed : Op → Prop}
    (relation : Machine Op Answer σ → Machine Op Answer σ → Prop)
    (refl : ∀ machine, relation machine machine)
    (trans : ∀ first second third, relation first second → relation second third →
      relation first third)
    (step : ∀ op machine, allowed op → relation machine (machine.after sem op))
    (bodies : ∀ target, (sem.body target).Only allowed)
    {program : Program Op Answer Call α} (only : program.Only allowed)
    {machine final : Machine Op Answer σ} {value : α} (ran : Runs sem program machine value final) :
    relation machine final := by
  obtain ⟨depth, ran⟩ := ran
  -- The outer induction follows the nesting of calls, the inner one the text of one program.
  induction depth generalizing α program machine final with
  | zero =>
    induction program generalizing machine with
    | done value =>
      simp only [run, runWith, Option.some.injEq, Prod.mk.injEq] at ran
      exact ran.2 ▸ refl machine
    | perform op next ih =>
      exact trans _ _ _ (step op machine only.1) (ih _ (only.2 _) ran)
    | call target next ih => simp [run, runWith, runCall] at ran
  | succ depth outer =>
    induction program generalizing machine with
    | done value =>
      simp only [run, runWith, Option.some.injEq, Prod.mk.injEq] at ran
      exact ran.2 ▸ refl machine
    | perform op next ih =>
      exact trans _ _ _ (step op machine only.1) (ih _ (only.2 _) ran)
    | call target next ih =>
      simp only [run, runWith, runCall, Option.bind_eq_some_iff, Option.map_eq_some_iff] at ran
      obtain ⟨middle, ⟨⟨⟨⟩, reached⟩, inner, rfl⟩, rest⟩ := ran
      exact trans _ _ _ (outer (bodies target) inner) (ih only rest)

/-- An invariant that each allowed operation keeps is kept by a run of allowed operations. -/
theorem Runs.preserves {sem : Semantics Op Answer Call σ} {allowed : Op → Prop}
    (invariant : σ → Prop)
    (step : ∀ turn op state, allowed op → invariant state → invariant (sem.respond turn op state).2)
    (bodies : ∀ target, (sem.body target).Only allowed)
    {program : Program Op Answer Call α} (only : program.Only allowed)
    {machine final : Machine Op Answer σ} {value : α} (ran : Runs sem program machine value final)
    (holds : invariant machine.state) : invariant final.state :=
  ran.relate (fun first second => invariant first.state → invariant second.state)
    (fun _ => id) (fun _ _ _ first second => second ∘ first)
    (fun op _ permitted => step _ op _ permitted) bodies only holds

/-- A run only appends to the trace, and appends only allowed operations. -/
theorem Runs.performed {sem : Semantics Op Answer Call σ} {allowed : Op → Prop}
    (bodies : ∀ target, (sem.body target).Only allowed)
    {program : Program Op Answer Call α} (only : program.Only allowed)
    {machine final : Machine Op Answer σ} {value : α} (ran : Runs sem program machine value final) :
    ∃ events, final.trace = machine.trace ++ events ∧ ∀ event ∈ events, allowed event.op := by
  refine ran.relate (fun first second => ∃ events : List (Event Op Answer),
    second.trace = first.trace ++ events ∧ ∀ event ∈ events, allowed event.op)
    (fun machine => ⟨[], by simp⟩) ?_ ?_ bodies only
  · rintro first second third ⟨early, earlyEq, earlyAllowed⟩ ⟨late, lateEq, lateAllowed⟩
    refine ⟨early ++ late, by rw [lateEq, earlyEq, List.append_assoc], ?_⟩
    intro event member
    exact (List.mem_append.mp member).elim (earlyAllowed event) (lateAllowed event)
  · intro op machine permitted
    exact ⟨[⟨op, machine.answer sem op⟩], rfl, by simpa using permitted⟩

/-- An invariant that each allowed operation and each called procedure keeps is kept by a run. -/
theorem Runs.maintains {sem : Semantics Op Answer Call σ} {allowed : Op → Prop}
    (invariant : σ → Prop)
    (step : ∀ turn op state, allowed op → invariant state → invariant (sem.respond turn op state).2)
    (calls : ∀ target (machine final : Machine Op Answer σ),
      Runs sem (sem.body target) machine () final → invariant machine.state → invariant final.state)
    {program : Program Op Answer Call α} (only : program.Only allowed)
    {machine final : Machine Op Answer σ} {value : α} (ran : Runs sem program machine value final)
    (holds : invariant machine.state) : invariant final.state := by
  induction program generalizing machine with
  | done value =>
    obtain ⟨_, rfl⟩ := (runs_done sem value _ machine final).mp ran
    exact holds
  | perform op next ih => exact ih _ (only.2 _) ran (step _ op _ only.1 holds)
  | call target next ih =>
    obtain ⟨middle, called, rest⟩ := (runs_call sem target next machine final value).mp ran
    exact ih only rest (calls target machine middle called holds)

/-- The rule of termination: when called procedures return at some depth, related to where they
start, a program that calls them returns at that depth too. `good` is what the starts need. -/
theorem run_relate {sem : Semantics Op Answer Call σ} {allowed : Op → Prop} (depth : Nat)
    (relation : σ → σ → Prop) (good : σ → Prop) (refl : ∀ state, good state → relation state state)
    (trans : ∀ first second third, relation first second → relation second third →
      relation first third)
    (carry : ∀ first second, good first → relation first second → good second)
    (step : ∀ turn op state, allowed op → good state → relation state (sem.respond turn op state).2)
    (calls : ∀ target machine, good machine.state → ∃ final,
      runCall sem depth target machine = some final ∧ relation machine.state final.state)
    {program : Program Op Answer Call α} (only : program.Only allowed)
    {machine : Machine Op Answer σ} (holds : good machine.state) :
    ∃ value final, run sem depth program machine = some (value, final) ∧
      relation machine.state final.state := by
  induction program generalizing machine with
  | done value => exact ⟨value, machine, rfl, refl _ holds⟩
  | perform op next ih =>
    have here : relation machine.state (machine.after sem op).state := step _ op _ only.1 holds
    obtain ⟨value, final, ran, later⟩ :=
      ih (machine.answer sem op) (only.2 _) (carry _ _ holds here)
    exact ⟨value, final, ran, trans _ _ _ here later⟩
  | call target next ih =>
    obtain ⟨middle, called, here⟩ := calls target machine holds
    obtain ⟨value, final, ran, later⟩ := ih only (carry _ _ holds here)
    refine ⟨value, final, ?_, trans _ _ _ here later⟩
    rw [run, runWith, called]
    exact ran

/-! ## The calls of a run -/

/-- The run of the program makes a call, which starts on the second machine. The calls that bodies
make are not among them. -/
inductive Makes (sem : Semantics Op Answer Call σ) :
    Program Op Answer Call α → Machine Op Answer σ → Call → Machine Op Answer σ → Prop
  | perform {op : Op} {next : Answer op → Program Op Answer Call α} {machine start : Machine Op Answer σ}
      {target : Call}
      (rest : Makes sem (next (machine.answer sem op)) (machine.after sem op) target start) :
      Makes sem (.perform op next) machine target start
  | here {target : Call} {next : Program Op Answer Call α} {machine : Machine Op Answer σ} :
      Makes sem (.call target next) machine target machine
  | later {other target : Call} {next : Program Op Answer Call α}
      {machine middle start : Machine Op Answer σ}
      (called : Runs sem (sem.body other) machine () middle) (rest : Makes sem next middle target start) :
      Makes sem (.call other next) machine target start

/-- An invariant that each allowed operation and each called procedure keeps holds where a call
starts. -/
theorem Makes.maintains {sem : Semantics Op Answer Call σ} {allowed : Op → Prop}
    (invariant : σ → Prop)
    (step : ∀ turn op state, allowed op → invariant state → invariant (sem.respond turn op state).2)
    (calls : ∀ target (machine final : Machine Op Answer σ),
      Runs sem (sem.body target) machine () final → invariant machine.state → invariant final.state)
    {program : Program Op Answer Call α} (only : program.Only allowed)
    {machine start : Machine Op Answer σ} {target : Call} (makes : Makes sem program machine target start)
    (holds : invariant machine.state) : invariant start.state := by
  induction makes with
  | perform rest ih => exact ih (only.2 _) (step _ _ _ only.1 holds)
  | here => exact holds
  | later called rest ih => exact ih only (calls _ _ _ called holds)

/-! ## What remains when a call returns -/

/-- The program runs from the first machine to the second, and each time a call returns, the text
that remains is acceptable in the state that was reached. -/
inductive Resumes (sem : Semantics Op Answer Call σ)
    (acceptable : σ → Program Op Answer Call Unit → Prop) :
    Program Op Answer Call Unit → Machine Op Answer σ → Machine Op Answer σ → Prop
  | done {machine : Machine Op Answer σ} : Resumes sem acceptable (.done ()) machine machine
  | perform {op : Op} {next : Answer op → Program Op Answer Call Unit}
      {machine final : Machine Op Answer σ}
      (rest : Resumes sem acceptable (next (machine.answer sem op)) (machine.after sem op) final) :
      Resumes sem acceptable (.perform op next) machine final
  | call {target : Call} {next : Program Op Answer Call Unit}
      {machine middle final : Machine Op Answer σ}
      (body : Resumes sem acceptable (sem.body target) machine middle)
      (resumed : acceptable middle.state next) (rest : Resumes sem acceptable next middle final) :
      Resumes sem acceptable (.call target next) machine final

/-- A run that resumes acceptably is a run. -/
theorem Resumes.runs {sem : Semantics Op Answer Call σ}
    {acceptable : σ → Program Op Answer Call Unit → Prop} {program : Program Op Answer Call Unit}
    {machine final : Machine Op Answer σ} (resumes : Resumes sem acceptable program machine final) :
    Runs sem program machine () final := by
  induction resumes with
  | done => exact (runs_done _ _ _ _ _).mpr ⟨rfl, rfl⟩
  | perform rest ih => exact (runs_perform _ _ _ _ _ _).mpr ih
  | call body resumed rest ihBody ihRest =>
    exact (runs_call _ _ _ _ _ _).mpr ⟨_, ihBody, ihRest⟩

/-- A run without calls has nothing to resume. -/
theorem Resumes.of_run_zero {sem : Semantics Op Answer Call σ}
    (acceptable : σ → Program Op Answer Call Unit → Prop) {program : Program Op Answer Call Unit}
    {machine final : Machine Op Answer σ} (ran : run sem 0 program machine = some ((), final)) :
    Resumes sem acceptable program machine final := by
  induction program generalizing machine with
  | done value =>
    cases ran
    exact .done
  | perform op next ih => exact .perform (ih _ ran)
  | call target next ih => simp [run, runWith, runCall] at ran

/-- Run a program whose calls come last. -/
def runLast (sem : Semantics Op Answer Call σ)
    (runs : Call → Machine Op Answer σ → Option (Machine Op Answer σ)) :
    Program Op Answer Call Unit → Machine Op Answer σ → Option (Machine Op Answer σ)
  | .done (), machine => some machine
  | .perform op next, machine =>
    runLast sem runs (next (machine.answer sem op)) (machine.after sem op)
  | .call target (.done ()), machine => runs target machine
  | .call _ _, _ => none

/-- Run a procedure whose calls come last, with at most the given nesting. -/
def runLastCall (sem : Semantics Op Answer Call σ) :
    Nat → Call → Machine Op Answer σ → Option (Machine Op Answer σ)
  | 0, _, _ => none
  | depth + 1, target, machine => runLast sem (runLastCall sem depth) (sem.body target) machine

/-- Nothing remains when a call returns that comes last. -/
theorem Resumes.of_runLast {sem : Semantics Op Answer Call σ}
    {acceptable : σ → Program Op Answer Call Unit → Prop} (nothing : ∀ state, acceptable state (.done ()))
    {runs : Call → Machine Op Answer σ → Option (Machine Op Answer σ)}
    (bodies : ∀ target machine final, runs target machine = some final →
      Resumes sem acceptable (sem.body target) machine final)
    {program : Program Op Answer Call Unit} {machine final : Machine Op Answer σ}
    (ran : runLast sem runs program machine = some final) : Resumes sem acceptable program machine final := by
  fun_induction runLast sem runs program machine with
  | case1 machine =>
    cases ran
    exact .done
  | case2 op next machine ih => exact .perform (ih ran)
  | case3 target machine => exact .call (bodies target machine final ran) (nothing _) .done
  | case4 => contradiction

/-- Nothing remains when a procedure returns whose calls come last. -/
theorem Resumes.of_runLastCall {sem : Semantics Op Answer Call σ}
    {acceptable : σ → Program Op Answer Call Unit → Prop} (nothing : ∀ state, acceptable state (.done ()))
    (depth : Nat) (target : Call) (machine final : Machine Op Answer σ)
    (ran : runLastCall sem depth target machine = some final) :
    Resumes sem acceptable (sem.body target) machine final := by
  induction depth generalizing target machine final with
  | zero => contradiction
  | succ depth ih => exact .of_runLast nothing ih ran

end MultiUserChat.Program
