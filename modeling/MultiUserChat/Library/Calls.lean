import Mathlib.Data.List.Infix
/-!
# Calls that do part of the work

A read or write call of an operating system may be interrupted, may fail, and otherwise moves some of
the bytes it was asked to move. Code that loops over such calls is run against a list of their
results; when the list is used up the code is still waiting in a call. A `Schedule` is an endless
supply of results in which no call fails and interruptions do not go on forever.
-/

namespace MultiUserChat

/-- What one call returns. -/
inductive CallResult
  /-- An interruption; nothing was moved. -/
  | interrupted
  /-- Another error. -/
  | failed
  /-- The call moves this many bytes, if it is asked for as many and there are as many. -/
  | moved (count : Nat)
deriving DecidableEq

/-- How far code that makes calls has come. -/
inductive Progress (α : Type)
  /-- It is waiting in a call. -/
  | blocked
  /-- It returned an error. -/
  | failed
  /-- It returned a value. -/
  | returned (value : α)
deriving DecidableEq

namespace Progress

variable {α β : Type}

/-- Go on with the value returned. -/
def bind (progress : Progress α) (next : α → Progress β) : Progress β :=
  match progress with
  | .blocked => .blocked
  | .failed => .failed
  | .returned value => next value

instance : Monad Progress where
  pure := .returned
  bind := Progress.bind

@[simp]
theorem returned_bind (value : α) (next : α → Progress β) :
    (returned value >>= next) = next value := rfl

@[simp]
theorem failed_bind (next : α → Progress β) : ((failed : Progress α) >>= next) = failed := rfl

@[simp]
theorem pure_eq (value : α) : (pure value : Progress α) = returned value := rfl

/-- A sequence returns when both parts do. -/
theorem bind_eq_returned {progress : Progress α} {next : α → Progress β} {value : β} :
    (progress >>= next) = returned value ↔
      ∃ first, progress = returned first ∧ next first = returned value := by
  cases progress <;> simp [Bind.bind, Progress.bind]

end Progress

namespace CallResult

/-- The call moves something when there is something to move. -/
def moves : CallResult → Bool
  | .moved count => decide (0 < count)
  | _ => false

/-- The call does not end the connection: it is interrupted or moves something. -/
def working : CallResult → Bool
  | .interrupted => true
  | result => result.moves

end CallResult

/-- Number of calls in a list that move something. -/
def effective (calls : List CallResult) : Nat := calls.countP CallResult.moves

@[simp]
theorem effective_nil : effective [] = 0 := rfl

@[simp]
theorem effective_interrupted (calls : List CallResult) :
    effective (.interrupted :: calls) = effective calls := by
  simp [effective, CallResult.moves]

/-- A call that moves something counts. -/
theorem effective_moved {count : Nat} (positive : 0 < count) (calls : List CallResult) :
    effective (.moved count :: calls) = effective calls + 1 := by
  simp [effective, CallResult.moves, positive]

@[simp]
theorem effective_append (calls later : List CallResult) :
    effective (calls ++ later) = effective calls + effective later := List.countP_append

/-- An endless supply of results of calls on a connection that works. -/
structure Schedule where
  /-- The result of each call. -/
  results : Nat → CallResult
  /-- No call fails or moves nothing. -/
  working : ∀ turn, (results turn).working = true
  /-- Interruptions do not go on forever. -/
  resumes : ∀ turn, ∃ later ≥ turn, (results later).moves = true

namespace Schedule

/-- The results of the first calls. -/
def first (schedule : Schedule) (calls : Nat) : List CallResult :=
  (List.range calls).map schedule.results

/-- All of them work. -/
theorem first_working (schedule : Schedule) (calls : Nat) :
    ∀ result ∈ schedule.first calls, result.working = true := by
  intro result member
  obtain ⟨turn, _, rfl⟩ := List.mem_map.mp member
  exact schedule.working turn

/-- One more call adds its result. -/
theorem first_succ (schedule : Schedule) (calls : Nat) :
    schedule.first (calls + 1) = schedule.first calls ++ [schedule.results calls] := by
  simp [first, List.range_succ]

/-- More calls move at least as often. -/
theorem effective_first_mono (schedule : Schedule) {calls calls' : Nat} (more : calls ≤ calls') :
    effective (schedule.first calls) ≤ effective (schedule.first calls') := by
  induction more with
  | refl => exact Nat.le_refl _
  | step _ ih =>
    rw [first_succ, effective_append]
    exact Nat.le_trans ih (Nat.le_add_right _ _)

/-- Sooner or later any number of calls has moved something. -/
theorem effective_first (schedule : Schedule) (count : Nat) :
    ∃ enough, ∀ calls ≥ enough, count ≤ effective (schedule.first calls) := by
  induction count with
  | zero => exact ⟨0, fun _ _ => Nat.zero_le _⟩
  | succ count ih =>
    obtain ⟨enough, reached⟩ := ih
    obtain ⟨later, after, moves⟩ := schedule.resumes enough
    refine ⟨later + 1, fun calls more => ?_⟩
    have one : effective (schedule.first (later + 1)) = effective (schedule.first later) + 1 := by
      rw [first_succ, effective_append]
      simp [effective, moves]
    have before := reached later after
    have grown := schedule.effective_first_mono more
    omega

end Schedule

end MultiUserChat
