import Mathlib.Data.List.Infix
/-!
# Labelled transition systems

Reachability by labelled steps from a set of initial states, and the induction that turns what one
step keeps into what every run keeps. A run in which every step meets a further condition is a run
of the restricted step relation, so `Reachable.widen` relates the two. `fronts_iff` is about what a
given sequence of labels does at each of its fronts. Step functions that answer each input with an
output answer alike when their states stay related (`answers_simulates`).
-/

namespace MultiUserChat

/-- States reached from an initial one by any number of labelled steps. -/
inductive Reachable {σ ι : Type} (initial : σ → Prop) (step : σ → ι → σ → Prop) : σ → Prop
  | start {state : σ} (begin_ : initial state) : Reachable initial step state
  | next {state state' : σ} {label : ι} (earlier : Reachable initial step state)
      (taken : step state label state') : Reachable initial step state'

namespace Reachable

variable {σ ι : Type} {initial : σ → Prop} {step : σ → ι → σ → Prop}

/-- What holds initially and is kept by each step holds in every reachable state. -/
theorem invariant (holds : σ → Prop) (base : ∀ state, initial state → holds state)
    (kept : ∀ state label state', Reachable initial step state → holds state →
      step state label state' → holds state')
    {state : σ} (reached : Reachable initial step state) : holds state := by
  induction reached with
  | start begin_ => exact base _ begin_
  | next earlier taken ih => exact kept _ _ _ earlier ih taken

/-- More steps reach more states. -/
theorem widen {step' : σ → ι → σ → Prop}
    (implies : ∀ state label state', step state label state' → step' state label state')
    {state : σ} (reached : Reachable initial step state) : Reachable initial step' state := by
  induction reached with
  | start begin_ => exact .start begin_
  | next _ taken ih => exact .next ih (implies _ _ _ taken)

/-- What a step function computes along a list of labels is reached. -/
theorem of_foldlM {next : σ → ι → Option σ} {labels : List ι} {state state' : σ}
    (reached : Reachable initial (fun state label state' => next state label = some state') state)
    (ran : labels.foldlM next state = some state') :
    Reachable initial (fun state label state' => next state label = some state') state' := by
  induction labels generalizing state with
  | nil => exact Option.some.inj ran ▸ reached
  | cons label labels ih =>
    rw [List.foldlM_cons, Option.bind_eq_bind, Option.bind_eq_some_iff] at ran
    obtain ⟨middle, first, rest⟩ := ran
    exact ih (.next reached first) rest

end Reachable

/-- When each label keeps what holds exactly if it fits, it holds after every front of the labels
exactly if each label fits where it comes. -/
theorem fronts_iff {σ ι : Type} {after : List ι → σ} {holds : σ → Prop} {fits : σ → ι → Prop}
    {labels : List ι} (base : holds (after []))
    (kept : ∀ front label, front ++ [label] <+: labels → holds (after front) →
      (holds (after (front ++ [label])) ↔ fits (after front) label)) :
    (∀ front, front <+: labels → holds (after front)) ↔
      ∀ front label, front ++ [label] <+: labels → fits (after front) label := by
  constructor
  · intro always front label front_of
    have earlier := always front ((List.prefix_append front [label]).trans front_of)
    exact (kept front label front_of earlier).mp (always _ front_of)
  · intro each front front_of
    induction front using List.reverseRecOn with
    | nil => exact base
    | append_singleton front label ih =>
      have earlier := ih ((List.prefix_append front [label]).trans front_of)
      exact (kept front label front_of earlier).mpr (each front label front_of)

section

variable {σ τ ι ο : Type}

/-- The outputs for some inputs, and the state that they lead to. -/
def answers (step : σ → ι → ο × σ) (state : σ) : List ι → List ο × σ
  | [] => ([], state)
  | input :: inputs =>
    let rest := answers step (step state input).2 inputs
    ((step state input).1 :: rest.1, rest.2)

/-- When each step from related states has the same output and keeps them related, so does every
run. -/
theorem answers_simulates {step : σ → ι → ο × σ} {step' : τ → ι → ο × τ} {related : σ → τ → Prop}
    (each : ∀ state state' input, related state state' →
      (step state input).1 = (step' state' input).1 ∧
        related (step state input).2 (step' state' input).2)
    {state : σ} {state' : τ} (begin_ : related state state') (inputs : List ι) :
    (answers step state inputs).1 = (answers step' state' inputs).1 ∧
      related (answers step state inputs).2 (answers step' state' inputs).2 := by
  induction inputs generalizing state state' with
  | nil => exact ⟨rfl, begin_⟩
  | cons input inputs ih =>
    obtain ⟨first, kept⟩ := each state state' input begin_
    obtain ⟨outputs, final⟩ := ih kept
    refine ⟨?_, final⟩
    rw [answers, answers, ← first, ← outputs]

end

end MultiUserChat
