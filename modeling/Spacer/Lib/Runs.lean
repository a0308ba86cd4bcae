import Mathlib.Data.List.Basic

/-!
Runs of a machine that takes one event after the other, and what holds at every event.
-/

namespace Spacer.Lib

section

variable {σ ε : Type} (step : σ → ε → σ)

def Along (condition : σ → ε → Prop) : σ → List ε → Prop
  | _, [] => True
  | state, event :: rest => condition state event ∧ Along condition (step state event) rest

variable {step}

theorem Along.of_invariant {holds : σ → Prop} {safe good : σ → ε → Prop}
  (keeps : ∀ state event, holds state → safe state event → holds (step state event))
  (entails : ∀ state event, holds state → safe state event → good state event)
  {start : σ} (initially : holds start) {events : List ε} (along : Along step safe start events) :
  Along step good start events := by
  induction events generalizing start with
  | nil => exact trivial
  | cons event rest ih =>
    obtain ⟨first, later⟩ := along
    exact ⟨entails start event initially first, ih (keeps start event initially first) later⟩

end

section

variable {σ ε : Type}

inductive Reach (step : σ → ε → σ → Prop) (allowed : σ → ε → Prop) (start : σ) : σ → Prop
  | refl : Reach step allowed start start
  | tail {state later : σ} {event : ε} (before : Reach step allowed start state)
      (taken : step state event later) (fits : allowed state event) :
      Reach step allowed start later

variable {step : σ → ε → σ → Prop} {allowed : σ → ε → Prop} {holds : σ → Prop}

theorem Reach.invariant
  (keeps : ∀ state event later, holds state → allowed state event → step state event later → holds later)
  {start last : σ} (initially : holds start) (reached : Reach step allowed start last) : holds last := by
  induction reached with
  | refl => exact initially
  | tail before taken fits ih => exact keeps _ _ _ ih fits taken

variable {wider : σ → ε → Prop}

theorem Reach.of_invariant
  (keeps : ∀ state event later, holds state → wider state event → step state event later → holds later)
  (within : ∀ state event later, holds state → wider state event → step state event later →
    allowed state event) {start last : σ} (initially : holds start) (reached : Reach step wider start last) :
  Reach step allowed start last := by
  induction reached with
  | refl => exact .refl
  | tail before taken fits ih =>
    exact .tail ih taken (within _ _ _ (Reach.invariant keeps initially before) fits taken)

theorem Reach.mono (within : ∀ state event, allowed state event → wider state event) {start last : σ}
  (reached : Reach step allowed start last) : Reach step wider start last :=
  Reach.of_invariant (fun _ _ _ _ _ _ => trivial)
    (fun state event _ _ fits _ => within state event fits) trivial reached

end

section

variable {σ ε : Type}

def play (step : σ → ε → Option σ) (allowed : σ → ε → Prop)
  [∀ state event, Decidable (allowed state event)] : σ → List ε → Option σ
  | state, [] => some state
  | state, event :: rest =>
    if allowed state event then (step state event).bind (play step allowed · rest) else none

variable {step : σ → ε → Option σ} {allowed : σ → ε → Prop}
  [∀ state event, Decidable (allowed state event)] {start : σ} {events : List ε}

theorem reach_of_play
  (reached : Reach (fun state event later => step state event = some later) allowed start state)
  (played : play step allowed state events = some last) :
  Reach (fun state event later => step state event = some later) allowed start last := by
  induction events generalizing state with
  | nil =>
    cases played
    exact reached
  | cons event rest ih =>
    rw [play] at played
    split at played
    · rename_i fits
      obtain ⟨next, taken, played⟩ := Option.bind_eq_some_iff.mp played
      exact ih (.tail reached taken fits) played
    · cases played

theorem exists_reach_of_play {good : σ → Prop} (played : ∃ last ∈ play step allowed start events, good last) :
  ∃ last, Reach (fun state event later => step state event = some later) allowed start last ∧
    good last := by
  obtain ⟨last, ran, holds⟩ := played
  exact ⟨last, reach_of_play .refl ran, holds⟩

end

end Spacer.Lib
