import Mathlib.Data.List.Basic

/-!
Bounded queues of work that know whether they are complete.  A queue that has to turn an item
away is out of sync until it is built anew from the pool the items come from.
-/

namespace Spacer.Lib

open List

structure SyncQueue (α : Type) (size : Nat) where
  q : List α
  synced : Bool
  bounded : q.length ≤ size

namespace SyncQueue

variable {α β : Type}

def new : SyncQueue α size := ⟨[], true, Nat.zero_le _⟩

def isEmpty (queue : SyncQueue α size) : Bool := queue.q.isEmpty

variable (queue : SyncQueue α size)

def isFull : Bool := queue.q.length = size

theorem isFull_eq_false : queue.isFull = false ↔ queue.q.length < size := by
  have small := queue.bounded
  rw [isFull, decide_eq_false_iff_not]
  omega

theorem push_bounded {queue : SyncQueue α size} (room : queue.isFull = false) (item : α) :
  (queue.q ++ [item]).length ≤ size := by
  have small := queue.isFull_eq_false.mp room
  rw [length_append, length_singleton]
  omega

theorem pop_bounded : queue.q.tail.length ≤ size := by
  rw [length_tail]
  exact Nat.le_trans (Nat.sub_le _ _) queue.bounded

def offer (item : α) : SyncQueue α size :=
  if room : queue.synced = true ∧ queue.isFull = false then
    ⟨queue.q ++ [item], queue.synced, push_bounded room.2 item⟩
  else { queue with synced := false }

def pop : SyncQueue α size :=
  ⟨queue.q.tail, queue.synced, pop_bounded queue⟩

@[simp] theorem pop_q : queue.pop.q = queue.q.tail := rfl

def gather (size : Nat) (select : β → Option α) (taken : List α) : List β → List α × Bool
  | [] => (taken, true)
  | member :: pool =>
    match select member with
    | none => gather size select taken pool
    | some item =>
      if taken.length ≥ size then (taken, false)
      else gather size select (taken ++ [item]) pool

theorem gather_bounded (pool : List β) (small : taken.length ≤ size) :
  (gather size select taken pool).1.length ≤ size := by
  induction pool generalizing taken with
  | nil => exact small
  | cons member pool ih =>
    unfold gather
    split
    · exact ih small
    split
    · exact small
    apply ih
    rw [length_append, length_singleton]
    omega

def Covers (needed : α → Prop) : Prop :=
  queue.synced = true → ∀ item, needed item → item ∈ queue.q

section

variable {queue : SyncQueue α size}

theorem Covers.mono (covers : queue.Covers needed) (fewer : ∀ item, needed' item → needed item) :
  queue.Covers needed' := fun synced item wanted => covers synced item (fewer item wanted)

theorem offer_synced (synced : (queue.offer item).synced = true) :
  queue.synced = true ∧ (queue.offer item).q = queue.q ++ [item] := by
  unfold offer at synced ⊢
  split at synced
  · rename_i room
    rw [dif_pos room]
    exact ⟨synced, rfl⟩
  · cases synced

theorem Covers.offer (covers : queue.Covers needed)
  (fewer : ∀ other, needed' other → needed other ∨ other = item) : (queue.offer item).Covers needed' := by
  intro synced other wanted
  obtain ⟨before, items⟩ := offer_synced synced
  rw [items, mem_append, mem_singleton]
  rcases fewer other wanted with old | new
  · exact .inl (covers before other old)
  · exact .inr new

theorem Covers.pop (covers : queue.Covers needed)
  (fewer : ∀ other, needed' other → needed other ∧ queue.q.head? ≠ some other) :
  queue.pop.Covers needed' := by
  intro synced other wanted
  obtain ⟨old, later⟩ := fewer other wanted
  have member := covers synced other old
  rw [pop_q]
  cases items : queue.q with
  | nil =>
    rw [items] at member
    cases member
  | cons first rest =>
    rw [items] at member later
    rcases mem_cons.mp member with rfl | after
    · exact absurd rfl later
    · exact after

theorem offer_room (item : α) (room : queue.synced = true ∧ queue.isFull = false) :
  (queue.offer item).synced = true ∧ (queue.offer item).q = queue.q ++ [item] := by
  unfold SyncQueue.offer
  rw [dif_pos room]
  exact ⟨room.1, rfl⟩

theorem offer_items (queue : SyncQueue α size) (item : α) :
  (queue.offer item).q = queue.q ++ [item] ∨ (queue.offer item).q = queue.q := by
  unfold SyncQueue.offer
  split
  · exact .inl rfl
  · exact .inr rfl

theorem Covers.offer_pop (covers : queue.Covers needed) (front : queue.q.head? = some item)
  (fewer : ∀ other, needed' other → needed other ∨ other = item) :
  (queue.offer item).pop.Covers needed' := by
  intro synced other wanted
  obtain ⟨before, items⟩ := offer_synced synced
  obtain ⟨rest, queued⟩ := head?_eq_some_iff.mp front
  rw [pop_q, items, queued, cons_append, tail_cons, mem_append, mem_singleton]
  rcases fewer other wanted with old | new
  · have member := covers before other old
    rw [queued, mem_cons] at member
    exact member.symm
  · exact .inr new

theorem gather_taken (pool : List β) (member : item ∈ taken) :
  item ∈ (gather size select taken pool).1 := by
  induction pool generalizing taken with
  | nil => exact member
  | cons first pool ih =>
    unfold gather
    split
    · exact ih member
    split
    · exact member
    · exact ih (mem_append_left _ member)

theorem gather_complete (complete : (gather size select taken pool).2 = true) (present : member ∈ pool)
  (selected : select member = some item) : item ∈ (gather size select taken pool).1 := by
  induction pool generalizing taken with
  | nil => cases present
  | cons first pool ih =>
    unfold gather at complete ⊢
    rcases mem_cons.mp present with rfl | later
    · rw [selected] at complete ⊢
      dsimp only at complete ⊢
      split at complete
      · cases complete
      rename_i room
      rw [if_neg room]
      exact gather_taken pool (mem_append_right _ (mem_singleton_self item))
    split at complete
    · exact ih complete later
    split at complete
    · cases complete
    rename_i room
    rw [if_neg room]
    exact ih complete later

end

end SyncQueue

end Spacer.Lib
