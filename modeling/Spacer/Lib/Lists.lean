import Mathlib.Data.List.Dedup
import Mathlib.Data.List.TakeWhile

/-! The bind of `Except`, and filtered, cut and monadically mapped lists. -/

namespace Spacer.Lib

open List (Forall₂ foldlM_cons mapM_cons mem_cons mem_cons_of_mem mem_cons_self)

variable {α β ε : Type}

variable {action : Except ε α}

theorem ok_of_bind (finished : (action >>= next) = .ok result) :
  ∃ value, action = .ok value ∧ next value = .ok result := by
  cases action with
  | error reason => cases finished
  | ok value => exact ⟨value, rfl, finished⟩

theorem error_of_bind (failed : (action >>= next) = .error reason) :
  action = .error reason ∨ ∃ value, action = .ok value ∧ next value = .error reason := by
  cases action with
  | error other =>
    cases failed
    exact .inl rfl
  | ok value => exact .inr ⟨value, rfl, failed⟩

theorem bind_of_ok (done : action = .ok value) : (action >>= next) = next value := by
  rw [done]
  rfl

theorem ok_of_mapError {ε' : Type} {change : ε → ε'} {value : α}
  (done : action.mapError change = .ok value) : action = .ok value := by
  cases action with
  | error reason => cases done
  | ok result =>
    cases done
    rfl

theorem error_of_mapError {ε' : Type} {change : ε → ε'} {reason : ε'}
  (failed : action.mapError change = .error reason) : ∃ cause, action = .error cause := by
  cases action with
  | error cause => exact ⟨cause, rfl⟩
  | ok value => cases failed

variable {items : List α}

theorem ok_of_forM {check : α → Except ε Unit} (done : items.forM check = .ok ()) :
  ∀ item ∈ items, check item = .ok () := by
  induction items with
  | nil => simp
  | cons first rest ih =>
    obtain ⟨_, head, tail⟩ := ok_of_bind done
    intro item member
    rcases mem_cons.mp member with rfl | later
    · exact head
    · exact ih tail item later

variable {step : α → Except ε β}

theorem mapM_ok (each : ∀ item ∈ items, step item = .ok (result item)) :
  items.mapM step = .ok (items.map result) := by
  induction items with
  | nil => rfl
  | cons first rest ih =>
    have tail := ih fun item member => each item (mem_cons_of_mem _ member)
    rw [mapM_cons, each first (by simp), tail]
    rfl

theorem forall₂_of_mapM (done : items.mapM step = .ok results) :
  Forall₂ (fun item result => step item = .ok result) items results := by
  induction items generalizing results with
  | nil =>
    cases done
    exact Forall₂.nil
  | cons first rest ih =>
    rw [mapM_cons] at done
    obtain ⟨result, head, done⟩ := ok_of_bind done
    obtain ⟨tail, later, finished⟩ := ok_of_bind done
    cases finished
    exact Forall₂.cons head (ih later)

theorem forall₂_trans (trans : ∀ x y z, R x y → R y z → R x z) (left : Forall₂ R first second)
  (right : Forall₂ R second third) : Forall₂ R first third := by
  induction left generalizing third with
  | nil => exact right
  | cons head _ ih =>
    cases right with
    | cons next later => exact Forall₂.cons (trans _ _ _ head next) (ih later)

theorem forall₂_mem_right (related : Forall₂ R xs ys) (member : y ∈ ys) : ∃ x ∈ xs, R x y := by
  induction related with
  | nil => cases member
  | cons head _ ih =>
    rcases mem_cons.mp member with rfl | later
    · exact ⟨_, mem_cons_self, head⟩
    obtain ⟨x, inside, found⟩ := ih later
    exact ⟨x, mem_cons_of_mem _ inside, found⟩

theorem forall₂_mem_left (related : Forall₂ R xs ys) (member : x ∈ xs) : ∃ y ∈ ys, R x y :=
  forall₂_mem_right related.flip member

theorem mapM_ok_iff (step : α → Except ε β) (items : List α) :
  (∃ results, items.mapM step = .ok results) ↔ ∀ item ∈ items, ∃ result, step item = .ok result := by
  constructor
  · rintro ⟨results, done⟩ item member
    obtain ⟨result, _, found⟩ := forall₂_mem_left (forall₂_of_mapM done) member
    exact ⟨result, found⟩
  intro each
  induction items with
  | nil => exact ⟨[], rfl⟩
  | cons first rest ih =>
    obtain ⟨result, head⟩ := each first mem_cons_self
    obtain ⟨results, tail⟩ := ih fun item member => each item (mem_cons_of_mem _ member)
    refine ⟨result :: results, ?_⟩
    rw [mapM_cons, head, tail]
    rfl

theorem mapM_eq_ok_iff {good : α → Prop}
  (each : ∀ item outcome, step item = .ok outcome ↔ good item ∧ outcome = result item)
  (items : List α) (results : List β) :
  items.mapM step = .ok results ↔ (∀ item ∈ items, good item) ∧ results = items.map result := by
  have whole : (∀ item ∈ items, good item) → items.mapM step = .ok (items.map result) :=
    fun holds => mapM_ok fun item member => (each item _).mpr ⟨holds item member, rfl⟩
  constructor
  · intro done
    have holds : ∀ item ∈ items, good item := by
      intro item member
      obtain ⟨outcome, found⟩ := (mapM_ok_iff step items).mp ⟨results, done⟩ item member
      exact ((each item outcome).mp found).1
    rw [whole holds] at done
    cases done
    exact ⟨holds, rfl⟩
  rintro ⟨holds, rfl⟩
  exact whole holds

theorem eq_of_adjacent_eq (value : α → β) (adjacent : ∀ pair ∈ items.zip items.tail, value pair.1 = value pair.2) :
  ∀ left ∈ items, ∀ right ∈ items, value left = value right := by
  have first : ∀ head rest, (∀ pair ∈ (head :: rest).zip rest, value pair.1 = value pair.2) →
      ∀ item ∈ head :: rest, value item = value head := by
    intro head rest
    induction rest generalizing head with
    | nil => simp
    | cons next rest ih =>
      intro steps item member
      rw [List.zip_cons_cons, List.forall_mem_cons] at steps
      rcases mem_cons.mp member with same | later
      · rw [same]
      · exact (ih next steps.2 item later).trans steps.1.symm
  cases items with
  | nil => simp
  | cons head rest =>
    intro left leftMem right rightMem
    rw [first head rest adjacent left leftMem, first head rest adjacent right rightMem]

theorem split_cons_iff (P : α → Prop) :
  (∃ before after, first :: rest = before ++ item :: after ∧ ∀ earlier ∈ before, P earlier) ↔
    item = first ∨ P first ∧
      ∃ before after, rest = before ++ item :: after ∧ ∀ earlier ∈ before, P earlier := by
  constructor
  · rintro ⟨before, after, split, earlier⟩
    cases before with
    | nil =>
      simp only [List.nil_append, List.cons.injEq] at split
      exact .inl split.1.symm
    | cons head before =>
      simp only [List.cons_append, List.cons.injEq] at split
      refine .inr ⟨split.1 ▸ earlier head (by simp), before, after, split.2, ?_⟩
      intro other member
      exact earlier other (mem_cons_of_mem _ member)
  rintro (rfl | ⟨holds, before, after, split, earlier⟩)
  · exact ⟨[], rest, rfl, by simp⟩
  refine ⟨first :: before, after, by simp [split], ?_⟩
  intro other member
  rcases mem_cons.mp member with rfl | later
  · exact holds
  · exact earlier other later

theorem mem_takeWhile_filter_iff : item ∈ (items.filter keep).takeWhile continues ↔
    keep item = true ∧ continues item = true ∧ ∃ before after, items = before ++ item :: after ∧
      ∀ earlier ∈ before, keep earlier = true → continues earlier = true := by
  induction items with
  | nil => simp
  | cons first rest ih =>
    rw [split_cons_iff]
    by_cases kept : keep first = true
    · rw [List.filter_cons_of_pos kept]
      by_cases goes : continues first = true
      · rw [List.takeWhile_cons_of_pos goes, mem_cons, ih]
        constructor
        · rintro (rfl | ⟨itemKept, itemGoes, later⟩)
          · exact ⟨kept, goes, .inl rfl⟩
          · exact ⟨itemKept, itemGoes, .inr ⟨fun _ => goes, later⟩⟩
        rintro ⟨itemKept, itemGoes, same | ⟨_, later⟩⟩
        · exact .inl same
        · exact .inr ⟨itemKept, itemGoes, later⟩
      rw [List.takeWhile_cons_of_neg goes]
      simp only [List.not_mem_nil, false_iff]
      rintro ⟨_, itemGoes, rfl | ⟨first, _⟩⟩
      · exact goes itemGoes
      · exact goes (first kept)
    rw [List.filter_cons_of_neg kept, ih]
    constructor
    · rintro ⟨itemKept, itemGoes, later⟩
      exact ⟨itemKept, itemGoes, .inr ⟨fun passes => absurd passes kept, later⟩⟩
    rintro ⟨itemKept, itemGoes, rfl | ⟨_, later⟩⟩
    · exact absurd itemKept kept
    · exact ⟨itemKept, itemGoes, later⟩

theorem eq_of_dedup_length_le_one [DecidableEq α] (single : items.dedup.length ≤ 1)
  (leftMem : left ∈ items) (rightMem : right ∈ items) : left = right := by
  rw [← List.mem_dedup] at leftMem rightMem
  generalize items.dedup = unique at single leftMem rightMem
  cases unique with
  | nil => simp at leftMem
  | cons first rest =>
    have empty : rest = [] := by simpa using single
    subst rest
    simp only [List.mem_singleton] at leftMem rightMem
    rw [leftMem, rightMem]

theorem eq_of_countP_eq (implies : ∀ item ∈ items, left item = true → right item = true)
  (same : items.countP left = items.countP right) : ∀ item ∈ items, left item = right item := by
  induction items with
  | nil => simp
  | cons first rest ih =>
    have tail : rest.countP left ≤ rest.countP right :=
      List.countP_mono_left fun item member => implies item (mem_cons_of_mem _ member)
    have head := implies first mem_cons_self
    have equal : left first = right first ∧ rest.countP left = rest.countP right := by
      cases leftFirst : left first <;> cases rightFirst : right first <;>
        simp [leftFirst, rightFirst] at same head ⊢ <;> omega
    intro item member
    rcases mem_cons.mp member with rfl | later
    · exact equal.1
    exact ih (fun other inside => implies other (mem_cons_of_mem _ inside)) equal.2 item later

theorem eq_takeWhile_append_of_mem [DecidableEq α] (member : item ∈ items) :
  ∃ back, items = items.takeWhile (· ≠ item) ++ item :: back := by
  induction items with
  | nil => cases member
  | cons first rest ih =>
    by_cases same : first = item
    · exact ⟨rest, by simp [same]⟩
    obtain ⟨back, split⟩ := ih (List.mem_of_ne_of_mem (Ne.symm same) member)
    refine ⟨back, ?_⟩
    rw [List.takeWhile_cons_of_pos (by simpa using same), List.cons_append, ← split]

theorem foldlM_congr {σ : Type} {step other : σ → α → Except ε σ}
  (same : ∀ item ∈ items, ∀ state, step state item = other state item) (state : σ) :
  items.foldlM step state = items.foldlM other state := by
  induction items generalizing state with
  | nil => rfl
  | cons first rest ih =>
    rw [foldlM_cons, foldlM_cons, same first mem_cons_self]
    refine congrArg (other state first >>= ·) (funext fun next => ?_)
    exact ih (fun item member => same item (mem_cons_of_mem _ member)) next

theorem foldlM_invariant {σ : Type} {step : σ → α → Except ε σ} (Inv : List α → σ → Prop)
  {state final : σ} (start : Inv [] state)
  (keep : ∀ taken item state next, item ∈ items → Inv taken state →
    step state item = .ok next → Inv (taken ++ [item]) next)
  (done : items.foldlM step state = .ok final) : Inv items final := by
  suffices general : ∀ (rest taken : List α) (state : σ), (∀ item ∈ rest, item ∈ items) →
      Inv taken state → rest.foldlM step state = .ok final → Inv (taken ++ rest) final from
    general items [] state (fun _ member => member) start done
  intro rest
  induction rest with
  | nil =>
    intro taken state _ holds done
    cases done
    simpa using holds
  | cons item rest ih =>
    intro taken state members holds done
    rw [foldlM_cons] at done
    obtain ⟨next, stepped, finished⟩ := ok_of_bind done
    have later := ih (taken ++ [item]) next
      (fun other member => members other (mem_cons_of_mem _ member))
      (keep taken item state next (members item mem_cons_self) holds stepped) finished
    rwa [List.append_assoc] at later

theorem of_getElem?_set (present : (items.set index item)[other]? = some found) :
  other = index ∧ found = item ∨ other ≠ index ∧ items[other]? = some found := by
  rw [List.getElem?_set] at present
  split at present
  · rename_i same
    split at present
    · exact .inl ⟨same.symm, (Option.some.inj present).symm⟩
    · cases present
  rename_i differ
  exact .inr ⟨fun same => differ same.symm, present⟩

end Spacer.Lib
