import Spacer.Dksm.Core

/-!
What one page callback can do: leave memory alone, or redirect one page-table entry to a
recorded frame with the same contents.
-/

namespace Spacer.Dksm

namespace Memory

variable (mem : Memory Page)

@[simp] theorem putPage_getPage : (mem.getPage page).putPage page = mem := by
  simp [getPage, putPage]

@[simp] theorem refcount_getPage :
  (mem.getPage page).refcount frame = mem.refcount frame + if frame = page then 1 else 0 := by
  simp only [getPage, Function.update_apply]
  split <;> simp_all

@[simp] theorem refcount_putPage (page frame : Nat) :
  (mem.putPage page).refcount frame = mem.refcount frame - if frame = page then 1 else 0 := by
  simp only [putPage, Function.update_apply]
  split <;> simp_all

variable (slot : Slot)

@[simp] theorem refcount_redirect : (mem.redirect slot page kpage newpte).refcount frame =
    mem.refcount frame + (if frame = kpage then 1 else 0) - (if frame = page then 1 else 0) := by
  rw [redirect, refcount_putPage]
  change (mem.getPage kpage).refcount frame - _ = _
  rw [refcount_getPage]

theorem redirect_getPage : ((mem.getPage kpage).redirect slot page kpage newpte).putPage kpage =
    mem.redirect slot page kpage newpte := by
  refine Memory.ext rfl rfl rfl rfl ?_ rfl
  funext frame
  rw [refcount_putPage, refcount_redirect, refcount_redirect, refcount_getPage]
  omega

theorem ptes_redirect (page kpage : Nat) (newpte : Pte) :
  (mem.redirect slot page kpage newpte).ptes = Function.update mem.ptes slot (some newpte) := rfl

end Memory

section

theorem replacePage_eq_some (replaced : replacePage env mem vma page kpage origPte = some after) :
  ∃ addr, env.pageAddressInVma page = some addr ∧ mem.ptes (vma.vmMm, addr) = some origPte ∧
    after = mem.redirect (vma.vmMm, addr) page kpage (mkPte kpage vma.vmPageProt) := by
  unfold replacePage at replaced
  cases found : env.pageAddressInVma page with
  | none => simp [found] at replaced
  | some addr =>
    simp only [found] at replaced
    split at replaced
    · cases replaced
    split at replaced
    · cases replaced
    rename_i pmd same
    exact ⟨addr, rfl, by simpa using same, (Option.some.inj replaced).symm⟩

theorem replacePage_getPage (env : Env) (mem : Memory Page) (vma : Vma) (page kpage : Nat) (origPte : Pte) :
  (replacePage env (mem.getPage kpage) vma page kpage origPte).map (·.putPage kpage) =
    replacePage env mem vma page kpage origPte := by
  unfold replacePage
  cases env.pageAddressInVma page with
  | none => rfl
  | some addr =>
    have ptes : (mem.getPage kpage).ptes = mem.ptes := rfl
    simp only [ptes]
    split
    · rfl
    split
    · rfl
    · simp [Memory.redirect_getPage]

variable (kernel : Kernel Page)

structure Merge (env : Env) (vma : Vma) (pte : Pte) (checksum : UInt32) (mem after : Memory Page)
  (iter : PageDescriptor) : Prop where
  sameChecksum : iter.checksum = checksum
  live : env.getPageUnlessZero iter.pfn = true
  unchanged : calcChecksum kernel (mem.content iter.pfn) = checksum
  identical : mem.content pte.pfn = mem.content iter.pfn
  replaced : replacePage env mem vma pte.pfn iter.pfn pte = some after

structure ScanSpec (env : Env) (vma : Vma) (pte : Pte) (checksum : UInt32) (mem : Memory Page)
  (counters : Counters) (bucket : List PageDescriptor) (scan : Scan Page) : Prop where
  sublist : scan.bucket.Sublist bucket
  scanned : scan.counters.pagesScanned = counters.pagesScanned
  size : bucket.length ≤ counters.htableSize →
    scan.counters.htableSize + bucket.length = counters.htableSize + scan.bucket.length
  unmerged : scan.merged = false → scan.mem = mem ∧ scan.counters.pagesMerged = counters.pagesMerged
  merged : scan.merged = true → scan.counters.pagesMerged = increment counters.pagesMerged ∧
      ∃ iter ∈ scan.bucket, Merge kernel env vma pte checksum mem scan.mem iter

variable {kernel}

theorem decrement_eq (positive : 0 < counter) : decrement counter = counter - 1 := by
  rw [decrement, if_neg (by omega)]

theorem increment_eq (bound : counter + 1 < 2 ^ 64) : increment counter = counter + 1 := by
  rw [increment, if_neg (by omega)]

theorem ScanSpec.keep (failed : Nat)
  (spec : ScanSpec kernel env vma pte checksum mem { counters with mergingFailed := failed } rest scan) :
  ScanSpec kernel env vma pte checksum mem counters (iter :: rest) (scan.keep iter) where
  sublist := spec.sublist.cons_cons iter
  scanned := spec.scanned
  size := by
    intro fits
    rw [List.length_cons] at fits
    have tail := spec.size (Nat.le_of_succ_le fits)
    change scan.counters.htableSize + (rest.length + 1) = counters.htableSize + (scan.bucket.length + 1)
    change scan.counters.htableSize + rest.length = counters.htableSize + scan.bucket.length at tail
    omega
  unmerged := spec.unmerged
  merged := by
    intro merged
    obtain ⟨counted, other, member, merge⟩ := spec.merged merged
    exact ⟨counted, other, List.mem_cons_of_mem _ member, merge⟩

theorem ScanSpec.remove (spec : ScanSpec kernel env vma pte checksum mem (removePd counters) rest scan) :
  ScanSpec kernel env vma pte checksum mem counters (iter :: rest) scan where
  sublist := spec.sublist.cons iter
  scanned := spec.scanned
  size := by
    intro fits
    rw [List.length_cons] at fits ⊢
    have less : (removePd counters).htableSize = counters.htableSize - 1 :=
      decrement_eq (by omega)
    have tail := spec.size
    rw [less] at tail
    omega
  unmerged := spec.unmerged
  merged := spec.merged

variable (kernel)

theorem scanBucket_spec [DecidableEq Page] (env : Env) (vma : Vma) (pte : Pte) (checksum : UInt32)
  (mem : Memory Page) (bucket : List PageDescriptor) (counters : Counters) :
  ScanSpec kernel env vma pte checksum mem counters bucket
    (scanBucket kernel env vma pte checksum mem counters bucket) := by
  induction bucket generalizing counters with
  | nil =>
    refine ⟨List.Sublist.refl [], rfl, fun _ => rfl, fun _ => ⟨rfl, rfl⟩, ?_⟩
    intro merged
    cases merged
  | cons iter rest ih =>
    rw [scanBucket]
    split
    · exact (ih counters).keep counters.mergingFailed
    rename_i sameChecksum
    split
    · exact (ih (removePd counters)).remove
    rename_i live
    simp only [Memory.putPage_getPage]
    split
    · exact (ih (removePd counters)).remove
    rename_i unchanged
    split
    · rename_i identical
      have cancel := replacePage_getPage env mem vma pte.pfn iter.pfn pte
      cases replaced : replacePage env (mem.getPage iter.pfn) vma pte.pfn iter.pfn pte with
      | none => exact (ih _).keep (increment counters.mergingFailed)
      | some after =>
        rw [replaced, Option.map_some] at cancel
        refine ⟨List.Sublist.refl _, rfl, fun _ => rfl, ?_, ?_⟩
        · intro unmerged
          cases unmerged
        intro _
        refine ⟨rfl, iter, List.mem_cons_self, ?_⟩
        simp only [ne_eq, not_not, Bool.not_eq_false] at sameChecksum live unchanged
        exact ⟨sameChecksum, live, unchanged.trans sameChecksum, identical, cancel.symm⟩
    · exact (ih counters).keep counters.mergingFailed

end

def Recorded (pwd : PageWalkData) (pfn : Nat) : Prop :=
  ∃ bucket, ∃ iter ∈ pwd.hashtable bucket, iter.pfn = pfn

section

variable {Page : Type} [DecidableEq Page] (kernel : Kernel Page) (env : Env) (vma : Vma)

theorem scanPage_spec (pte : Pte) (mem : Memory Page) (pwd : PageWalkData) :
  ScanSpec kernel env vma pte (calcChecksum kernel (mem.content pte.pfn)) mem
    { pwd.toCounters with pagesScanned := increment pwd.pagesScanned }
    (pwd.hashtable (kernel.hashMin (calcChecksum kernel (mem.content pte.pfn))))
    (scanPage kernel env vma pte mem pwd) :=
  scanBucket_spec kernel env vma pte _ mem _ _

theorem compareAndMerge_memory (mem : Memory Page) :
  (compareAndMerge kernel env vma addr pte mem pwd).1 = (scanPage kernel env vma pte mem pwd).mem := by
  simp only [compareAndMerge]
  split <;> rfl

theorem pageCmpAndMerge_memory (addr : Nat) (mem : Memory Page) (pwd : PageWalkData) :
  (pageCmpAndMerge kernel env vma addr mem pwd).1 = mem ∨ ∃ pte iter, mem.ptes (vma.vmMm, addr) = some pte ∧
      iter ∈ pwd.hashtable (kernel.hashMin (calcChecksum kernel (mem.content pte.pfn))) ∧
      Merge kernel env vma pte (calcChecksum kernel (mem.content pte.pfn)) mem
        (pageCmpAndMerge kernel env vma addr mem pwd).1 iter := by
  unfold pageCmpAndMerge
  cases present : mem.ptes (vma.vmMm, addr) with
  | none => exact .inl rfl
  | some pte =>
    simp only
    split
    · exact .inl rfl
    split
    · exact .inl rfl
    simp only [compareAndMerge_memory]
    have spec := scanPage_spec kernel env vma pte mem pwd
    cases merged : (scanPage kernel env vma pte mem pwd).merged with
    | false => exact .inl (spec.unmerged merged).1
    | true =>
      obtain ⟨_, iter, member, merge⟩ := spec.merged merged
      exact .inr ⟨pte, iter, rfl, spec.sublist.subset member, merge⟩

def WalkAll (Holds : Env → Nat → Memory Page → PageWalkData → Prop) (vma : Vma) :
  List (Nat × Env) → Memory Page → PageWalkData → Prop
  | [], _, _ => True
  | (addr, env) :: rest, mem, pwd =>
    Holds env addr mem pwd ∧ ((pageCmpAndMerge kernel env vma addr mem pwd).2.2 = .success →
        WalkAll Holds vma rest (pageCmpAndMerge kernel env vma addr mem pwd).1
          (pageCmpAndMerge kernel env vma addr mem pwd).2.1)

theorem walkAll_true (pages : List (Nat × Env)) :
  ∀ (mem : Memory Page) (pwd : PageWalkData), WalkAll kernel (fun _ _ _ _ => True) vma pages mem pwd := by
  induction pages with
  | nil => exact fun _ _ => trivial
  | cons page rest ih => exact fun mem pwd => ⟨trivial, fun _ => ih _ _⟩

variable {vma}

theorem walkPageRange_induction (Inv : Memory Page → PageWalkData → Prop)
  (step : ∀ env addr mem pwd, Holds env addr mem pwd → Inv mem pwd →
    Inv (pageCmpAndMerge kernel env vma addr mem pwd).1
      (pageCmpAndMerge kernel env vma addr mem pwd).2.1) (pages : List (Nat × Env)) :
  ∀ mem pwd, WalkAll kernel Holds vma pages mem pwd → Inv mem pwd →
    Inv (walkPageRange kernel vma pages mem pwd).1 (walkPageRange kernel vma pages mem pwd).2.1 := by
  induction pages with
  | nil => exact fun mem pwd _ kept => kept
  | cons page rest ih =>
    intro mem pwd all kept
    obtain ⟨here, others⟩ := all
    have first := step page.2 page.1 mem pwd here kept
    rw [walkPageRange]
    generalize pageCmpAndMerge kernel page.2 vma page.1 mem pwd = result at first others
    obtain ⟨after, data, outcome⟩ := result
    cases outcome with
    | enomem => exact first
    | success => exact ih after data (others rfl) first

end

section

def State.table (state : State Page) : PageWalkData := state.pwd.getD initPwd

theorem lazyInit_cases (call : Madvise) (state : State Page) :
  (state.mutexHeld = true ∧ lazyInit call state = .error (.blocked, state)) ∨
    (state.pwd = none ∧ call.kmallocPwd = false ∧
      lazyInit call state = .error (.returned (-enomem), { state with mutexHeld := true })) ∨
    lazyInit call state = .ok ({ state with pwd := some state.table }, state.table) := by
  unfold lazyInit State.table
  cases found : state.pwd with
  | some pwd =>
    refine .inr (.inr ?_)
    obtain ⟨mem, dksmRun, mutexHeld, table⟩ := state
    cases found
    rfl
  | none =>
    dsimp only
    split
    · rename_i held
      exact .inl ⟨held, rfl⟩
    split
    · rename_i failed
      exact .inr (.inl ⟨rfl, failed, rfl⟩)
    · exact .inr (.inr rfl)

variable [DecidableEq Page] (kernel : Kernel Page)

theorem dksmMadvise_memory {Inv : Memory Page → Prop} (before : Inv state.mem)
  (walked : call.advice = true → state.dksmRun = dksmRunMerge →
    Inv (walkPageRange kernel call.vma call.pages state.mem state.table).1) :
  Inv (dksmMadvise kernel call state).2.mem := by
  unfold dksmMadvise
  rcases lazyInit_cases call state with ⟨_, init⟩ | ⟨_, _, init⟩ | init
  · rw [init]
    exact before
  · rw [init]
    exact before
  rw [init]
  simp only
  split
  · exact before
  rename_i advice
  split
  · exact before
  split
  · rename_i running
    exact walked (by simpa using advice) running
  · exact before

end

end Spacer.Dksm
