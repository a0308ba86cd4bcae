import Spacer.Dksm.Callback
import Spacer.Lib.Buckets

/-!
Counters, hash table and mutex over whole runs of the module: calls, writes to the
run file and arbitrary changes of memory in between.
-/

namespace Spacer.Dksm

open Lib

structure Consistent (pwd : PageWalkData) : Prop where
  size : pwd.htableSize = tableSize pwd.hashtable
  balance : pwd.pagesMerged + pwd.htableSize ≤ pwd.pagesScanned

theorem consistent_init : Consistent initPwd :=
  ⟨by simp [initPwd, tableSize], Nat.le_refl 0⟩

section

variable {Page : Type} [DecidableEq Page] (kernel : Kernel Page)

theorem compareAndMerge_consistent (env : Env) (vma : Vma) (addr : Nat) (pte : Pte)
  (mem : Memory Page) (consistent : Consistent pwd) (bound : pwd.pagesScanned + 1 < 2 ^ 64) :
  Consistent (compareAndMerge kernel env vma addr pte mem pwd).2 ∧
    (compareAndMerge kernel env vma addr pte mem pwd).2.pagesScanned = pwd.pagesScanned + 1 := by
  obtain ⟨size, balance⟩ := consistent
  have spec := scanPage_spec kernel env vma pte mem pwd
  simp only [compareAndMerge]
  generalize calcChecksum kernel (mem.content pte.pfn) = checksum at spec ⊢
  generalize scanPage kernel env vma pte mem pwd = scan at spec ⊢
  generalize kernel.hashMin checksum = bucket at spec ⊢
  have fits := length_le_tableSize pwd.hashtable bucket
  have shrunk := spec.sublist.length_le
  have counted : scan.counters.htableSize + (pwd.hashtable bucket).length =
      pwd.htableSize + scan.bucket.length := spec.size (size ▸ fits)
  have scanned : scan.counters.pagesScanned = pwd.pagesScanned + 1 :=
    spec.scanned.trans (increment_eq bound)
  cases merged : scan.merged with
  | true =>
    have updated := tableSize_update pwd.hashtable bucket scan.bucket
    have more : scan.counters.pagesMerged = pwd.pagesMerged + 1 :=
      (spec.merged merged).1.trans (increment_eq (by change pwd.pagesMerged + 1 < 2 ^ 64; omega))
    simp only [if_true]
    exact ⟨⟨by dsimp only; omega, by dsimp only; omega⟩, scanned⟩
  | false =>
    have updated := tableSize_update pwd.hashtable bucket (⟨checksum, pte.pfn, addr⟩ :: scan.bucket)
    rw [List.length_cons] at updated
    have same : scan.counters.pagesMerged = pwd.pagesMerged := (spec.unmerged merged).2
    have added : increment scan.counters.htableSize = scan.counters.htableSize + 1 :=
      increment_eq (by omega)
    simp only [Bool.false_eq_true, if_false]
    exact ⟨⟨by dsimp only; omega, by dsimp only; omega⟩, scanned⟩

theorem pageCmpAndMerge_consistent (env : Env) (vma : Vma) (addr : Nat) (mem : Memory Page)
  (consistent : Consistent pwd) (bound : pwd.pagesScanned + 1 < 2 ^ 64) :
  Consistent (pageCmpAndMerge kernel env vma addr mem pwd).2.1 ∧
    (pageCmpAndMerge kernel env vma addr mem pwd).2.1.pagesScanned ≤ pwd.pagesScanned + 1 := by
  have failed : Consistent (mergeFailed pwd) ∧ (mergeFailed pwd).pagesScanned ≤ pwd.pagesScanned + 1 :=
    ⟨{ consistent with }, Nat.le_succ _⟩
  unfold pageCmpAndMerge
  split
  · exact failed
  split
  · exact failed
  split
  · exact failed
  rename_i pte _ _ _
  obtain ⟨kept, scanned⟩ :=
    compareAndMerge_consistent kernel env vma addr pte mem consistent bound
  exact ⟨kept, Nat.le_of_eq scanned⟩

theorem walkPageRange_consistent (vma : Vma) (pages : List (Nat × Env)) :
  ∀ (mem : Memory Page) (pwd : PageWalkData), Consistent pwd → pwd.pagesScanned + pages.length < 2 ^ 64 →
    Consistent (walkPageRange kernel vma pages mem pwd).2.1 := by
  induction pages with
  | nil => exact fun mem pwd consistent _ => consistent
  | cons page rest ih =>
    intro mem pwd consistent bound
    rw [List.length_cons] at bound
    obtain ⟨kept, scanned⟩ := pageCmpAndMerge_consistent kernel page.2 vma page.1 mem consistent (by omega)
    rw [walkPageRange]
    generalize pageCmpAndMerge kernel page.2 vma page.1 mem pwd = result at kept scanned
    obtain ⟨after, data, outcome⟩ := result
    dsimp only at kept scanned
    cases outcome with
    | enomem => exact kept
    | success => exact ih after data kept (by omega)

end

section

structure Bookkeeping (state : State Page) : Prop where
  mutexFree : state.mutexHeld = false
  consistent : ∀ pwd, state.pwd = some pwd → Consistent pwd
  stopped : state.dksmRun = dksmRunStop → ∀ pwd, state.pwd = some pwd →
    pwd.toCounters = ⟨0, 0, 0, 0⟩ ∧ ∀ bucket, pwd.hashtable bucket = []

theorem bookkeeping_initPwd (mem : Memory Page) (dksmRun : Nat) :
  Bookkeeping ⟨mem, dksmRun, false, some initPwd⟩ := by
  refine ⟨rfl, fun pwd found => ?_, fun _ pwd found => ?_⟩
  · cases found
    exact consistent_init
  cases found
  exact ⟨rfl, fun _ => rfl⟩

theorem bookkeeping_init (mem : Memory Page) (kmalloc configSysfs : Bool) :
  Bookkeeping (dksmInit mem kmalloc configSysfs) := by
  cases kmalloc with
  | false =>
    refine ⟨rfl, ?_, ?_⟩
    · intro pwd found
      cases found
    intro _ pwd found
    cases found
  | true => exact bookkeeping_initPwd mem _

def scannedSoFar (state : State Page) : Nat :=
  match state.pwd with
  | some pwd => pwd.pagesScanned
  | none => 0

theorem scannedSoFar_eq : scannedSoFar state = state.table.pagesScanned := by
  unfold scannedSoFar State.table
  cases state.pwd <;> rfl

theorem Bookkeeping.table (kept : Bookkeeping state) :
  Bookkeeping { state with pwd := some state.table } := by
  obtain ⟨mem, dksmRun, mutexHeld, pwd⟩ := state
  cases pwd with
  | some pwd => exact kept
  | none =>
    have free : mutexHeld = false := kept.mutexFree
    rw [free]
    exact bookkeeping_initPwd mem dksmRun

theorem lazyInit_bookkeeping (kept : Bookkeeping state)
  (allocated : state.pwd = none → call.kmallocPwd = true) :
  lazyInit call state = .ok ({ state with pwd := some state.table }, state.table) := by
  rcases lazyInit_cases call state with ⟨held, _⟩ | ⟨missing, failed, _⟩ | init
  · rw [kept.mutexFree] at held
    cases held
  · rw [allocated missing] at failed
    cases failed
  · exact init

theorem runStore_bookkeeping (kernel : Kernel Page) (buf : String) (kept : Bookkeeping state) :
  Bookkeeping (runStore kernel buf state).2 ∧ (runStore kernel buf state).1 ≠ .blocked := by
  unfold runStore
  split
  · exact ⟨kept, by simp⟩
  split
  · exact ⟨kept, by simp⟩
  rename_i flags _
  split
  · exact ⟨kept, by simp⟩
  rw [kept.mutexFree]
  simp only [Bool.false_eq_true, if_false]
  split
  · refine ⟨?_, by simp⟩
    by_cases stop : flags = dksmRunStop
    · simp only [stop, if_true]
      exact bookkeeping_initPwd state.mem dksmRunStop
    simp only [stop, if_false]
    exact ⟨rfl, kept.consistent, fun same => absurd same stop⟩
  · exact ⟨kept, by simp⟩

inductive Event (Page : Type)
  | madvise (call : Madvise)
  | runStore (buf : String)
  | environment (mem : Memory Page)

/-- The condition on an event in the state it meets: a lazy initialisation gets
its memory, and `pages_scanned` does not wrap. -/
def EventOk (state : State Page) : Event Page → Prop
  | .madvise call =>
    (state.pwd = none → call.kmallocPwd = true) ∧ scannedSoFar state + call.pages.length < 2 ^ 64
  | _ => True

variable [DecidableEq Page] (kernel : Kernel Page)

def step (state : State Page) : Event Page → Reply × State Page
  | .madvise call => dksmMadvise kernel call state
  | .runStore buf => runStore kernel buf state
  | .environment mem => (.returned 0, { state with mem })

def run (state : State Page) (events : List (Event Page)) : State Page :=
  events.foldl (fun state event => (step kernel state event).2) state

theorem dksmMadvise_bookkeeping (call : Madvise) (kept : Bookkeeping state)
  (allocated : state.pwd = none → call.kmallocPwd = true)
  (bound : scannedSoFar state + call.pages.length < 2 ^ 64) :
  Bookkeeping (dksmMadvise kernel call state).2 := by
  have startedKept := kept.table
  rw [dksmMadvise, lazyInit_bookkeeping kept allocated]
  rw [scannedSoFar_eq] at bound
  simp only
  split
  · exact startedKept
  split
  · exact startedKept
  split
  · rename_i running
    refine ⟨startedKept.mutexFree, ?_, ?_⟩
    · intro after same
      cases same
      exact walkPageRange_consistent kernel call.vma call.pages state.mem state.table
        (startedKept.consistent state.table rfl) bound
    intro stop
    exact absurd (running.symm.trans stop) (by decide)
  · exact startedKept

theorem step_bookkeeping (kept : Bookkeeping state) (ok : EventOk state event) :
  Bookkeeping (step kernel state event).2 := by
  cases event with
  | madvise call => exact dksmMadvise_bookkeeping kernel call kept ok.1 ok.2
  | runStore buf => exact (runStore_bookkeeping kernel buf kept).1
  | environment mem => exact { kept with }

theorem run_bookkeeping (kept : Bookkeeping state) (events : List (Event Page))
  (ok : ∀ before event after, events = before ++ event :: after → EventOk (run kernel state before) event) :
  Bookkeeping (run kernel state events) := by
  induction events using List.reverseRecOn with
  | nil => exact kept
  | append_singleton before event ih =>
    rw [run, List.foldl_append]
    refine step_bookkeeping kernel (ih fun first other last split => ?_) (ok before event [] rfl)
    exact ok first other (last ++ [event]) (by simp [split])

theorem dksmMadvise_not_blocked (call : Madvise) (free : state.mutexHeld = false) :
  (dksmMadvise kernel call state).1 ≠ .blocked := by
  unfold dksmMadvise
  rcases lazyInit_cases call state with ⟨held, _⟩ | ⟨_, _, init⟩ | init
  · rw [free] at held
    cases held
  · simp [init]
  simp only [init, free]
  split
  · simp
  split
  · contradiction
  · split <;> simp

theorem step_not_blocked (kept : Bookkeeping state) (event : Event Page) :
  (step kernel state event).1 ≠ .blocked := by
  cases event with
  | madvise call => exact dksmMadvise_not_blocked kernel call kept.mutexFree
  | runStore buf => exact (runStore_bookkeeping kernel buf kept).2
  | environment mem => simp [step]

/-- In every state reached by events that meet `EventOk`, counters and table are in
step, a stopped module has forgotten everything, and no later call can block. -/
theorem bookkeeping_reachable (mem : Memory Page) (kmalloc configSysfs : Bool) (events : List (Event Page))
  (ok : ∀ before event after, events = before ++ event :: after →
    EventOk (run kernel (dksmInit mem kmalloc configSysfs) before) event) :
  let state := run kernel (dksmInit mem kmalloc configSysfs) events
  state.mutexHeld = false ∧ (∀ pwd, state.pwd = some pwd →
      pwd.htableSize = tableSize pwd.hashtable ∧ pwd.pagesMerged ≤ pwd.pagesScanned ∧
        pwd.htableSize ≤ pwd.pagesScanned - pwd.pagesMerged ∧
        (state.dksmRun = dksmRunStop →
          pwd.toCounters = ⟨0, 0, 0, 0⟩ ∧ ∀ bucket, pwd.hashtable bucket = [])) ∧
    ∀ event, (step kernel state event).1 ≠ .blocked := by
  intro state
  have kept : Bookkeeping state :=
    run_bookkeeping kernel (bookkeeping_init mem kmalloc configSysfs) events ok
  refine ⟨kept.mutexFree, ?_, step_not_blocked kernel kept⟩
  intro pwd found
  obtain ⟨size, balance⟩ := kept.consistent pwd found
  refine ⟨size, by omega, by omega, ?_⟩
  intro stop
  exact kept.stopped stop pwd found

end

def emptyMemory : Memory Bool :=
  ⟨fun _ => none, fun _ => false, fun _ => true, fun _ => false, fun _ => 0, fun _ => 0⟩

def sampleEnv : Env := ⟨true, fun _ => true, fun _ => none, fun _ => true⟩

def sampleCall (kmallocPwd : Bool) : Madvise :=
  ⟨⟨0, ⟨true, false⟩⟩, true, kmallocPwd, [(0x1000, sampleEnv)]⟩

theorem bookkeeping_sample :
  (run sampleKernel (dksmInit emptyMemory false false) [.madvise (sampleCall true)]).mutexHeld = false :=
  (bookkeeping_reachable sampleKernel emptyMemory false false [.madvise (sampleCall true)] (by
    intro before event after split
    cases before with
    | nil =>
      cases split
      exact ⟨fun _ => rfl, by decide⟩
    | cons first rest => simp at split)).1

theorem lazyInit_leaks_mutex :
  let state := run sampleKernel (dksmInit emptyMemory false true) [.madvise (sampleCall false)]
  state.mutexHeld = true ∧ (step sampleKernel state (.madvise (sampleCall true))).1 = .blocked :=
  ⟨rfl, rfl⟩

end Spacer.Dksm
