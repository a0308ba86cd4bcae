import Spacer.Dksm.Transparent
import Spacer.Lib.Buckets

/-!
Deduplication: every advertised page is backed by the one recorded frame with its contents.
-/

namespace Spacer.Dksm

open Lib

def Replaceable (env : Env) (mem : Memory Page) (vma : Vma) (pte : Pte) : Prop :=
  ∃ addr, env.pageAddressInVma pte.pfn = some addr ∧ env.mmFindPmd addr = true ∧
    mem.ptes (vma.vmMm, addr) = some pte

theorem Replaceable.replacePage_isSome (replaceable : Replaceable env mem vma pte) (kpage : Nat) :
  ∃ after, replacePage env mem vma pte.pfn kpage pte = some after := by
  obtain ⟨addr, found, pmd, mapped⟩ := replaceable
  exact ⟨mem.redirect (vma.vmMm, addr) pte.pfn kpage (mkPte kpage vma.vmPageProt), by
    simp [replacePage, found, pmd, mapped]⟩

variable (kernel : Kernel Page)

theorem scanBucket_clean [DecidableEq Page]
  (current : ∀ iter ∈ bucket, env.getPageUnlessZero iter.pfn = true ∧
    iter.checksum = calcChecksum kernel (mem.content iter.pfn))
  (replaceable : (∃ iter ∈ bucket, mem.content pte.pfn = mem.content iter.pfn) →
    Replaceable env mem vma pte) (counters : Counters) :
  let scan := scanBucket kernel env vma pte (calcChecksum kernel (mem.content pte.pfn)) mem counters bucket
  scan.bucket = bucket ∧
    (scan.merged = true ↔ ∃ iter ∈ bucket, mem.content pte.pfn = mem.content iter.pfn) := by
  induction bucket generalizing counters with
  | nil => simp [scanBucket]
  | cons iter rest ih =>
    obtain ⟨live, recorded⟩ := current iter List.mem_cons_self
    have tail := ih (fun other member => current other (List.mem_cons_of_mem _ member)) (by
        rintro ⟨other, member, same⟩
        exact replaceable ⟨other, List.mem_cons_of_mem _ member, same⟩)
    by_cases identical : mem.content pte.pfn = mem.content iter.pfn
    · have sameChecksum : iter.checksum = calcChecksum kernel (mem.content pte.pfn) := by
        rw [recorded, identical]
      obtain ⟨after, replaced⟩ :=
        (replaceable ⟨iter, List.mem_cons_self, identical⟩).replacePage_isSome iter.pfn
      have cancel := replacePage_getPage env mem vma pte.pfn iter.pfn pte
      rw [replaced, Option.map_eq_some_iff] at cancel
      obtain ⟨during, during_eq, _⟩ := cancel
      have current : (mem.getPage iter.pfn).content = mem.content := rfl
      simp only [scanBucket, sameChecksum, live, current, identical, during_eq]
      simp
    by_cases sameChecksum : iter.checksum = calcChecksum kernel (mem.content pte.pfn)
    · have current : (mem.getPage iter.pfn).content = mem.content := rfl
      have unchanged : calcChecksum kernel (mem.content iter.pfn) =
          calcChecksum kernel (mem.content pte.pfn) := recorded.symm.trans sameChecksum
      simp only [scanBucket, sameChecksum, live, current, identical, unchanged, Memory.putPage_getPage]
      simpa [Scan.keep, identical] using tail counters
    rw [scanBucket, if_pos sameChecksum]
    simpa [Scan.keep, identical] using tail counters

structure Dedup (slots : List Slot) (mem : Memory Page) (pwd : PageWalkData) : Prop where
  placed : ∀ bucket, ∀ iter ∈ pwd.hashtable bucket,
    iter.checksum = calcChecksum kernel (mem.content iter.pfn) ∧ kernel.hashMin iter.checksum = bucket
  distinct : ∀ bucket, ((pwd.hashtable bucket).map fun iter => mem.content iter.pfn).Nodup
  backed : ∀ slot ∈ slots, ∃ pte, mem.ptes slot = some pte ∧ Recorded pwd pte.pfn
  origin : ∀ pfn, Recorded pwd pfn → ∃ slot ∈ slots, mem.read slot = some (mem.content pfn)

variable {kernel}

structure CleanPage (env : Env) (vma : Vma) (addr : Nat) (mem : Memory Page)
  (pwd : PageWalkData) : Prop where
  allocated : env.kmalloc = true
  live : ∀ pfn, Recorded pwd pfn → env.getPageUnlessZero pfn = true
  present : ∃ pte, mem.ptes (vma.vmMm, addr) = some pte ∧ mem.pageAnon pte.pfn = true ∧
    mem.pageTransCompound pte.pfn = false
  replaced : ∀ pte pfn, mem.ptes (vma.vmMm, addr) = some pte → Recorded pwd pfn →
    mem.content pte.pfn = mem.content pfn → Replaceable env mem vma pte

/-- The page is readable, and a frame that is not recorded yet is found at the
advertised address by `page_address_in_vma`. -/
def Targeted (env : Env) (vma : Vma) (addr : Nat) (mem : Memory Page) (pwd : PageWalkData) :
  Prop :=
  ∀ pte, mem.ptes (vma.vmMm, addr) = some pte → pte.prot.access = true ∧
    (Recorded pwd pte.pfn ∨ env.pageAddressInVma pte.pfn = some addr)

theorem dedup_empty (kernel : Kernel Page) (mem : Memory Page)
  (empty : ∀ bucket, pwd.hashtable bucket = []) : Dedup kernel [] mem pwd := by
  refine ⟨?_, ?_, ?_, ?_⟩
  · intro bucket iter member
    simp [empty] at member
  · intro bucket
    simp [empty]
  · intro slot listed
    simp at listed
  rintro pfn ⟨bucket, iter, member, _⟩
  simp [empty] at member

section

variable (dedup : Dedup kernel slots mem pwd)
include dedup

theorem Dedup.mem_bucket (member : iter ∈ pwd.hashtable bucket) :
  iter ∈ pwd.hashtable (kernel.hashMin (calcChecksum kernel (mem.content iter.pfn))) := by
  obtain ⟨checksum, place⟩ := dedup.placed bucket iter member
  rw [← checksum, place]
  exact member

theorem Dedup.descriptor_unique (leftMem : left ∈ pwd.hashtable bucket) (rightMem : right ∈ pwd.hashtable bucket)
  (same : mem.content left.pfn = mem.content right.pfn) : left = right := by
  exact List.inj_on_of_nodup_map (dedup.distinct bucket) leftMem rightMem same

theorem Dedup.recorded_unique (leftRecorded : Recorded pwd left) (rightRecorded : Recorded pwd right)
  (same : mem.content left = mem.content right) : left = right := by
  obtain ⟨leftBucket, leftIter, leftMem, rfl⟩ := leftRecorded
  obtain ⟨rightBucket, rightIter, rightMem, rfl⟩ := rightRecorded
  have leftHere := dedup.mem_bucket leftMem
  have rightHere := dedup.mem_bucket rightMem
  rw [← same] at rightHere
  exact congrArg PageDescriptor.pfn (dedup.descriptor_unique leftHere rightHere same)

/-- What the run assumes of a page when its callback starts: it is present,
anonymous and not huge, the allocation succeeds, recorded frames are live, and
`replace_page` succeeds if a recorded page has the same contents. -/
theorem Dedup.scanPage [DecidableEq Page] (clean : CleanPage env vma addr mem pwd) (mapped : mem.ptes (vma.vmMm, addr) = some pte) :
  let bucket := kernel.hashMin (calcChecksum kernel (mem.content pte.pfn))
  let scan := scanPage kernel env vma pte mem pwd
  scan.bucket = pwd.hashtable bucket ∧ (scan.merged = true ↔
      ∃ iter ∈ pwd.hashtable bucket, mem.content pte.pfn = mem.content iter.pfn) := by
  refine scanBucket_clean kernel ?_ ?_ _
  · intro iter member
    exact ⟨clean.live iter.pfn ⟨_, iter, member, rfl⟩, (dedup.placed _ iter member).1⟩
  rintro ⟨iter, member, same⟩
  exact clean.replaced pte iter.pfn mapped ⟨_, iter, member, rfl⟩ same

theorem Dedup.merge (mapped : mem.ptes (vma.vmMm, addr) = some pte)
  (targeted : Recorded pwd pte.pfn ∨ env.pageAddressInVma pte.pfn = some addr)
  (member : iter ∈ pwd.hashtable bucket) (merge : Merge kernel env vma pte checksum mem after iter)
  (data : PageWalkData) (sameTable : data.hashtable = pwd.hashtable) :
  Dedup kernel (slots ++ [(vma.vmMm, addr)]) after data := by
  have same := merge.sameReads
  have recorded : ∀ pfn, Recorded data pfn ↔ Recorded pwd pfn := by
    intro pfn
    rw [Recorded, sameTable]
    exact Iff.rfl
  have target : Recorded pwd iter.pfn := ⟨bucket, iter, member, rfl⟩
  obtain ⟨found, address, foundMapped, redirected⟩ := replacePage_eq_some merge.replaced
  have entries : after.ptes = Function.update mem.ptes (vma.vmMm, found)
      (some (mkPte iter.pfn vma.vmPageProt)) := by
    rw [redirected, Memory.ptes_redirect]
  have kept : ∀ slot pte, mem.ptes slot = some pte → Recorded pwd pte.pfn →
      ∃ pte, after.ptes slot = some pte ∧ Recorded pwd pte.pfn := by
    intro slot old oldMapped oldRecorded
    by_cases here : slot = (vma.vmMm, found)
    · exact ⟨mkPte iter.pfn vma.vmPageProt, by rw [entries, here, Function.update_self], target⟩
    · exact ⟨old, by rw [entries, Function.update_of_ne here, oldMapped], oldRecorded⟩
  refine ⟨?_, ?_, ?_, ?_⟩
  · rw [sameTable, same.content]
    exact dedup.placed
  · rw [sameTable, same.content]
    exact dedup.distinct
  · intro slot listed
    simp only [recorded]
    rcases List.mem_append.mp listed with old | new
    · obtain ⟨oldPte, oldMapped, oldRecorded⟩ := dedup.backed slot old
      exact kept slot oldPte oldMapped oldRecorded
    rw [List.mem_singleton] at new
    subst new
    rcases targeted with already | own
    · exact kept _ pte mapped already
    rw [own, Option.some.injEq] at address
    subst address
    exact ⟨mkPte iter.pfn vma.vmPageProt, by rw [entries, Function.update_self], target⟩
  intro pfn known
  obtain ⟨slot, listed, reads⟩ := dedup.origin pfn ((recorded pfn).mp known)
  exact ⟨slot, List.mem_append_left _ listed, by rw [same.read, reads, same.content]⟩

theorem Dedup.record (mapped : mem.ptes slot = some pte)
  (vaddr : Nat) (data : PageWalkData)
  (fresh : ∀ iter ∈ pwd.hashtable (kernel.hashMin (calcChecksum kernel (mem.content pte.pfn))),
    mem.content pte.pfn ≠ mem.content iter.pfn)
  (added : data.hashtable = Function.update pwd.hashtable
    (kernel.hashMin (calcChecksum kernel (mem.content pte.pfn)))
    (⟨calcChecksum kernel (mem.content pte.pfn), pte.pfn, vaddr⟩ ::
      pwd.hashtable (kernel.hashMin (calcChecksum kernel (mem.content pte.pfn))))) :
  Dedup kernel (slots ++ [slot]) mem data := by
  have members : ∀ bucket iter, iter ∈ data.hashtable bucket ↔ iter ∈ pwd.hashtable bucket ∨
        (bucket = kernel.hashMin (calcChecksum kernel (mem.content pte.pfn)) ∧
          iter = ⟨calcChecksum kernel (mem.content pte.pfn), pte.pfn, vaddr⟩) := by
    intro bucket iter
    rw [added]
    by_cases here : bucket = kernel.hashMin (calcChecksum kernel (mem.content pte.pfn))
    · subst here
      simp [or_comm]
    · simp [here]
  have own : Recorded data pte.pfn :=
    ⟨_, _, (members _ _).mpr (.inr ⟨rfl, rfl⟩), rfl⟩
  refine ⟨?_, ?_, ?_, ?_⟩
  · intro bucket iter member
    rcases (members bucket iter).mp member with old | ⟨rfl, rfl⟩
    · exact dedup.placed bucket iter old
    · exact ⟨rfl, rfl⟩
  · intro bucket
    rw [added]
    by_cases here : bucket = kernel.hashMin (calcChecksum kernel (mem.content pte.pfn))
    · subst here
      rw [Function.update_self, List.map_cons, List.nodup_cons]
      refine ⟨?_, dedup.distinct _⟩
      intro present
      obtain ⟨iter, member, same⟩ := List.mem_map.mp present
      exact fresh iter member same.symm
    rw [Function.update_of_ne here]
    exact dedup.distinct bucket
  · intro other listed
    rcases List.mem_append.mp listed with old | new
    · obtain ⟨oldPte, oldMapped, bucket, iter, member, same⟩ := dedup.backed other old
      exact ⟨oldPte, oldMapped, bucket, iter, (members bucket iter).mpr (.inl member), same⟩
    rw [List.mem_singleton] at new
    subst new
    exact ⟨pte, mapped, own⟩
  rintro pfn ⟨bucket, iter, member, rfl⟩
  rcases (members bucket iter).mp member with old | ⟨_, rfl⟩
  · obtain ⟨other, listed, reads⟩ := dedup.origin iter.pfn ⟨bucket, iter, old, rfl⟩
    exact ⟨other, List.mem_append_left _ listed, reads⟩
  · exact ⟨slot, by simp, by simp [Memory.read, mapped]⟩

variable [DecidableEq Page]

theorem Dedup.pageCmpAndMerge (clean : CleanPage env vma addr mem pwd) (targeted : Targeted env vma addr mem pwd) :
  (pageCmpAndMerge kernel env vma addr mem pwd).2.2 = .success ∧
    Dedup kernel (slots ++ [(vma.vmMm, addr)]) (pageCmpAndMerge kernel env vma addr mem pwd).1
      (pageCmpAndMerge kernel env vma addr mem pwd).2.1 := by
  obtain ⟨pte, mapped, anon, small⟩ := clean.present
  obtain ⟨access, address⟩ := targeted pte mapped
  have passes : mergeable mem pte = true := by simp [mergeable, access, anon, small]
  obtain ⟨whole, mergedIff⟩ := dedup.scanPage clean mapped
  have spec := scanPage_spec kernel env vma pte mem pwd
  simp only [Dksm.pageCmpAndMerge, mapped, passes, clean.allocated, compareAndMerge]
  refine ⟨rfl, ?_⟩
  cases merged : (Dksm.scanPage kernel env vma pte mem pwd).merged with
  | true =>
    obtain ⟨_, iter, member, merge⟩ := spec.merged merged
    rw [whole] at member
    refine dedup.merge mapped address member merge _ ?_
    simp [whole]
  | false =>
    have unmerged := (spec.unmerged merged).1
    simp only [Bool.false_eq_true, if_false, Bool.true_eq_false]
    rw [unmerged]
    refine dedup.record mapped addr _ ?_ (by simp [whole])
    intro iter member same
    have impossible := mergedIff.mpr ⟨iter, member, same⟩
    rw [merged] at impossible
    cases impossible

structure Deduplicated (slots : List Slot) (mem : Memory Page) (pwd : PageWalkData) : Prop where
  sameFrame : ∀ left ∈ slots, ∀ right ∈ slots, mem.read left = mem.read right →
    (mem.ptes left).map Pte.pfn = (mem.ptes right).map Pte.pfn
  recordedOnce : ∀ slot ∈ slots, ∀ page, mem.read slot = some page →
    tableCount pwd.hashtable (fun iter => mem.content iter.pfn = page) = 1
  recordedOnly : ∀ page, (∀ slot ∈ slots, mem.read slot ≠ some page) →
    tableCount pwd.hashtable (fun iter => mem.content iter.pfn = page) = 0

theorem Dedup.count_recorded (recorded : Recorded pwd pfn) :
  tableCount pwd.hashtable (fun iter => mem.content iter.pfn = mem.content pfn) = 1 := by
  obtain ⟨bucket, iter, member, rfl⟩ := recorded
  have here := dedup.mem_bucket member
  rw [tableCount_eq_bucket (kernel.hashMin (calcChecksum kernel (mem.content iter.pfn)))]
  · have once := List.count_eq_one_of_mem (dedup.distinct _)
      (List.mem_map_of_mem (f := fun iter => mem.content iter.pfn) here)
    rw [List.count, List.countP_map] at once
    rw [← once]
    refine List.countP_congr fun other _ => ?_
    simp
  intro other entry entryMem same
  obtain ⟨checksum, place⟩ := dedup.placed other entry entryMem
  rw [← place, checksum, of_decide_eq_true same]

theorem Dedup.deduplicated : Deduplicated slots mem pwd where
  sameFrame := by
    intro left leftMem right rightMem same
    obtain ⟨leftPte, leftMapped, leftRecorded⟩ := dedup.backed left leftMem
    obtain ⟨rightPte, rightMapped, rightRecorded⟩ := dedup.backed right rightMem
    simp only [Memory.read, leftMapped, rightMapped, Option.map_some, Option.some.injEq] at same ⊢
    exact dedup.recorded_unique leftRecorded rightRecorded same
  recordedOnce := by
    intro slot listed page reads
    obtain ⟨pte, mapped, recorded⟩ := dedup.backed slot listed
    simp only [Memory.read, mapped, Option.map_some, Option.some.injEq] at reads
    rw [← reads]
    exact dedup.count_recorded recorded
  recordedOnly := by
    intro page absent
    refine tableCount_eq_zero fun bucket iter member => decide_eq_false ?_
    intro same
    obtain ⟨slot, listed, reads⟩ := dedup.origin iter.pfn ⟨bucket, iter, member, rfl⟩
    exact absent slot listed (same ▸ reads)

omit dedup

theorem Dedup.walkPageRange (vma : Vma) (pages : List (Nat × Env)) :
  ∀ {slots : List Slot} {mem : Memory Page} {pwd : PageWalkData}, Dedup kernel slots mem pwd →
    WalkAll kernel (fun env addr mem pwd =>
      CleanPage env vma addr mem pwd ∧ Targeted env vma addr mem pwd) vma pages mem pwd →
    Dedup kernel (slots ++ pages.map fun page => (vma.vmMm, page.1))
      (walkPageRange kernel vma pages mem pwd).1
      (walkPageRange kernel vma pages mem pwd).2.1 := by
  induction pages with
  | nil =>
    intro slots mem pwd dedup _
    simpa [Dksm.walkPageRange] using dedup
  | cons page rest ih =>
    rintro slots mem pwd dedup ⟨⟨clean, targeted⟩, others⟩
    obtain ⟨success, first⟩ := dedup.pageCmpAndMerge clean targeted
    have tail := ih first (others success)
    rw [Dksm.walkPageRange]
    generalize Dksm.pageCmpAndMerge kernel page.2 vma page.1 mem pwd = result at success tail
    obtain ⟨after, data, outcome⟩ := result
    dsimp only at success
    subst success
    simpa using tail

variable (kernel)

def RunAll (Holds : Vma → Env → Nat → Memory Page → PageWalkData → Prop) : List Madvise → State Page → Prop
  | [], _ => True
  | call :: rest, state =>
    call.advice = true ∧ (∀ pwd, state.pwd = some pwd →
        WalkAll kernel (Holds call.vma) call.vma call.pages state.mem pwd) ∧
      RunAll Holds rest (dksmMadvise kernel call state).2

def runCalls (state : State Page) (calls : List Madvise) : State Page :=
  calls.foldl (fun state call => (dksmMadvise kernel call state).2) state

def advertised (calls : List Madvise) : List Slot :=
  calls.flatMap fun call => call.pages.map fun page => (call.vma.vmMm, page.1)

structure Running (state : State Page) (pwd : PageWalkData) : Prop where
  found : state.pwd = some pwd
  free : state.mutexHeld = false
  merging : state.dksmRun = dksmRunMerge

theorem dksmMadvise_running (running : Running state pwd) (advice : call.advice = true) :
  (dksmMadvise kernel call state).2 = { state with
      mem := (walkPageRange kernel call.vma call.pages state.mem pwd).1
      pwd := some (walkPageRange kernel call.vma call.pages state.mem pwd).2.1 } := by
  simp [dksmMadvise, lazyInit, running.found, advice, running.free, running.merging]

theorem RunAll.take (count : Nat) (all : RunAll kernel Holds calls state) :
  RunAll kernel Holds (calls.take count) state := by
  induction calls generalizing count state with
  | nil => simp [RunAll]
  | cons call rest ih =>
    cases count with
    | zero => simp [RunAll]
    | succ count => exact ⟨all.1, all.2.1, ih count all.2.2⟩

def CleanTargeted (vma : Vma) (env : Env) (addr : Nat) (mem : Memory Page) (pwd : PageWalkData) :
  Prop :=
  CleanPage env vma addr mem pwd ∧ Targeted env vma addr mem pwd

theorem Dedup.runCalls (calls : List Madvise) :
  ∀ {slots : List Slot} {state : State Page} {pwd : PageWalkData}, Running state pwd →
    Dedup kernel slots state.mem pwd → RunAll kernel CleanTargeted calls state →
    ∃ data, Running (runCalls kernel state calls) data ∧
      Dedup kernel (slots ++ advertised calls) (runCalls kernel state calls).mem data := by
  induction calls with
  | nil =>
    intro slots state pwd running dedup _
    exact ⟨pwd, running, by simpa [advertised, Dksm.runCalls] using dedup⟩
  | cons call rest ih =>
    intro slots state pwd running dedup ⟨advice, walk, others⟩
    have first := dedup.walkPageRange call.vma call.pages (walk pwd running.found)
    have stepped := dksmMadvise_running kernel running advice
    have next : Running (dksmMadvise kernel call state).2
        (Dksm.walkPageRange kernel call.vma call.pages state.mem pwd).2.1 := by
      rw [stepped]
      exact ⟨rfl, running.free, running.merging⟩
    obtain ⟨data, lastRunning, lastDedup⟩ := ih next (by rw [stepped]; exact first) others
    refine ⟨data, lastRunning, ?_⟩
    simpa [advertised, Dksm.runCalls, List.append_assoc] using lastDedup

theorem deduplicated_after_calls {state : State Page} {pwd : PageWalkData}
  (running : Running state pwd) (empty : ∀ bucket, pwd.hashtable bucket = [])
  (calls : List Madvise) (clean : RunAll kernel CleanTargeted calls state) (count : Nat) :
  ∃ data, (runCalls kernel state (calls.take count)).pwd = some data ∧
    Deduplicated (advertised (calls.take count)) (runCalls kernel state (calls.take count)).mem data := by
  obtain ⟨data, lastRunning, dedup⟩ := Dedup.runCalls kernel (calls.take count) running
    (dedup_empty kernel state.mem empty) (clean.take kernel count)
  exact ⟨data, lastRunning.found, dedup.deduplicated⟩

end

def sharedMemory : Memory Bool where
  ptes := fun slot =>
    if slot = (1, 0x1000) then some ⟨1, readOnly⟩
    else if slot = (0, 0x1000) ∨ slot = (0, 0x2000) then some ⟨0, readOnly⟩
    else none
  content := fun _ => false
  pageAnon := fun _ => true
  pageTransCompound := fun _ => false
  refcount := fun frame => if frame = 0 then 2 else 1
  mapcount := fun frame => if frame = 0 then 2 else 1

def sharedState : State Bool := ⟨sharedMemory, dksmRunMerge, false, some initPwd⟩

theorem sharedState_clean (addr : Nat) (mapped : addr = 0x1000 ∨ addr = 0x2000) :
  RunAll sampleKernel (fun vma env addr mem pwd => CleanPage env vma addr mem pwd)
    [advertise 1 0x1000, advertise 0 addr] sharedState := by
  refine ⟨rfl, ?_, rfl, ?_, trivial⟩
  · intro pwd found
    refine ⟨⟨rfl, fun _ _ => rfl, ⟨⟨1, readOnly⟩, rfl, rfl, rfl⟩, ?_⟩, fun _ => trivial⟩
    intro pte pfn present _ _
    cases present
    exact ⟨0x1000, rfl, rfl, rfl⟩
  intro pwd found
  rcases mapped with rfl | rfl
  all_goals
    refine ⟨⟨rfl, fun _ _ => rfl, ⟨⟨0, readOnly⟩, rfl, rfl, rfl⟩, ?_⟩, fun _ => trivial⟩
    intro pte pfn present _ _
    cases present
    exact ⟨0x1000, rfl, rfl, rfl⟩

theorem deduplicated_sample : ∃ data, (runCalls sampleKernel sharedState
      ([advertise 1 0x1000, advertise 0 0x1000].take 2)).pwd = some data ∧
    Deduplicated (advertised ([advertise 1 0x1000, advertise 0 0x1000].take 2))
      (runCalls sampleKernel sharedState ([advertise 1 0x1000, advertise 0 0x1000].take 2)).mem data := by
  have clean := sharedState_clean 0x1000 (.inl rfl)
  have running : Running sharedState initPwd := ⟨rfl, rfl, rfl⟩
  refine deduplicated_after_calls sampleKernel running (fun _ => rfl)
    [advertise 1 0x1000, advertise 0 0x1000] ⟨rfl, ?_, rfl, ?_, trivial⟩ 2
  · intro pwd found
    refine ⟨⟨(clean.2.1 pwd found).1, ?_⟩, fun _ => trivial⟩
    intro pte present
    cases present
    exact ⟨rfl, .inr rfl⟩
  intro pwd found
  refine ⟨⟨(clean.2.2.2.1 pwd found).1, ?_⟩, fun _ => trivial⟩
  intro pte present
  cases present
  exact ⟨rfl, .inr rfl⟩

/-- Process 0 advertises its second mapping of frame 0; `page_address_in_vma` names
the first one, so that is the entry the merge redirects. -/
theorem second_mapping_not_merged :
  RunAll sampleKernel (fun vma env addr mem pwd => CleanPage env vma addr mem pwd)
      [advertise 1 0x1000, advertise 0 0x2000] sharedState ∧
    ∀ data, ¬Deduplicated (advertised [advertise 1 0x1000, advertise 0 0x2000])
      (runCalls sampleKernel sharedState [advertise 1 0x1000, advertise 0 0x2000]).mem data := by
  refine ⟨sharedState_clean 0x2000 (.inr rfl), fun data dedup => ?_⟩
  have same := dedup.sameFrame (1, 0x1000) (by simp [advertised, advertise]) (0, 0x2000)
    (by simp [advertised, advertise]) rfl
  revert same
  decide

end Spacer.Dksm
