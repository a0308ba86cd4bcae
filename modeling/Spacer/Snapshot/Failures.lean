import Spacer.Lib.Runs
import Spacer.Snapshot.FirstDiff
import Spacer.Snapshot.Rebase

/-! Snapshots that fail after the dirty log or the bitmap of a region was cleared. -/

namespace Spacer.Snapshot

open Lib Loader List

inductive FileOperation
  | openFile
  | setLength
  | flush
  | syncAll
  deriving DecidableEq

inductive CreateSnapshotError
  | microvmState
  | memoryBackingFile (operation : FileOperation)
  | dirtyBitmap
  | memory (cause : SnapshotError)

/-- Which steps of a call succeed: everything up to the file of the microVM state, the
operations on the memory file, the ioctl for a slot, and the seeks and writes for the
region in a slot. -/
structure Answers where
  microvmState : Bool
  file : FileOperation → Bool
  dirtyLog : Nat → Bool
  dumped : Nat → Bool

variable (answers : Answers)

def Answers.Reached : Prop :=
  answers.microvmState = true ∧ answers.file .openFile = true ∧ answers.file .setLength = true ∧
    answers.dirtyLog 0 = true

def Answers.Complete (slots : Nat) : Prop :=
  (∀ slot < slots, answers.dirtyLog slot = true ∧ answers.dumped slot = true) ∧
    answers.file .flush = true ∧ answers.file .syncAll = true

namespace Vm

/-- What KVM has logged for a slot is forgotten once it was read. -/
def clearLog (vm : Vm) (slot : Nat) : Vm :=
  { vm with dirtyLog := fun other page => if other = slot then false else vm.dirtyLog other page }

def getDirtyBitmap (answers : Answers) :
  Nat → List GuestRegionMmap → Vm → Except CreateSnapshotError (List (List UInt64)) × Vm
  | _, [], vm => (.ok [], vm)
  | slot, region :: rest, vm =>
    if answers.dirtyLog slot then
      let (later, cleared) := getDirtyBitmap answers (slot + 1) rest (vm.clearLog slot)
      (later.map (logWords (region.len / pageSize) (vm.dirtyLog slot) :: ·), cleared)
    else (.error .dirtyBitmap, vm)

def dumpDirty (answers : Answers) (contents : Contents) :
  Nat → Nat → List GuestRegionMmap → List (List UInt64) → Writer →
    Except CreateSnapshotError Writer × List GuestRegionMmap
  | slot, writerOffset, region :: rest, kvmBitmap :: bitmaps, writer =>
    if answers.dumped slot then
      match dumpDirtyRegion region contents writerOffset kvmBitmap writer with
      | .error cause => (.error (.memory cause), region :: rest)
      | .ok writer =>
        let (result, later) := dumpDirty answers contents (slot + 1)
          (writerOffset + region.len) rest bitmaps writer
        (result, region.reset :: later)
    else (.error (.memory .writeMemory), region :: rest)
  | _, _, [], _, writer => (.ok writer, [])
  | _, _, regions, [], _ => (.error (.memory .unwrapNone), regions)

def finish (writer : Writer) : Except CreateSnapshotError (SparseFile UInt8) :=
  if answers.file .flush = false then .error (.memoryBackingFile .flush)
  else if answers.file .syncAll = false then .error (.memoryBackingFile .syncAll)
  else .ok writer.file

def snapshotMemory (vm : Vm) (writer : Writer) : SnapshotType → Except CreateSnapshotError Writer × Vm
  | .diff =>
    match vm.getDirtyBitmap answers 0 vm.regions with
    | (.error cause, cleared) => (.error cause, cleared)
    | (.ok bitmaps, cleared) =>
      let (result, regions) := dumpDirty answers vm.contents 0 0 vm.regions bitmaps writer
      (result, { cleared with regions })
  | .full =>
    if (List.range vm.regions.length).all answers.dumped then
      ((dump vm.regions vm.contents writer).mapError .memory, vm)
    else (.error (.memory .writeMemory), vm)

def createSnapshot (snapshotType : SnapshotType) (vm : Vm) :
  Except CreateSnapshotError (SparseFile UInt8) × Vm :=
  if answers.microvmState = false then (.error .microvmState, vm)
  else if answers.file .openFile = false then (.error (.memoryBackingFile .openFile), vm)
  else if answers.file .setLength = false then (.error (.memoryBackingFile .setLength), vm)
  else
    let (result, later) := vm.snapshotMemory answers
      ⟨SparseFile.empty.setLen (memSizeMib vm.regions * 1024 * 1024), 0⟩ snapshotType
    (result.bind (finish answers), later)

end Vm

/-! The session: the microVM and the memory file of the last successful snapshot, to which
`rebase-snap` has brought a differential one. -/

structure Session where
  vm : Vm
  last : Option (SparseFile UInt8)

inductive Event
  | write (write : Vm.Write)
  | createSnapshot (snapshotType : SnapshotType) (answers : Answers)

namespace Session

variable (sendfile : Nat → Nat → Int) (session : Session) (file : SparseFile UInt8)

def based : SnapshotType → Option (SparseFile UInt8)
  | .full => some file
  | .diff =>
    match session.last with
    | none => some file
    | some baseFile => (rebase sendfile file.length baseFile file).toOption

def step : Event → Session
  | .write write => { session with vm := session.vm.write write }
  | .createSnapshot snapshotType answers =>
    match session.vm.createSnapshot answers snapshotType with
    | (.error _, vm) => { session with vm }
    | (.ok file, vm) => ⟨vm, session.based sendfile file snapshotType⟩

def Reads (contents : Contents) (regions : List GuestRegionMmap) : Prop :=
  ∀ offset, (file.data offset).getD 0 = (memoryBytes contents regions)[offset]?.getD 0

def Restores : Event → Prop
  | .createSnapshot .diff answers =>
    ∀ file baseFile, (session.vm.createSnapshot answers .diff).1 = .ok file →
      session.last = some baseFile → ∀ steps, file.length ≤ steps →
        ∃ result, rebase sendfile steps baseFile file = .ok result ∧
          Reads result session.vm.contents session.vm.regions
  | _ => True

/-- A differential call that has read a dirty log succeeds, and the first snapshot is not
a differential one unless every page that is not zero is marked. -/
def Safe : Event → Prop
  | .createSnapshot .diff answers =>
    (answers.Reached → answers.Complete session.vm.regions.length) ∧
    (session.last = none → session.vm.Records fun _ => 0)
  | _ => True

end Session

variable {answers : Answers} {regions : List GuestRegionMmap} {vm later : Vm}
  {bitmaps : List (List UInt64)}

namespace Vm

theorem finish_ok (done : finish answers writer = .ok file) : file = writer.file := by
  unfold finish at done
  split at done
  · cases done
  split at done
  · cases done
  cases done
  rfl

theorem getDirtyBitmap_contents (answers : Answers) (slot : Nat) (regions : List GuestRegionMmap)
  (vm : Vm) : (vm.getDirtyBitmap answers slot regions).2.contents = vm.contents ∧
    (vm.getDirtyBitmap answers slot regions).2.regions = vm.regions := by
  induction regions generalizing slot vm with
  | nil => exact ⟨rfl, rfl⟩
  | cons region rest ih =>
    rw [getDirtyBitmap]
    split
    · exact ih (slot + 1) (vm.clearLog slot)
    · exact ⟨rfl, rfl⟩

theorem getDirtyBitmap_ok (read : (vm.getDirtyBitmap answers slot regions).1 = .ok bitmaps) (index : Nat) :
  bitmaps[index]? = regions[index]?.map fun region =>
    logWords (region.len / pageSize) (vm.dirtyLog (slot + index)) := by
  induction regions generalizing slot vm bitmaps index with
  | nil =>
    cases read
    rfl
  | cons region rest ih =>
    rw [getDirtyBitmap] at read
    split at read
    · dsimp only at read
      cases later : (getDirtyBitmap answers (slot + 1) rest (vm.clearLog slot)).1 with
      | error cause =>
        rw [later] at read
        cases read
      | ok bitmaps =>
        rw [later] at read
        cases read
        cases index with
        | zero => rfl
        | succ index =>
          have kept : (vm.clearLog slot).dirtyLog (slot + 1 + index) =
              vm.dirtyLog (slot + (index + 1)) := by
            funext page
            rw [clearLog]
            dsimp only
            rw [if_neg (by omega), Nat.add_assoc, Nat.add_comm 1]
          rw [getElem?_cons_succ, getElem?_cons_succ, ih later index, kept]
    · cases read

theorem dumpDirty_ok {contents : Contents} {later : List GuestRegionMmap}
  (known : ∀ index region, regions[index]? = some region → dirtyBitmap (slot + index) = bitmaps[index]?)
  (dumped : dumpDirty answers contents slot writerOffset regions bitmaps writer = (.ok final, later)) :
  dumpDirtyFrom contents dirtyBitmap slot writerOffset regions writer = .ok (later, final) := by
  induction regions generalizing slot writerOffset bitmaps writer later with
  | nil =>
    cases dumped
    rfl
  | cons region rest ih =>
    have here := known 0 region rfl
    cases bitmaps with
    | nil => cases dumped
    | cons kvmBitmap bitmaps =>
      rw [dumpDirty] at dumped
      split at dumped
      · split at dumped
        · cases dumped
        rename_i middle written
        generalize ran : dumpDirty answers contents (slot + 1) (writerOffset + region.len)
          rest bitmaps middle = outcome at dumped
        obtain ⟨result, others⟩ := outcome
        cases dumped
        have tail := ih (fun index other found => by
          rw [Nat.add_assoc, Nat.add_comm 1 index]
          exact known (index + 1) other found) ran
        rw [Nat.add_zero] at here
        rw [dumpDirtyFrom, here]
        dsimp only [getElem?_cons_zero]
        rw [bind_of_ok written, bind_of_ok tail]
        rfl
      · cases dumped

theorem getDirtyBitmap_cleared (read : (vm.getDirtyBitmap answers slot regions).1 = .ok bitmaps)
  (behind : slot ≤ other) (inside : other < slot + regions.length) (page : Nat) :
  (vm.getDirtyBitmap answers slot regions).2.dirtyLog other page = false := by
  have kept : ∀ (regions : List GuestRegionMmap) (slot : Nat) (vm : Vm), vm.dirtyLog other page = false →
        (vm.getDirtyBitmap answers slot regions).2.dirtyLog other page = false := by
    intro regions
    induction regions with
    | nil =>
      intro slot vm clear
      exact clear
    | cons region rest ih =>
      intro slot vm clear
      rw [getDirtyBitmap]
      split
      · refine ih (slot + 1) (vm.clearLog slot) ?_
        rw [clearLog]
        dsimp only
        rw [clear, ite_self]
      · exact clear
  induction regions generalizing slot vm bitmaps with
  | nil =>
    rw [length_nil] at inside
    omega
  | cons region rest ih =>
    rw [getDirtyBitmap] at read ⊢
    split at read
    · rename_i answered
      rw [if_pos answered]
      by_cases here : other = slot
      · refine kept rest (slot + 1) (vm.clearLog slot) ?_
        exact if_pos here
      cases later : (getDirtyBitmap answers (slot + 1) rest (vm.clearLog slot)).1 with
      | error cause =>
        dsimp only at read
        rw [later] at read
        cases read
      | ok bitmaps =>
        rw [length_cons] at inside
        exact ih later (by omega) (by omega)
    · cases read

abbrev freshFile (vm : Vm) : Writer :=
  ⟨SparseFile.empty.setLen (memSizeMib vm.regions * 1024 * 1024), 0⟩

theorem snapshotMemory_diff
  (dumped : vm.snapshotMemory answers vm.freshFile .diff = (.ok writer, later)) :
  snapshotMemoryToFile vm.getDirtyLog vm.regions vm.contents .diff = .ok (later.regions, writer.file) ∧
    later.contents = vm.contents ∧
    ∀ slot < vm.regions.length, ∀ page, later.dirtyLog slot page = false := by
  have contents := (getDirtyBitmap_contents answers 0 vm.regions vm).1
  have words := fun bitmaps => @getDirtyBitmap_ok answers vm.regions vm bitmaps 0
  have clear := fun bitmaps => @getDirtyBitmap_cleared answers vm.regions vm bitmaps 0
  simp only [snapshotMemory] at dumped
  generalize vm.getDirtyBitmap answers 0 vm.regions = outcome at dumped contents words clear
  obtain ⟨gathered, cleared⟩ := outcome
  cases gathered with
  | error cause => cases dumped
  | ok bitmaps =>
    dsimp only at dumped
    generalize ran : dumpDirty answers vm.contents 0 0 vm.regions bitmaps vm.freshFile = written at dumped
    obtain ⟨result, regions⟩ := written
    cases dumped
    obtain ⟨dirtyBitmap, read, maps⟩ := @Snapshot.getDirtyBitmap_ok vm.regions
      vm.getDirtyLog (fun _ _ _ => rfl)
    have known : ∀ index region, vm.regions[index]? = some region →
        dirtyBitmap (0 + index) = bitmaps[index]? := by
      intro index region found
      rw [words _ rfl index, found, Nat.zero_add, maps index region found]
      rfl
    refine ⟨?_, contents, fun slot inside page => clear _ rfl (Nat.zero_le _) (by omega) page⟩
    rw [snapshotMemoryToFile]
    rw [bind_of_ok read, Snapshot.dumpDirty, bind_of_ok (dumpDirty_ok known ran)]
    rfl

theorem createSnapshot_diff_ok (taken : vm.createSnapshot answers .diff = (.ok file, later)) :
  snapshotMemoryToFile vm.getDirtyLog vm.regions vm.contents .diff = .ok (later.regions, file) ∧
    later.contents = vm.contents := by
  unfold createSnapshot at taken
  split at taken
  · cases taken
  split at taken
  · cases taken
  split at taken
  · cases taken
  generalize dumped : vm.snapshotMemory answers vm.freshFile .diff = outcome at taken
  obtain ⟨result, after⟩ := outcome
  cases result with
  | error cause => cases taken
  | ok writer =>
    obtain ⟨done, rfl⟩ := Prod.mk.inj taken
    cases finish_ok done
    obtain ⟨ran, contents, _⟩ := snapshotMemory_diff dumped
    exact ⟨ran, contents⟩

theorem createSnapshot_full (answers : Answers) (vm : Vm) : (vm.createSnapshot answers .full).2 = vm ∧
    ∀ file, (vm.createSnapshot answers .full).1 = .ok file →
      file = .full (memoryBytes vm.contents vm.regions) := by
  unfold createSnapshot
  split
  · exact ⟨rfl, fun file taken => by cases taken⟩
  split
  · exact ⟨rfl, fun file taken => by cases taken⟩
  split
  · exact ⟨rfl, fun file taken => by cases taken⟩
  simp only [snapshotMemory]
  split
  · refine ⟨rfl, fun file taken => ?_⟩
    have whole := snapshotMemoryToFile_full vm.getDirtyLog vm.regions vm.contents
    obtain ⟨writer, dumped, whole⟩ := ok_of_bind whole
    rw [dumped] at taken
    cases finish_ok taken
    exact (Prod.mk.inj (Except.ok.inj whole)).2
  · exact ⟨rfl, fun file taken => by cases taken⟩

theorem getDirtyBitmap_complete (regions : List GuestRegionMmap) (slot : Nat) (vm : Vm)
  (complete : ∀ index < regions.length, answers.dirtyLog (slot + index) = true) :
  ∃ bitmaps, (vm.getDirtyBitmap answers slot regions).1 = .ok bitmaps := by
  induction regions generalizing slot vm with
  | nil => exact ⟨[], rfl⟩
  | cons region rest ih =>
    obtain ⟨bitmaps, read⟩ := ih (slot + 1) (vm.clearLog slot) fun index inside => by
      rw [Nat.add_assoc, Nat.add_comm 1 index]
      exact complete (index + 1) (Nat.succ_lt_succ inside)
    have here := complete 0 (Nat.succ_pos _)
    rw [Nat.add_zero] at here
    rw [getDirtyBitmap, if_pos here]
    dsimp only
    rw [read]
    exact ⟨_, rfl⟩

theorem dumpDirty_complete (contents : Contents) (regions : List GuestRegionMmap)
  (slot writerOffset : Nat) (bitmaps : List (List UInt64)) (writer : Writer)
  (slots : ∀ (index : Nat) region, regions[index]? = some region →
    ∃ kvmBitmap, bitmaps[index]? = some kvmBitmap ∧ SlotBitmap region kvmBitmap)
  (complete : ∀ index < regions.length, answers.dumped (slot + index) = true) :
  ∃ final, (dumpDirty answers contents slot writerOffset regions bitmaps writer).1 = .ok final := by
  induction regions generalizing slot writerOffset bitmaps writer with
  | nil => exact ⟨writer, by cases bitmaps <;> rfl⟩
  | cons region rest ih =>
    obtain ⟨kvmBitmap, first, bitmap⟩ := slots 0 region rfl
    cases bitmaps with
    | nil => cases first
    | cons head bitmaps =>
      cases first
      obtain ⟨middle, written, _⟩ := dumpDirtyRegion_flushed contents writerOffset bitmap writer
      have here := complete 0 (Nat.succ_pos _)
      rw [Nat.add_zero] at here
      rw [dumpDirty, if_pos here, written]
      exact ih (slot + 1) (writerOffset + region.len) bitmaps middle
        (fun index other found => slots (index + 1) other found) fun index inside => by
          rw [Nat.add_assoc, Nat.add_comm 1 index]
          exact complete (index + 1) (Nat.succ_lt_succ inside)

theorem snapshotMemory_complete
  (slots : ∀ slot < vm.regions.length, answers.dirtyLog slot = true ∧ answers.dumped slot = true) :
  ∃ writer later, vm.snapshotMemory answers vm.freshFile .diff = (.ok writer, later) := by
  obtain ⟨bitmaps, read⟩ := getDirtyBitmap_complete vm.regions 0 vm fun index inside => by
    rw [Nat.zero_add]
    exact (slots index inside).1
  have words := getDirtyBitmap_ok read
  obtain ⟨final, dumped⟩ := @dumpDirty_complete answers vm.contents vm.regions 0 0 bitmaps vm.freshFile
    (fun index region found => by
      rw [words index, found]
      exact ⟨_, rfl, slotBitmap_logWords region _⟩)
    (fun index inside => by
      rw [Nat.zero_add]
      exact (slots index inside).2)
  rw [snapshotMemory]
  generalize vm.getDirtyBitmap answers 0 vm.regions = outcome at read
  obtain ⟨gathered, cleared⟩ := outcome
  cases read
  exact ⟨final, _, Prod.ext dumped rfl⟩

theorem createSnapshot_reached (reached : answers.Reached)
  (dumped : vm.snapshotMemory answers vm.freshFile .diff = (result, later)) :
  vm.createSnapshot answers .diff = (result.bind (finish answers), later) := by
  obtain ⟨saved, opened, sized, _⟩ := reached
  simp only [createSnapshot, saved, opened, sized, Bool.true_eq_false, if_false, dumped]

theorem diff_regions {later : List GuestRegionMmap}
  (ran : snapshotMemoryToFile vm.getDirtyLog vm.regions vm.contents .diff = .ok (later, file)) :
  later = vm.regions.map GuestRegionMmap.reset := by
  obtain ⟨same, taken, _⟩ := snapshotMemoryToFile_diff (Records.refl vm).tracked
  rw [ran] at taken
  exact (Prod.mk.inj (Except.ok.inj taken)).1

theorem createSnapshot_diff_unfinished (reached : answers.Reached)
  (slots : ∀ slot < vm.regions.length, answers.dirtyLog slot = true ∧ answers.dumped slot = true)
  (unfinished : answers.file .flush = false ∨ answers.file .syncAll = false) :
  ∃ cause later, vm.createSnapshot answers .diff = (.error cause, later) ∧
    later.regions = vm.regions.map GuestRegionMmap.reset ∧ later.contents = vm.contents ∧
    ∀ slot < vm.regions.length, ∀ page, later.dirtyLog slot page = false := by
  obtain ⟨writer, later, dumped⟩ := snapshotMemory_complete slots
  obtain ⟨ran, contents, clear⟩ := snapshotMemory_diff dumped
  obtain ⟨cause, refused⟩ : ∃ cause, finish answers writer = .error cause := by
    unfold finish
    rcases unfinished with flush | sync
    · rw [if_pos flush]
      exact ⟨_, rfl⟩
    · split <;> exact ⟨_, rfl⟩
  refine ⟨cause, later, ?_, diff_regions ran, contents, clear⟩
  rw [createSnapshot_reached reached dumped]
  exact Prod.ext refused rfl

theorem createSnapshot_diff_complete (reached : answers.Reached)
  (complete : answers.Complete vm.regions.length) :
  ∃ file later, vm.createSnapshot answers .diff = (.ok file, later) := by
  obtain ⟨slots, flushed, synced⟩ := complete
  obtain ⟨writer, later, dumped⟩ := snapshotMemory_complete slots
  refine ⟨writer.file, later, ?_⟩
  rw [createSnapshot_reached reached dumped]
  refine Prod.ext ?_ rfl
  simp only [Except.bind, finish, flushed, synced, Bool.true_eq_false, if_false]

theorem createSnapshot_diff_failed (harmless : answers.Reached → answers.Complete vm.regions.length)
  (failed : vm.createSnapshot answers .diff = (.error cause, later)) : later = vm := by
  have whole := failed
  unfold createSnapshot at failed
  split at failed
  · cases failed
    rfl
  rename_i saved
  split at failed
  · cases failed
    rfl
  rename_i opened
  split at failed
  · cases failed
    rfl
  rename_i sized
  by_cases first : answers.dirtyLog 0 = true
  · have reached : answers.Reached := ⟨Bool.eq_true_of_not_eq_false saved,
      Bool.eq_true_of_not_eq_false opened, Bool.eq_true_of_not_eq_false sized, first⟩
    obtain ⟨file, after, taken⟩ := createSnapshot_diff_complete reached (harmless reached)
    rw [whole] at taken
    cases taken
  cases regions : vm.regions with
  | nil =>
    have same := (Prod.mk.inj failed).2
    rw [← same]
    cases vm
    cases regions
    rfl
  | cons region rest =>
    simp only [snapshotMemory, regions, getDirtyBitmap, if_neg first] at failed
    exact (Prod.mk.inj failed).2.symm

end Vm

variable {session : Session}

namespace Session

theorem memoryBytes_layout (same : layout first = layout second) :
  memoryBytes contents first = memoryBytes contents second := by
  have shape : ∀ regions, memoryBytes contents regions = (layout regions).flatMap fun region =>
      (List.range region.2).map fun offset => contents (region.1 + 0 + offset) := by
    intro regions
    rw [layout, flatMap_map]
    rfl
  rw [shape, shape, same]

theorem layout_reset : layout (regions.map GuestRegionMmap.reset) = layout regions := by
  rw [layout, map_map]
  rfl

structure Upholds (session : Session) : Prop where
  tracking : session.vm.Tracking
  recorded : ∀ baseFile, session.last = some baseFile → ∃ before,
    Reads baseFile before session.vm.regions ∧ session.vm.Records before

section

variable (progresses : Progresses sendfile)
include progresses

theorem reads_rebased (reads : Reads baseFile before session.vm.regions)
  (completes : ∀ offset, (file.data offset).or (memoryBytes before session.vm.regions)[offset]? =
    (memoryBytes session.vm.contents session.vm.regions)[offset]?) (enough : file.length ≤ steps) :
  ∃ result, rebase sendfile steps baseFile file = .ok result ∧
    Reads result session.vm.contents session.vm.regions := by
  obtain ⟨result, ran, _, cells⟩ := rebase_ok progresses enough baseFile
  refine ⟨result, ran, fun offset => ?_⟩
  rw [cells, ← completes]
  cases file.data offset with
  | some byte => rfl
  | none => exact reads offset

omit progresses in
theorem diff_completes (records : session.vm.Records before)
  (taken : session.vm.createSnapshot answers .diff = (.ok file, later)) :
  ∀ offset, (file.data offset).or (memoryBytes before session.vm.regions)[offset]? =
    (memoryBytes session.vm.contents session.vm.regions)[offset]? := by
  obtain ⟨same, ran, completes, _⟩ := snapshotMemoryToFile_diff records.tracked
  rw [(Vm.createSnapshot_diff_ok taken).1] at ran
  cases (Prod.mk.inj (Except.ok.inj ran)).2
  exact completes

variable (upholds : session.Upholds)
include upholds

theorem Upholds.restores (event : Event) : session.Restores sendfile event := by
  cases event with
  | write write => exact trivial
  | createSnapshot snapshotType answers =>
    cases snapshotType with
    | full => exact trivial
    | diff =>
      intro file baseFile taken last steps enough
      obtain ⟨before, reads, records⟩ := upholds.recorded baseFile last
      exact reads_rebased progresses reads
        (diff_completes records (Prod.ext taken rfl : _ = (Except.ok file, _))) enough

theorem based_reads (first : session.last = none → session.vm.Records fun _ => 0)
  (taken : session.vm.createSnapshot answers .diff = (.ok file, later)) :
  ∃ result, session.based sendfile file .diff = some result ∧
    Reads result session.vm.contents session.vm.regions := by
  rw [based]
  cases last : session.last with
  | none =>
    refine ⟨file, rfl, fun offset => ?_⟩
    rw [← diff_completes (first last) taken offset]
    cases file.data offset with
    | some byte => rfl
    | none => exact (Vm.memoryBytes_zero session.vm.regions offset).symm
  | some baseFile =>
    obtain ⟨before, reads, records⟩ := upholds.recorded baseFile last
    obtain ⟨result, ran, now⟩ := reads_rebased progresses reads (diff_completes records taken)
      (Nat.le_refl _)
    refine ⟨result, ?_, now⟩
    dsimp only
    rw [ran]
    rfl

theorem Upholds.diff (safe : session.Safe (.createSnapshot .diff answers)) :
  (session.step sendfile (.createSnapshot .diff answers)).Upholds := by
  rw [Session.step]
  generalize taken : session.vm.createSnapshot answers .diff = outcome
  obtain ⟨result, later⟩ := outcome
  cases result with
  | error cause =>
    cases Vm.createSnapshot_diff_failed safe.1 taken
    exact upholds
  | ok file =>
    obtain ⟨ran, contents⟩ := Vm.createSnapshot_diff_ok taken
    have regions := Vm.diff_regions ran
    obtain ⟨result, based, reads⟩ := based_reads progresses upholds safe.2 taken
    refine ⟨fun region member => ?_, fun baseFile last => ⟨later.contents, ?_, .refl later⟩⟩
    · rw [regions] at member
      obtain ⟨old, oldMem, rfl⟩ := mem_map.mp member
      exact GuestRegionMmap.tracking_reset (upholds.tracking old oldMem)
    cases based.symm.trans last
    rw [contents]
    rw [Reads, regions, memoryBytes_layout (layout_reset)]
    exact reads

omit progresses in
theorem Upholds.full (answers : Answers) :
  (session.step sendfile (.createSnapshot .full answers)).Upholds := by
  obtain ⟨same, whole⟩ := Vm.createSnapshot_full answers session.vm
  rw [Session.step]
  generalize session.vm.createSnapshot answers .full = outcome at same whole
  obtain ⟨result, later⟩ := outcome
  cases same
  cases result with
  | error cause => exact upholds
  | ok file =>
    refine ⟨upholds.tracking, fun baseFile last => ⟨session.vm.contents, ?_, .refl _⟩⟩
    cases last
    cases whole file rfl
    intro offset
    rw [SparseFile.data_full]

omit progresses in
theorem Upholds.write (write : Vm.Write) : (session.step sendfile (.write write)).Upholds := by
  refine ⟨upholds.tracking.write write, fun baseFile last => ?_⟩
  obtain ⟨before, reads, records⟩ := upholds.recorded baseFile last
  refine ⟨before, ?_, records.write upholds.tracking write⟩
  rw [Session.step, Reads]
  rw [memoryBytes_layout (session.vm.layout_write write)]
  exact reads

theorem Upholds.step (event : Event) (safe : session.Safe event) :
  (session.step sendfile event).Upholds := by
  cases event with
  | write write => exact upholds.write write
  | createSnapshot snapshotType answers =>
    cases snapshotType with
    | full => exact upholds.full answers
    | diff => exact upholds.diff progresses safe

omit upholds

end

/-- Whatever fails, the next differential snapshot brings the last successful one to the
memory of its moment, as long as no failing call has read a dirty log. -/
theorem failed_snapshots_lose_nothing (sendfile : Nat → Nat → Int)
  (progresses : Progresses sendfile) (vm : Vm) (tracking : vm.Tracking) (events : List Event)
  (safe : Along (step sendfile) Safe ⟨vm, none⟩ events) :
  Along (step sendfile) (Restores sendfile) ⟨vm, none⟩ events := by
  refine Along.of_invariant (fun session event upholds safe => upholds.step progresses event safe)
    (fun session event upholds _ => upholds.restores progresses event)
    (⟨tracking, fun baseFile last => ?_⟩ : Upholds ⟨vm, none⟩) safe
  cases last

variable (sendfile : Nat → Nat → Int)

theorem step_failed {last : Option (SparseFile UInt8)} {snapshotType : SnapshotType}
  (failed : vm.createSnapshot answers snapshotType = (.error cause, later)) :
  step sendfile ⟨vm, last⟩ (.createSnapshot snapshotType answers) = ⟨later, last⟩ := by
  rw [step, failed]

/-! One page of zeros. -/

def copies (_cursor count : Nat) : Int := count

theorem copies_progresses : Progresses copies := by
  intro cursor count positive
  rw [copies]
  omega

def allSucceed : Answers := ⟨true, fun _ => true, fun _ => true, fun _ => true⟩

def failsAt (operation : FileOperation) : Answers :=
  { allSucceed with file := fun other => decide (other ≠ operation) }

theorem zeroPage_paged : 0x1000 % pageSize = 0 := rfl

theorem zeroPage_marks : ∀ map ∈ some [false], map.length = 0x1000 / pageSize := by decide

def zeroPageRegion : GuestRegionMmap := ⟨0, 0x1000, some [false], zeroPage_paged, zeroPage_marks⟩

def zeroPage : Vm where
  regions := [zeroPageRegion]
  contents := fun _ => 0
  dirtyLog := fun _ _ => false

theorem zeroPage_tracking : zeroPage.Tracking := by
  simp [Vm.Tracking, zeroPage, zeroPageRegion, GuestRegionMmap.Tracking]

theorem createSnapshot_allSucceed :
  vm.createSnapshot allSucceed .full = (.ok (.full (memoryBytes vm.contents vm.regions)), vm) := by
  have whole := snapshotMemoryToFile_full vm.getDirtyLog vm.regions vm.contents
  obtain ⟨writer, dumped, whole⟩ := ok_of_bind whole
  have file := (Prod.mk.inj (Except.ok.inj whole)).2
  have every : (List.range vm.regions.length).all allSucceed.dumped = true := by simp [allSucceed]
  simp only [Vm.createSnapshot, Vm.snapshotMemory, every, dumped]
  rw [← file]
  rfl

def afterFull : Session := ⟨zeroPage, some (.full (memoryBytes zeroPage.contents zeroPage.regions))⟩

theorem step_full : step sendfile ⟨zeroPage, none⟩ (.createSnapshot .full allSucceed) = afterFull := by
  rw [step, createSnapshot_allSucceed]
  rfl

theorem failed_snapshots_lose_nothing_open : Along (step copies) (Restores copies) ⟨zeroPage, none⟩
    [.createSnapshot .full allSucceed, .write (.guest 0x10 1),
      .createSnapshot .diff (failsAt .openFile), .createSnapshot .diff allSucceed] := by
  refine failed_snapshots_lose_nothing copies copies_progresses zeroPage zeroPage_tracking _ ⟨trivial, ?_⟩
  refine ⟨trivial, ⟨fun reached => ?_, fun last => ?_⟩, ⟨fun _ => ?_, fun last => ?_⟩, trivial⟩
  · cases reached.2.1
  · cases last
  · exact ⟨fun _ _ => ⟨rfl, rfl⟩, rfl, rfl⟩
  · cases last

/-- The last step of a differential snapshot fails; the page written before it is in no
later one. -/
theorem failed_snapshot_loses_page : ¬Along (step copies) (Restores copies) ⟨zeroPage, none⟩
    [.createSnapshot .full allSucceed, .write (.guest 0x10 1),
      .createSnapshot .diff (failsAt .syncAll), .createSnapshot .diff allSucceed] := by
  rintro ⟨_, rest⟩
  rw [step_full] at rest
  obtain ⟨_, _, restores, _⟩ := rest
  obtain ⟨cause, lost, failed, regions, contents, clear⟩ :=
    @Vm.createSnapshot_diff_unfinished (failsAt .syncAll) (zeroPage.guestWrite 0x10 1)
      ⟨rfl, rfl, rfl, rfl⟩ (fun _ _ => ⟨rfl, rfl⟩) (.inr rfl)
  have third : step copies (step copies afterFull (.write (.guest 0x10 1)))
      (.createSnapshot .diff (failsAt .syncAll)) = ⟨lost, afterFull.last⟩ :=
    step_failed copies failed
  rw [third] at restores
  obtain ⟨file, later, taken⟩ := @Vm.createSnapshot_diff_complete allSucceed lost
    ⟨rfl, rfl, rfl, rfl⟩ ⟨fun _ _ => ⟨rfl, rfl⟩, rfl, rfl⟩
  obtain ⟨result, ran, reads⟩ := restores file _ (congrArg Prod.fst taken) rfl file.length (Nat.le_refl _)
  obtain ⟨same, rebased, _, cells⟩ := rebase_ok copies_progresses (Nat.le_refl file.length)
    (.full (memoryBytes zeroPage.contents zeroPage.regions))
  rw [ran] at rebased
  cases rebased
  have inside : 0x10 < zeroPageRegion.reset.len := by decide
  have hole := snapshotMemoryToFile_hole regions (Vm.createSnapshot_diff_ok taken).1 inside
    (clear 0 (by decide) _) (by decide)
  have byte := reads 0x10
  rw [cells, hole, SparseFile.data_full, regions,
    show zeroPage.regions = [zeroPageRegion] from rfl, memoryBytes_head _ (by decide)] at byte
  have old : (zeroPage.guestWrite 0x10 1).regions.map GuestRegionMmap.reset =
    [zeroPageRegion.reset] := rfl
  rw [old, memoryBytes_head _ inside, contents] at byte
  exact absurd byte (by decide)

end Session

end Spacer.Snapshot
