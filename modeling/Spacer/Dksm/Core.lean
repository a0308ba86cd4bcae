import Mathlib

/-!
Daemonless kernel same-page merging (`mm/dksm.c`).  Page contents are of an
arbitrary type; the kernel services around the module are parameters, and what
they answer during one page callback is an `Env`.
-/

namespace Spacer.Dksm

structure Kernel (Page : Type) where
  xxhash : Page → UInt64
  hashMin : UInt32 → Fin 4096
  kstrtouint : String → Option Nat

/-- Outcomes of the kernel services during one `page_cmp_and_merge`. -/
structure Env where
  kmalloc : Bool
  getPageUnlessZero : Nat → Bool
  pageAddressInVma : Nat → Option Nat
  mmFindPmd : Nat → Bool

structure Prot where
  access : Bool
  write : Bool
  deriving DecidableEq

structure Pte where
  pfn : Nat
  prot : Prot
  deriving DecidableEq

def mkPte (kpage : Nat) (vmPageProt : Prot) : Pte := ⟨kpage, vmPageProt⟩

structure Vma where
  vmMm : Nat
  vmPageProt : Prot

abbrev Slot := Nat × Nat

/-- Page tables and frames of the machine.  A slot without an entry is not present. -/
@[ext] structure Memory (Page : Type) where
  ptes : Slot → Option Pte
  content : Nat → Page
  pageAnon : Nat → Bool
  pageTransCompound : Nat → Bool
  refcount : Nat → Int
  mapcount : Nat → Int

structure PageDescriptor where
  checksum : UInt32
  pfn : Nat
  vaddr : Nat

structure Counters where
  pagesScanned : Nat
  pagesMerged : Nat
  mergingFailed : Nat
  htableSize : Nat

structure PageWalkData extends Counters where
  hashtable : Fin 4096 → List PageDescriptor

def increment (counter : Nat) : Nat := if counter + 1 = 2 ^ 64 then 0 else counter + 1

def decrement (counter : Nat) : Nat := if counter = 0 then 2 ^ 64 - 1 else counter - 1

namespace Memory

variable (mem : Memory Page) (page : Nat)

def getPage : Memory Page :=
  { mem with refcount := Function.update mem.refcount page (mem.refcount page + 1) }

def putPage : Memory Page :=
  { mem with refcount := Function.update mem.refcount page (mem.refcount page - 1) }

def pageAddAnonRmap : Memory Page :=
  { mem with mapcount := Function.update mem.mapcount page (mem.mapcount page + 1) }

def pageRemoveRmap : Memory Page :=
  { mem with mapcount := Function.update mem.mapcount page (mem.mapcount page - 1) }

variable (slot : Slot)

def setPte (pte : Option Pte) : Memory Page :=
  { mem with ptes := Function.update mem.ptes slot pte }

def read : Option Page :=
  (mem.ptes slot).map fun pte => mem.content pte.pfn

def redirect (page kpage : Nat) (newpte : Pte) : Memory Page :=
  ((((mem.getPage kpage).pageAddAnonRmap kpage).setPte slot (some newpte)).pageRemoveRmap page).putPage page

end Memory

section

/-- `none` is `-EFAULT`. -/
def replacePage (env : Env) (mem : Memory Page) (vma : Vma) (page kpage : Nat) (origPte : Pte) :
  Option (Memory Page) :=
  match env.pageAddressInVma page with
  | none => none
  | some addr =>
    if env.mmFindPmd addr = false then none
    else if mem.ptes (vma.vmMm, addr) ≠ some origPte then none
    else some (mem.redirect (vma.vmMm, addr) page kpage (mkPte kpage vma.vmPageProt))

structure Scan (Page : Type) where
  mem : Memory Page
  counters : Counters
  bucket : List PageDescriptor
  merged : Bool

def Scan.keep (iter : PageDescriptor) (scan : Scan Page) : Scan Page :=
  { scan with bucket := iter :: scan.bucket }

def removePd (counters : Counters) : Counters :=
  { counters with htableSize := decrement counters.htableSize }

variable (kernel : Kernel Page)

def calcChecksum (page : Page) : UInt32 := (kernel.xxhash page).toUInt32

variable [DecidableEq Page]

def scanBucket (env : Env) (vma : Vma) (pte : Pte) (checksum : UInt32) (mem : Memory Page)
  (counters : Counters) : List PageDescriptor → Scan Page
  | [] => ⟨mem, counters, [], false⟩
  | iter :: rest =>
    if iter.checksum ≠ checksum then
      (scanBucket env vma pte checksum mem counters rest).keep iter
    else if env.getPageUnlessZero iter.pfn = false then
      scanBucket env vma pte checksum mem (removePd counters) rest
    else
      let mem := mem.getPage iter.pfn
      if calcChecksum kernel (mem.content iter.pfn) ≠ iter.checksum then
        scanBucket env vma pte checksum (mem.putPage iter.pfn) (removePd counters) rest
      else if mem.content pte.pfn = mem.content iter.pfn then
        match replacePage env mem vma pte.pfn iter.pfn pte with
        | none =>
          (scanBucket env vma pte checksum (mem.putPage iter.pfn)
            { counters with mergingFailed := increment counters.mergingFailed } rest).keep iter
        | some mem =>
          ⟨mem.putPage iter.pfn,
            { counters with pagesMerged := increment counters.pagesMerged }, iter :: rest, true⟩
      else
        (scanBucket env vma pte checksum (mem.putPage iter.pfn) counters rest).keep iter

inductive WalkResult
  | success
  | enomem
  deriving DecidableEq

def mergeFailed (pwd : PageWalkData) : PageWalkData :=
  { pwd with mergingFailed := increment pwd.mergingFailed }

def mergeable (mem : Memory Page) (pte : Pte) : Bool :=
  pte.prot.access && mem.pageAnon pte.pfn && !mem.pageTransCompound pte.pfn

def scanPage (env : Env) (vma : Vma) (pte : Pte) (mem : Memory Page) (pwd : PageWalkData) : Scan Page :=
  let checksum := calcChecksum kernel (mem.content pte.pfn)
  scanBucket kernel env vma pte checksum mem
    { pwd.toCounters with pagesScanned := increment pwd.pagesScanned }
    (pwd.hashtable (kernel.hashMin checksum))

def compareAndMerge (env : Env) (vma : Vma) (addr : Nat) (pte : Pte) (mem : Memory Page)
  (pwd : PageWalkData) : Memory Page × PageWalkData :=
  let checksum := calcChecksum kernel (mem.content pte.pfn)
  let pd : PageDescriptor := ⟨checksum, pte.pfn, addr⟩
  let bucket := kernel.hashMin checksum
  let scan := scanPage kernel env vma pte mem pwd
  if scan.merged then
    (scan.mem, { scan.counters with hashtable := Function.update pwd.hashtable bucket scan.bucket })
  else
    (scan.mem, { scan.counters with
        htableSize := increment scan.counters.htableSize
        hashtable := Function.update pwd.hashtable bucket (pd :: scan.bucket) })

def pageCmpAndMerge (env : Env) (vma : Vma) (addr : Nat) (mem : Memory Page)
  (pwd : PageWalkData) : Memory Page × PageWalkData × WalkResult :=
  match mem.ptes (vma.vmMm, addr) with
  | none => (mem, mergeFailed pwd, .success)
  | some pte =>
    -- no access, not anonymous and huge pages take the same exit
    if mergeable mem pte = false then (mem, mergeFailed pwd, .success)
    else if env.kmalloc = false then (mem, mergeFailed pwd, .enomem)
    else
      let (mem, pwd) := compareAndMerge kernel env vma addr pte mem pwd
      (mem, pwd, .success)

/-- `walk_page_range` over the page-table slots of a range, with the environment
of each callback; a failing callback ends the walk. -/
def walkPageRange (vma : Vma) :
  List (Nat × Env) → Memory Page → PageWalkData → Memory Page × PageWalkData × WalkResult
  | [], mem, pwd => (mem, pwd, .success)
  | (addr, env) :: rest, mem, pwd =>
    match pageCmpAndMerge kernel env vma addr mem pwd with
    | (mem, pwd, .enomem) => (mem, pwd, .enomem)
    | (mem, pwd, .success) => walkPageRange vma rest mem pwd

end

section

def dksmRunStop : Nat := 0

def dksmRunMerge : Nat := 1

structure State (Page : Type) where
  mem : Memory Page
  dksmRun : Nat
  mutexHeld : Bool
  pwd : Option PageWalkData

inductive Reply
  | returned (code : Int)
  | blocked

def enomem : Int := 12

def einval : Int := 22

def initPwd : PageWalkData := ⟨⟨0, 0, 0, 0⟩, fun _ => []⟩

/-- `dksm_init`; without `CONFIG_SYSFS` merging starts at once. -/
def dksmInit (mem : Memory Page) (kmalloc configSysfs : Bool) : State Page :=
  if kmalloc = false then ⟨mem, dksmRunStop, false, none⟩
  else ⟨mem, if configSysfs then dksmRunStop else dksmRunMerge, false, some initPwd⟩

/-- One `dksm_madvise` call: `kmallocPwd` is the allocation of its lazy
initialisation, `pages` the slots of the range. -/
structure Madvise where
  vma : Vma
  advice : Bool
  kmallocPwd : Bool
  pages : List (Nat × Env)

def lazyInit (call : Madvise) (state : State Page) :
  Except (Reply × State Page) (State Page × PageWalkData) :=
  match state.pwd with
  | some pwd => .ok (state, pwd)
  | none =>
    if state.mutexHeld then .error (.blocked, state)
    -- the source returns here with the mutex held
    else if call.kmallocPwd = false then
      .error (.returned (-enomem), { state with mutexHeld := true })
    else .ok ({ state with pwd := some initPwd }, initPwd)

variable (kernel : Kernel Page)

def dksmMadvise [DecidableEq Page] (call : Madvise) (state : State Page) : Reply × State Page :=
  match lazyInit call state with
  | .error exit => exit
  | .ok (state, pwd) =>
    if call.advice = false then (.returned 0, state)
    else if state.mutexHeld then (.blocked, state)
    else if state.dksmRun = dksmRunMerge then
      let (mem, pwd, result) := walkPageRange kernel call.vma call.pages state.mem pwd
      (.returned (if result = .enomem then -enomem else 0), { state with mem, pwd := some pwd })
    else (.returned 0, state)

def runStore (buf : String) (state : State Page) : Reply × State Page :=
  match state.pwd with
  | none => (.returned buf.length, state)
  | some _ =>
    match kernel.kstrtouint buf with
    | none => (.returned (-einval), state)
    | some flags =>
      if dksmRunMerge < flags then (.returned (-einval), state)
      else if state.mutexHeld then (.blocked, state)
      else if state.dksmRun ≠ flags then
        (.returned buf.length, { state with
            dksmRun := flags
            pwd := if flags = dksmRunStop then some initPwd else state.pwd })
      else (.returned buf.length, state)

end

def sampleKernel : Kernel Bool := ⟨fun page => page.toUInt64, fun _ => 0, fun _ => some 1⟩

def readOnly : Prot := ⟨true, false⟩

def advertise (mm addr : Nat) : Madvise :=
  ⟨⟨mm, readOnly⟩, true, true, [(addr, ⟨true, fun _ => true, fun _ => some 0x1000, fun _ => true⟩)]⟩

end Spacer.Dksm
