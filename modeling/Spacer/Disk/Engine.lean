import Mathlib
import Spacer.Virtio.Queue

/-!
The file engines of the block device.  `io_uring` is a submission queue, the operations the
kernel works on, and a completion queue; what a blocking call of the other engine returns is
an argument.
-/

namespace Spacer.Disk

open Lib Virtio
open List hiding count

/-- `GuestMemory::get_slice`: the whole range lies in one region. -/
def getSlice (mem : GuestLayout) (addr : UInt64) (count : UInt32) : Bool :=
  mem.regions.any fun region => region.1 ≤ addr.toNat && addr.toNat < region.1 + region.2 &&
    addr.toNat + count.toNat ≤ region.1 + region.2

inductive IoUringError
  | fullCQueue
  | fullSQueue

inductive IoError
  | sync
  | asyncGuestMemory
  | asyncIoUring (cause : IoUringError)
  | asyncIo (errno : Int32)

def IoUringError.isThrottlingErr : IoUringError → Bool
  | .fullCQueue => true
  | .fullSQueue => true

def IoError.isThrottlingErr : IoError → Bool
  | .asyncIoUring cause => cause.isThrottlingErr
  | _ => false

structure Cqe (α : Type) where
  res : Int32
  userData : α
  deriving DecidableEq

namespace Cqe

def result (cqe : Cqe α) : Except Int32 UInt32 :=
  if cqe.res < 0 then .error cqe.res else .ok cqe.res.toUInt32

end Cqe

structure IoUring (α : Type) where
  sqEntries : Nat
  cqEntries : Nat
  squeue : List α
  inFlight : List α
  cqueue : List (Cqe α)
  numOps : Nat
  deriving DecidableEq

namespace IoUring

variable (ring : IoUring α)

def push (op : α) : Except IoUringError (IoUring α) :=
  if ring.cqEntries ≤ ring.numOps then .error .fullCQueue
  else if ring.sqEntries ≤ ring.squeue.length then .error .fullSQueue
  else .ok { ring with squeue := ring.squeue ++ [op], numOps := ring.numOps + 1 }

def pop : Option (Cqe α) × IoUring α :=
  match ring.cqueue with
  | [] => (none, ring)
  | cqe :: rest => (some cqe, { ring with cqueue := rest, numOps := ring.numOps - 1 })

/-- `io_uring_enter`: the kernel takes the first operations of the submission queue, none if
the call fails. -/
def submit (submitted : Nat) : IoUring α :=
  { ring with
    squeue := ring.squeue.drop submitted
    inFlight := ring.inFlight ++ ring.squeue.take submitted }

def complete (place : Nat) (res : Int32) : IoUring α :=
  match ring.inFlight[place]? with
  | none => ring
  | some op =>
    { ring with
      inFlight := ring.inFlight.eraseIdx place
      cqueue := ring.cqueue ++ [⟨res, op⟩] }

def outstanding : List α :=
  ring.squeue ++ ring.inFlight ++ ring.cqueue.map Cqe.userData

theorem outstanding_push {ring later : IoUring α} (pushed : ring.push op = .ok later) :
  later.outstanding.Perm (op :: ring.outstanding) := by
  unfold push at pushed
  split at pushed
  · cases pushed
  split at pushed
  · cases pushed
  cases pushed
  simp only [outstanding, append_assoc]
  exact perm_middle

theorem outstanding_pop {ring : IoUring α} (popped : ring.pop = (some cqe, later)) :
  ring.outstanding.Perm (cqe.userData :: later.outstanding) := by
  unfold pop at popped
  split at popped
  · cases popped
  rename_i first rest found
  cases popped
  simp only [outstanding, found, map_cons]
  exact perm_middle

theorem outstanding_submit (submitted : Nat) :
  (ring.submit submitted).outstanding.Perm ring.outstanding := by
  simp only [outstanding, submit]
  refine List.Perm.append_right _ ?_
  have whole : (ring.squeue.take submitted ++ ring.squeue.drop submitted) = ring.squeue :=
    take_append_drop submitted ring.squeue
  calc ring.squeue.drop submitted ++ (ring.inFlight ++ ring.squeue.take submitted)
      _ = ring.squeue.drop submitted ++ ring.inFlight ++ ring.squeue.take submitted := by
        rw [append_assoc]
      _ |>.Perm (ring.squeue.take submitted ++ (ring.squeue.drop submitted ++ ring.inFlight)) :=
        perm_append_comm
      _ = ring.squeue ++ ring.inFlight := by rw [← append_assoc, whole]

theorem outstanding_complete (place : Nat) (res : Int32) :
  (ring.complete place res).outstanding.Perm ring.outstanding := by
  unfold complete
  split
  · exact List.Perm.refl _
  rename_i op found
  obtain ⟨bound, rfl⟩ := List.getElem?_eq_some_iff.mp found
  have taken : (ring.inFlight[place] :: ring.inFlight.eraseIdx place).Perm ring.inFlight :=
    getElem_cons_eraseIdx_perm bound
  simp only [outstanding, map_append, map_cons, map_nil, append_assoc]
  refine List.Perm.append_left _ ?_
  calc ring.inFlight.eraseIdx place ++ (ring.cqueue.map Cqe.userData ++ [ring.inFlight[place]])
    _ |>.Perm (ring.inFlight[place] :: (ring.inFlight.eraseIdx place ++ ring.cqueue.map Cqe.userData)) := by
      rw [← append_assoc]
      exact perm_append_singleton _ _
    _ |>.Perm (ring.inFlight ++ ring.cqueue.map Cqe.userData) :=
      taken.append_right _

end IoUring

/-- What comes back with an operation; `addr` is where it writes guest memory. -/
structure WrappedUserData (α : Type) where
  addr : Option UInt64
  userData : α
  deriving DecidableEq

inductive FileEngine (α : Type)
  | sync
  | async (ring : IoUring (WrappedUserData α))
  deriving DecidableEq

inductive FileEngineOk (α : Type)
  | submitted
  | executed (userData : α) (count : UInt32)

structure UserDataError (α : Type) where
  userData : α
  error : IoError

namespace FileEngine

abbrev Answer (α : Type) := Except (UserDataError α) (FileEngineOk α)

variable (ring : IoUring (WrappedUserData α)) (addr : Option UInt64)

def pushOp (userData : α) : Answer α × FileEngine α :=
  match ring.push ⟨addr, userData⟩ with
  | .error cause => (.error ⟨userData, .asyncIoUring cause⟩, .async ring)
  | .ok later => (.ok .submitted, .async later)

def executeOp (blocking : Option UInt32) (userData : α) : Answer α :=
  match blocking with
  | none => .error ⟨userData, .sync⟩
  | some count => .ok (.executed userData count)

/-- `read` and `write`; a read keeps the address whose pages it dirties. -/
def transfer (tracked : Bool) (mem : GuestLayout) (blocking : Option UInt32) (addr : UInt64)
  (count : UInt32) (userData : α) : FileEngine α → Answer α × FileEngine α
  | .sync => (executeOp blocking userData, .sync)
  | .async ring =>
    if getSlice mem addr count then
      pushOp ring (if tracked then some addr else none) userData
    else (.error ⟨userData, .asyncGuestMemory⟩, .async ring)

def read (mem : GuestLayout) (blocking : Option UInt32) (addr : UInt64) (count : UInt32)
  (userData : α) (engine : FileEngine α) : Answer α × FileEngine α :=
  engine.transfer true mem blocking addr count userData

def write (mem : GuestLayout) (blocking : Option UInt32) (addr : UInt64) (count : UInt32)
  (userData : α) (engine : FileEngine α) : Answer α × FileEngine α :=
  engine.transfer false mem blocking addr count userData

def flush (blocking : Option UInt32) (userData : α) : FileEngine α → Answer α × FileEngine α
  | .sync => (executeOp (blocking.map fun _ => 0) userData, .sync)
  | .async ring => pushOp ring none userData

def inFlight : FileEngine α → List α
  | .sync => []
  | .async ring => ring.outstanding.map WrappedUserData.userData

inductive Handed (engine : FileEngine α) (userData : α) : Answer α × FileEngine α → Prop
  | submitted {later : FileEngine α} (held : later.inFlight.Perm (userData :: engine.inFlight)) :
      Handed engine userData (.ok .submitted, later)
  | executed (count : UInt32) : Handed engine userData (.ok (.executed userData count), engine)
  | refused (cause : IoError) : Handed engine userData (.error ⟨userData, cause⟩, engine)

theorem pushOp_handed (userData : α) : Handed (.async ring) userData (pushOp ring addr userData) := by
  unfold pushOp
  split
  · exact .refused _
  rename_i later pushed
  exact .submitted ((IoUring.outstanding_push pushed).map _)

theorem executeOp_handed (blocking : Option UInt32) (userData : α) :
  Handed .sync userData (executeOp blocking userData, .sync) := by
  unfold executeOp
  split
  · exact .refused _
  · exact .executed _

theorem transfer_handed (addr : UInt64) :
  Handed engine userData (engine.transfer tracked mem blocking addr count userData) := by
  cases engine with
  | sync => exact executeOp_handed blocking userData
  | async ring =>
    rw [transfer]
    split
    · exact pushOp_handed ring _ userData
    · exact .refused _

theorem flush_handed : Handed engine userData (engine.flush blocking userData) := by
  cases engine with
  | sync => exact executeOp_handed _ userData
  | async ring => exact pushOp_handed ring none userData

end FileEngine

end Spacer.Disk
