import Mathlib

/-!
Classic BPF as seccomp runs it: one accumulator, 32-bit loads from the data the
kernel passes in, and jumps that only go forward.
-/

namespace Spacer.Lib.Bpf

structure SockFilter where
  code : UInt16
  jt : UInt8
  jf : UInt8
  k : UInt32

inductive Op
  | ldAbs
  | and
  | ja
  | jeq
  | jgt
  | jge
  | ret
  deriving DecidableEq

def Op.code : Op → UInt16
  | .ldAbs => 0x20
  | .and => 0x54
  | .ja => 0x05
  | .jeq => 0x15
  | .jgt => 0x25
  | .jge => 0x35
  | .ret => 0x06

def decode (code : UInt16) : Option Op :=
  [Op.ldAbs, .and, .ja, .jeq, .jgt, .jge, .ret].find? fun op => op.code = code

@[simp] theorem decode_code (op : Op) : decode op.code = some op := by cases op <;> rfl

def SockFilter.branch (insn : SockFilter) (taken : Bool) : Nat :=
  (if taken then insn.jt else insn.jf).toNat

/-- Runs the code from its start once `skip` instructions are passed over.  Jumps are
forward, so the rest of the list is all that can still be reached. -/
def exec (load : UInt32 → UInt32) : Nat → UInt32 → List SockFilter → Option UInt32
  | _, _, [] => none
  | skip + 1, acc, _ :: rest => exec load skip acc rest
  | 0, acc, insn :: rest =>
    match decode insn.code with
    | none => none
    | some .ldAbs => exec load 0 (load insn.k) rest
    | some .and => exec load 0 (acc &&& insn.k) rest
    | some .ja => exec load insn.k.toNat acc rest
    | some .jeq => exec load (insn.branch (acc = insn.k)) acc rest
    | some .jgt => exec load (insn.branch (insn.k < acc)) acc rest
    | some .jge => exec load (insn.branch (insn.k ≤ acc)) acc rest
    | some .ret => some insn.k

def run (load : UInt32 → UInt32) (program : List SockFilter) : Option UInt32 :=
  exec load 0 0 program

def stmt (op : Op) (k : UInt32) : SockFilter := ⟨op.code, 0, 0, k⟩

def jump (op : Op) (k : UInt32) (jt jf : UInt8) : SockFilter := ⟨op.code, jt, jf, k⟩

section

variable (load : UInt32 → UInt32) (acc k : UInt32) (jt jf : UInt8) (code rest : List SockFilter)

@[simp] theorem exec_ldAbs : exec load 0 acc (stmt .ldAbs k :: rest) = exec load 0 (load k) rest := rfl

@[simp] theorem exec_and : exec load 0 acc (stmt .and k :: rest) = exec load 0 (acc &&& k) rest := rfl

@[simp] theorem exec_ja : exec load 0 acc (stmt .ja k :: rest) = exec load k.toNat acc rest := rfl

@[simp] theorem exec_ret : exec load 0 acc (stmt .ret k :: rest) = some k := rfl

@[simp] theorem exec_jeq : exec load 0 acc (jump .jeq k jt jf :: rest) =
  if acc = k then exec load jt.toNat acc rest else exec load jf.toNat acc rest := by
  by_cases taken : acc = k <;> simp [exec, jump, SockFilter.branch, taken]

@[simp] theorem exec_jgt : exec load 0 acc (jump .jgt k jt jf :: rest) =
  if k < acc then exec load jt.toNat acc rest else exec load jf.toNat acc rest := by
  by_cases taken : k < acc <;> simp [exec, jump, SockFilter.branch, taken]

@[simp] theorem exec_jge : exec load 0 acc (jump .jge k jt jf :: rest) =
  if k ≤ acc then exec load jt.toNat acc rest else exec load jf.toNat acc rest := by
  by_cases taken : k ≤ acc <;> simp [exec, jump, SockFilter.branch, taken]

@[simp] theorem exec_skip (skip : Nat) (insn : SockFilter) :
  exec load (skip + 1) acc (insn :: rest) = exec load skip acc rest := rfl

theorem exec_over (skip : Nat) :
  exec load (skip + code.length) acc (code ++ rest) = exec load skip acc rest := by
  induction code with
  | nil => rfl
  | cons insn code ih => exact ih

end

/-- What the kernel asks of one instruction with `after` instructions behind it: a known
operation, a load of an aligned word of the data, and jumps that stay in the program. -/
def insnOk (size : Nat) (insn : SockFilter) (after : Nat) : Bool :=
  match decode insn.code with
  | none => false
  | some .ldAbs => insn.k.toNat < size && insn.k.toNat % 4 = 0
  | some .and => true
  | some .ja => insn.k.toNat < after
  | some .jeq | some .jgt | some .jge => insn.jt.toNat < after && insn.jf.toNat < after
  | some .ret => true

def insnsOk (size after : Nat) : List SockFilter → Bool
  | [] => true
  | insn :: rest => insnOk size insn (rest.length + after) && insnsOk size after rest

def isRet (insn : SockFilter) : Bool := decode insn.code = some .ret

def maxInsns : Nat := 4096

/-- `bpf_check_classic` and `seccomp_check_filter` for data of `size` bytes. -/
def accepts (size : Nat) (program : List SockFilter) : Bool :=
  program.length ≤ maxInsns && (program.getLast?.any isRet && insnsOk size 0 program)

theorem insnsOk_append : insnsOk size after (first ++ second) =
    (insnsOk size (second.length + after) first && insnsOk size after second) := by
  induction first with
  | nil => rfl
  | cons insn rest ih =>
    rw [List.cons_append, insnsOk, insnsOk, ih, List.length_append, Nat.add_assoc, Bool.and_assoc]

section

variable (size after : Nat) (k : UInt32) (jt jf : UInt8)

@[simp] theorem insnOk_ldAbs :
  insnOk size (stmt .ldAbs k) after = true ↔ k.toNat < size ∧ k.toNat % 4 = 0 := by
  change (decide (k.toNat < size) && decide (k.toNat % 4 = 0)) = true ↔ _
  simp

@[simp] theorem insnOk_and : insnOk size (stmt .and k) after = true := rfl

@[simp] theorem insnOk_ret : insnOk size (stmt .ret k) after = true := rfl

@[simp] theorem insnOk_ja : insnOk size (stmt .ja k) after = true ↔ k.toNat < after := by
  change decide (k.toNat < after) = true ↔ _
  simp

@[simp] theorem insnOk_jeq : insnOk size (jump .jeq k jt jf) after = true ↔
  jt.toNat < after ∧ jf.toNat < after := by
  change (decide (jt.toNat < after) && decide (jf.toNat < after)) = true ↔ _
  simp

@[simp] theorem insnOk_jgt : insnOk size (jump .jgt k jt jf) after = true ↔
  jt.toNat < after ∧ jf.toNat < after := by
  change (decide (jt.toNat < after) && decide (jf.toNat < after)) = true ↔ _
  simp

@[simp] theorem insnOk_jge : insnOk size (jump .jge k jt jf) after = true ↔
  jt.toNat < after ∧ jf.toNat < after := by
  change (decide (jt.toNat < after) && decide (jf.toNat < after)) = true ↔ _
  simp

end

section

variable (load : UInt32 → UInt32)

theorem branch_lt {insn : SockFilter} (inside : (insn.jt.toNat < after && insn.jf.toNat < after) = true) :
  insn.branch taken < after := by
  simp only [Bool.and_eq_true, decide_eq_true_eq] at inside
  cases taken with
  | false => exact inside.2
  | true => exact inside.1

theorem exec_isSome (last : program.getLast?.any isRet = true) (ok : insnsOk size 0 program = true)
  (acc : UInt32) (skip : Nat) (inside : skip < program.length) :
  (exec load skip acc program).isSome = true := by
  induction program generalizing acc skip with
  | nil => simp at inside
  | cons insn rest ih =>
    rw [insnsOk, Bool.and_eq_true] at ok
    obtain ⟨here, later⟩ := ok
    by_cases final : rest = []
    · subst final
      have zero : skip = 0 := by simpa using inside
      have ret : decode insn.code = some .ret := by simpa [isRet] using last
      subst zero
      simp [exec, ret]
    have lastRest : rest.getLast?.any isRet = true := by
      rwa [List.getLast?_cons_of_ne_nil final] at last
    have go := ih lastRest later
    have first : 0 < rest.length := List.length_pos_iff.mpr final
    cases skip with
    | succ skip => exact go acc skip (by simpa using inside)
    | zero =>
      simp only [exec]
      simp only [insnOk] at here
      cases operation : decode insn.code with
      | none => simp [operation] at here
      | some op =>
        simp only [operation] at here
        cases op with
        | ldAbs | and => exact go _ 0 first
        | ja => exact go acc _ (by simpa using here)
        | jeq | jgt | jge => exact go acc _ (branch_lt here)
        | ret => rfl

theorem exec_isSome_of_accepts (accepted : accepts size program = true) (acc : UInt32) :
  (exec load 0 acc program).isSome = true := by
  simp only [accepts, Bool.and_eq_true] at accepted
  refine exec_isSome load accepted.2.1 accepted.2.2 acc 0 (List.length_pos_iff.mpr ?_)
  rintro rfl
  simp at accepted

end

end Spacer.Lib.Bpf
