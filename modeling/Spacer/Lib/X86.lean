import Mathlib
import Spacer.Lib.Bytes

/-!
A 64-bit x86 machine.  Calls, jumps, returns, pushes, no-ops and `mov rsp, imm32` have
their meaning here; a `Cpu` supplies the length and the effect of every other
instruction.  Code is a memory of its own.
-/

namespace Spacer.Lib.X86

open List

abbrev Word := BitVec 64

abbrev Memory := Word → UInt8

def Slot (addr location : Word) : Prop := (location - addr).toNat < 8

instance (addr location : Word) : Decidable (Slot addr location) :=
  inferInstanceAs (Decidable (_ < _))

def store (mem : Memory) (addr value : Word) : Memory := fun location =>
  if Slot addr location then (littleEndian 8 value.toNat).getD (location - addr).toNat 0
  else mem location

def load (mem : Memory) (addr : Word) : Word :=
  ofLittleEndian ((List.range 8).map fun offset => mem (addr + BitVec.ofNat 64 offset))

theorem store_outside (outside : ¬Slot addr location) (mem : Memory) (value : Word) :
  store mem addr value location = mem location :=
  if_neg outside

theorem offset_toNat (addr : Word) (small : offset < 8) :
  (addr + BitVec.ofNat 64 offset - addr).toNat = offset := by
  have cancelled : addr + BitVec.ofNat 64 offset - addr = BitVec.ofNat 64 offset := by ring
  rw [cancelled, BitVec.toNat_ofNat]
  exact Nat.mod_eq_of_lt (by omega)

theorem slot_offset (addr : Word) (small : offset < 8) : Slot addr (addr + BitVec.ofNat 64 offset) := by
  rw [Slot, offset_toNat addr small]
  exact small

theorem load_congr (same : ∀ location, Slot addr location → mem location = other location) :
  load mem addr = load other addr := by
  unfold load
  congr 2
  refine map_congr_left fun offset member => ?_
  exact same _ (slot_offset addr (mem_range.mp member))

@[simp] theorem load_store (mem : Memory) (addr value : Word) :
  load (store mem addr value) addr = value := by
  have bytes : (List.range 8).map (fun offset =>
      store mem addr value (addr + BitVec.ofNat 64 offset)) = littleEndian 8 value.toNat := by
    refine ext_getElem (by simp) fun index short long => ?_
    have small : index < 8 := by simpa using short
    simp only [getElem_map, getElem_range, store]
    rw [if_pos (slot_offset addr small), offset_toNat addr small, getD_eq_getElem _ _ long]
  have bound : value.toNat < 256 ^ 8 := value.isLt
  rw [load, bytes, ofLittleEndian_littleEndian 8 _ bound]
  exact BitVec.ofNat_toNat 64 value

structure Context (Regs : Type) where
  rsp : Word
  regs : Regs
  mem : Memory

structure Machine (Regs : Type) where
  rip : Word
  ctx : Context Regs

/-- `size` of the instruction at the head of some bytes; `execute` of an instruction
followed by `next`, with the address it jumps to, if it does. -/
structure Cpu (Regs : Type) where
  size : List UInt8 → Nat
  execute : List UInt8 → Word → Context Regs → Context Regs × Option Word

variable {Regs : Type} (ctx : Context Regs) (value : Word)

def Context.push : Context Regs :=
  { ctx with rsp := ctx.rsp - 8, mem := store ctx.mem (ctx.rsp - 8) value }

namespace Cpu

variable (cpu : Cpu Regs)

def sizeAt (window : List UInt8) : Nat :=
  match window with
  | 0xe8 :: _ => 5
  | 0xe9 :: _ => 5
  | 0x68 :: _ => 5
  | 0xc3 :: _ => 1
  | 0x90 :: _ => 1
  | 0x48 :: 0xc7 :: 0xc4 :: _ => 7
  | bytes => cpu.size bytes

def perform (bytes : List UInt8) (next : Word) (ctx : Context Regs) : Context Regs × Option Word :=
  match bytes with
  | 0xe8 :: field => (ctx.push next, some (next + (ofSignedBytes field : Word)))
  | 0xe9 :: field => (ctx, some (next + (ofSignedBytes field : Word)))
  | 0x68 :: field => (ctx.push (ofSignedBytes field : Word), none)
  | 0xc3 :: _ => ({ ctx with rsp := ctx.rsp + 8 }, some (load ctx.mem ctx.rsp))
  | 0x90 :: _ => (ctx, none)
  | 0x48 :: 0xc7 :: 0xc4 :: field => ({ ctx with rsp := (ofSignedBytes field : Word) }, none)
  | other => cpu.execute other next ctx

def PositionFree (bytes : List UInt8) (ctx : Context Regs) : Prop :=
  ∀ next other, cpu.perform bytes next ctx = cpu.perform bytes other ctx

end Cpu

def fetch (code : Memory) (addr : Word) : Nat → List UInt8
  | 0 => []
  | count + 1 => code addr :: fetch code (addr + 1) count

def step (cpu : Cpu Regs) (code : Memory) (machine : Machine Regs) : Machine Regs :=
  let window := fetch code machine.rip 15
  let bytes := window.take (cpu.sizeAt window)
  let next := machine.rip + (bytes.length : Word)
  let outcome := cpu.perform bytes next machine.ctx
  ⟨outcome.2.getD next, outcome.1⟩

def run (cpu : Cpu Regs) (code : Memory) : Nat → Machine Regs → Machine Regs
  | 0, machine => machine
  | steps + 1, machine => run cpu code steps (step cpu code machine)

def Holds (code : Memory) (addr : Word) : List UInt8 → Prop
  | [] => True
  | byte :: rest => code addr = byte ∧ Holds code (addr + 1) rest

theorem holds_append : Holds code addr (front ++ back) ↔
    Holds code addr front ∧ Holds code (addr + (front.length : Word)) back := by
  induction front generalizing addr with
  | nil => simp [Holds]
  | cons byte rest ih =>
    have moved : addr + 1 + (rest.length : Word) = addr + ((byte :: rest).length : Word) := by
      simp only [length_cons]
      push_cast
      ring
    rw [cons_append, Holds, Holds, ih, moved, and_assoc]

theorem fetch_holds (held : Holds code addr bytes) (more : Nat) :
  ∃ rest, fetch code addr (bytes.length + more) = bytes ++ rest := by
  induction bytes generalizing addr with
  | nil => exact ⟨_, rfl⟩
  | cons byte rest ih =>
    obtain ⟨tail, found⟩ := ih held.2
    refine ⟨tail, ?_⟩
    rw [length_cons, Nat.add_right_comm, fetch, held.1, found, cons_append]

theorem step_holds {machine : Machine Regs} (held : Holds code machine.rip bytes)
  (short : bytes.length ≤ 15) (sized : ∀ rest, cpu.sizeAt (bytes ++ rest) = bytes.length) :
  step cpu code machine = ⟨(cpu.perform bytes (machine.rip + (bytes.length : Word)) machine.ctx).2.getD
        (machine.rip + (bytes.length : Word)),
      (cpu.perform bytes (machine.rip + (bytes.length : Word)) machine.ctx).1⟩ := by
  obtain ⟨rest, window⟩ := fetch_holds held (15 - bytes.length)
  rw [Nat.add_sub_cancel' short] at window
  have taken : (bytes ++ rest).take (cpu.sizeAt (bytes ++ rest)) = bytes := by
    rw [sized rest, take_left]
  simp only [step, window, taken]

section

variable (cpu : Cpu Regs) (machine : Machine Regs)

theorem step_call (fits : Fits32 displacement)
  (held : Holds code machine.rip (0xe8 :: signedBytes displacement)) :
  step cpu code machine =
    ⟨machine.rip + 5 + (displacement : Word), machine.ctx.push (machine.rip + 5)⟩ := by
  rw [step_holds held (by simp) fun rest => by simp [Cpu.sizeAt]]
  simp [Cpu.perform, ofSignedBytes_signedBytes fits]

theorem step_jmp (fits : Fits32 displacement)
  (held : Holds code machine.rip (0xe9 :: signedBytes displacement)) :
  step cpu code machine = ⟨machine.rip + 5 + (displacement : Word), machine.ctx⟩ := by
  rw [step_holds held (by simp) fun rest => by simp [Cpu.sizeAt]]
  simp [Cpu.perform, ofSignedBytes_signedBytes fits]

theorem step_ret (held : Holds code machine.rip [0xc3]) : step cpu code machine =
    ⟨load machine.ctx.mem machine.ctx.rsp, { machine.ctx with rsp := machine.ctx.rsp + 8 }⟩ := by
  rw [step_holds held (by simp) fun rest => by simp [Cpu.sizeAt]]
  simp [Cpu.perform]

theorem step_nop (held : Holds code machine.rip [0x90]) :
  step cpu code machine = ⟨machine.rip + 1, machine.ctx⟩ := by
  rw [step_holds held (by simp) fun rest => by simp [Cpu.sizeAt]]
  simp [Cpu.perform]

end

theorem run_nops (cpu : Cpu Regs) (count : Nat) :
  ∀ machine : Machine Regs, Holds code machine.rip (List.replicate count 0x90) →
    run cpu code count machine = ⟨machine.rip + (count : Word), machine.ctx⟩ := by
  induction count with
  | zero =>
    intro machine held
    simp [run]
  | succ count ih =>
    intro machine held
    have first : Holds code machine.rip [0x90] := ⟨held.1, trivial⟩
    rw [run, step_nop cpu machine first, ih _ held.2]
    congr 1
    push_cast
    ring

theorem run_add (cpu : Cpu Regs) (machine : Machine Regs) :
  run cpu code (first + second) machine = run cpu code second (run cpu code first machine) := by
  induction first generalizing machine with
  | zero => simp [run]
  | succ first ih => rw [Nat.add_right_comm, run, run, ih]

/-! An instruction moved out of line, to a body that is jumped to or called. -/

structure Agrees (actual expected : Context Regs) : Prop where
  rsp : actual.rsp = expected.rsp
  regs : actual.regs = expected.regs
  mem : ∀ location, ¬Slot (expected.rsp - 8) location → actual.mem location = expected.mem location

theorem Agrees.refl : Agrees ctx ctx := ⟨rfl, rfl, fun _ _ => rfl⟩

def Disturbed (other : Context Regs) : Prop :=
  other.regs = ctx.regs ∧ ∀ location, ¬Slot (ctx.rsp - 8) location → other.mem location = ctx.mem location

theorem disturbed_self : Disturbed ctx ctx := ⟨rfl, fun _ _ => rfl⟩

theorem disturbed_push : Disturbed ctx (ctx.push value) :=
  ⟨rfl, fun _ outside => store_outside outside ctx.mem value⟩

variable {ctx}

/-- In `ctx` the operation falls through and neither reads nor writes the stack pointer
or the eight bytes below it. -/
structure Neutral (op : Context Regs → Context Regs × Option Word) (ctx : Context Regs) :
  Prop where
  fallsThrough : ∀ other, Disturbed ctx other → (op other).2 = none
  rsp : ∀ other, Disturbed ctx other → (op other).1.rsp = other.rsp
  regs : ∀ other, Disturbed ctx other → (op other).1.regs = (op ctx).1.regs
  outside : ∀ other, Disturbed ctx other → ∀ location, ¬Slot (ctx.rsp - 8) location →
    (op other).1.mem location = (op ctx).1.mem location
  inside : ∀ other, Disturbed ctx other → ∀ location, Slot (ctx.rsp - 8) location →
    (op other).1.mem location = other.mem location

theorem Neutral.push (neutral : Neutral op ctx) (value : Word) : (op (ctx.push value)).1.rsp = ctx.rsp - 8 ∧
    load (op (ctx.push value)).1.mem (ctx.rsp - 8) = value ∧
    Agrees { (op (ctx.push value)).1 with rsp := ctx.rsp } (op ctx).1 := by
  have pushed := disturbed_push ctx value
  have level : (op ctx).1.rsp = ctx.rsp := neutral.rsp ctx (disturbed_self ctx)
  refine ⟨neutral.rsp _ pushed, ?_, level.symm, neutral.regs _ pushed, ?_⟩
  · rw [load_congr (neutral.inside _ pushed)]
    exact load_store ctx.mem (ctx.rsp - 8) value
  rw [level]
  exact neutral.outside _ pushed

section

variable (cpu : Cpu Regs) (machine : Machine Regs)

theorem step_body (held : Holds code machine.rip body) (short : body.length ≤ 15)
  (sized : ∀ rest, cpu.sizeAt (body ++ rest) = body.length)
  (performs : cpu.perform body (machine.rip + (body.length : Word)) machine.ctx = outcome)
  (falls : outcome.2 = none) : step cpu code machine = ⟨machine.rip + (body.length : Word), outcome.1⟩ := by
  rw [step_holds held short sized, performs, falls]
  rfl

theorem run_call_body (fits : Fits32 displacement) (site : Holds code machine.rip
    ((0xe8 :: signedBytes displacement) ++ List.replicate padding 0x90))
  (stub : Holds code (machine.rip + 5 + (displacement : Word)) (body ++ [0xc3]))
  (short : body.length ≤ 15) (sized : ∀ rest, cpu.sizeAt (body ++ rest) = body.length)
  (performs : ∀ ctx, Disturbed machine.ctx ctx → cpu.perform body
    (machine.rip + 5 + (displacement : Word) + (body.length : Word)) ctx = op ctx)
  (neutral : Neutral op machine.ctx) :
  ∃ ctx, run cpu code (3 + padding) machine = ⟨machine.rip + 5 + (padding : Word), ctx⟩ ∧
    Agrees ctx (op machine.ctx).1 := by
  obtain ⟨call, nops⟩ := (holds_append).mp site
  obtain ⟨inBody, ret⟩ := (holds_append).mp stub
  obtain ⟨deeper, returns, agrees⟩ := neutral.push (machine.rip + 5)
  have pushed := disturbed_push machine.ctx (machine.rip + 5)
  have called := step_call cpu machine fits call
  have ran := step_body cpu ⟨machine.rip + 5 + (displacement : Word), machine.ctx.push (machine.rip + 5)⟩
    inBody short sized (performs _ pushed) (neutral.fallsThrough _ pushed)
  have returned := step_ret cpu ⟨machine.rip + 5 + (displacement : Word) + (body.length : Word),
      (op (machine.ctx.push (machine.rip + 5))).1⟩ ret
  refine ⟨{ (op (machine.ctx.push (machine.rip + 5))).1 with rsp := machine.ctx.rsp }, ?_, agrees⟩
  have restored : machine.ctx.rsp - 8 + 8 = machine.ctx.rsp := by ring
  rw [run_add, run, run, run, run, called, ran, returned]
  dsimp only
  rw [deeper, returns, restored]
  refine run_nops cpu padding _ ?_
  simpa using nops

theorem run_jump_body (fits : Fits32 displacement) (fitsBack : Fits32 back)
  (site : Holds code machine.rip ((0xe9 :: signedBytes displacement) ++ List.replicate padding 0x90))
  (stub : Holds code (machine.rip + 5 + (displacement : Word)) (body ++ 0xe9 :: signedBytes back))
  (short : body.length ≤ 15) (sized : ∀ rest, cpu.sizeAt (body ++ rest) = body.length)
  (performs : cpu.perform body
    (machine.rip + 5 + (displacement : Word) + (body.length : Word)) machine.ctx = outcome)
  (falls : outcome.2 = none)
  (returns : machine.rip + 5 + (displacement : Word) + (body.length : Word) + 5 +
    (back : Word) = machine.rip + 5) :
  run cpu code (3 + padding) machine = ⟨machine.rip + 5 + (padding : Word), outcome.1⟩ := by
  obtain ⟨jump, nops⟩ := (holds_append).mp site
  obtain ⟨inBody, jumpBack⟩ := (holds_append).mp stub
  have jumped := step_jmp cpu machine fits jump
  have ran := step_body cpu ⟨machine.rip + 5 + (displacement : Word), machine.ctx⟩
    inBody short sized performs falls
  have returned := step_jmp cpu ⟨machine.rip + 5 + (displacement : Word) + (body.length : Word), outcome.1⟩
    fitsBack jumpBack
  rw [run_add, run, run, run, run, jumped, ran, returned]
  dsimp only
  rw [returns]
  refine run_nops cpu padding _ ?_
  simpa using nops

end

end Spacer.Lib.X86
