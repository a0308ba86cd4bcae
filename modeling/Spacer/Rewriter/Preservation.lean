import Spacer.Lib.X86
import Spacer.Rewriter.Stubs

/-!
Running a replaced instruction: the bytes at its address, the stub they lead to and
the padding, against the instruction itself.
-/

namespace Spacer.Rewriter

open Lib Lib.X86 List

variable {Regs : Type}

/-- What Capstone and the processor are trusted with for one instruction;
`dispOffset` is where the displacement of a RIP-relative operand stands. -/
structure Decoded (cpu : Cpu Regs) (dispOffset : Ins → Nat) (ins : Ins) : Prop where
  short : ins.bytes.length ≤ 15
  sized : ∀ rest, cpu.sizeAt (ins.bytes ++ rest) = ins.bytes.length
  call : ins.shape = .call → ins.mnemonic = "call"
  push : ins.bytes.length = 5 → (usedAddr ins).isSome →
    (ins.mnemonic = "push" ↔ ins.bytes.head? = some 0x68)
  memory : occursIn "rip" ins.opStr = true → ins.loadsRsp = false
  field : occursIn "rip" ins.opStr = true → ∀ displacement,
    ripDisplacement ins.opStr.toList = some displacement → ∃ front back,
      ins.bytes = front ++ signedBytes displacement ++ back ∧ front.length = dispOffset ins ∧
      (∀ other rest, cpu.sizeAt (front ++ signedBytes other ++ back ++ rest) = ins.bytes.length) ∧
      ∀ other next moved ctx, Fits32 other →
        next + (displacement : Word) = moved + (other : Word) →
        (cpu.perform ins.bytes next ctx).2 = none →
        cpu.perform (front ++ signedBytes other ++ back) moved ctx = cpu.perform ins.bytes next ctx

structure Decoding (cpu : Cpu Regs) (dispOffset : Ins → Nat) (inss : List Ins) : Prop where
  each : ∀ ins ∈ inss, Decoded cpu dispOffset ins
  text : ∀ first ∈ inss, ∀ ins ∈ inss, first.text = ins.text →
    first.shape = .plain → ins.shape = .plain → ∀ next ctx, cpu.PositionFree ins.bytes ctx →
    (cpu.perform ins.bytes next ctx).2 = none →
    cpu.perform first.bytes next ctx = cpu.perform ins.bytes next ctx

def Ins.effect (cpu : Cpu Regs) (ins : Ins) (ctx : Context Regs) : Context Regs × Option Word :=
  cpu.perform ins.bytes ((ins.address : Word) + (ins.bytes.length : Word)) ctx

def pathLength (ins : Ins) : Nat :=
  match ins.shape with
  | .call => 2
  | .jmp => 2
  | _ => 3 + (ins.bytes.length - 5)

def Faithful (cpu : Cpu Regs) (ins : Ins) (machine final : Machine Regs) : Prop :=
  match ins.shape with
  | .call => final = ⟨(ins.operand : Word), machine.ctx.push ((ins.address : Word) + 5)⟩
  | .jmp => final = ⟨(ins.operand : Word), machine.ctx⟩
  | _ => final.rip = (ins.address : Word) + (ins.bytes.length : Word) ∧
      Agrees final.ctx (ins.effect cpu machine.ctx).1

/-- The sites whose replacement is right: `before` are the instructions of the section
seen earlier, `entry` is the section they leave and `ctx` the state in which the site is
entered. -/
def SiteOk (cpu : Cpu Regs) (dispOffset : Ins → Nat) (before : List Ins) (entry : TextSection)
  (ins : Ins) (ctx : Context Regs) : Prop :=
  match ins.shape with
  | .call => ∀ earlier ∈ before, earlier.text = ins.text → earlier.shape = .call
  | .jmp => False
  | .push => entry.dataTarget.get? ins.text = none
  | .loadRsp => entry.dataTarget.get? ins.text = none
  | .plain => (∀ earlier ∈ before, earlier.text = ins.text → earlier.shape = .plain) ∧
      (∀ other, Disturbed ctx other → cpu.PositionFree ins.bytes other) ∧
      Neutral (ins.effect cpu) ctx
  | .ripRelative => entry.dataTarget.get? ins.text = none ∧
      (∀ displacement, ripDisplacement ins.opStr.toList = some displacement →
        findBytes (signedBytes displacement) ins.bytes = some (dispOffset ins)) ∧
      Neutral (ins.effect cpu) ctx

/-- A site in memory, with the stub it leads to; `first` is the instruction the stub
was emitted for. -/
structure Linked (code : Memory) (ins first : Ins) (addr : Int) (stub : List UInt8) : Prop where
  near : Near ins.address addr
  site : Holds code (ins.address : Word) (ins.site addr)
  emits : Emits first addr stub
  held : Holds code (addr : Word) stub

theorem jump_lands (origin target : Int) :
  (origin : Word) + 5 + ((target - origin - 5 : Int) : Word) = (target : Word) := by
  push_cast
  ring

def Shape.returns : Shape → Bool
  | .push => false
  | .loadRsp => false
  | _ => true

theorem site_eq (decoded : Decoded cpu dispOffset ins) (used : (usedAddr ins).isSome) :
  ins.site addr = jump (if ins.shape.returns then 0xe8 else 0xe9) ins.address addr ++
    List.replicate (ins.bytes.length - 5) 0x90 := by
  by_cases five : ins.bytes.length = 5
  · have push := decoded.push five used
    by_cases head : ins.bytes.head? = some 0x68
    · simp [Ins.site, Ins.shape, five, head, push, Shape.returns]
    have other : ins.shape.returns = true := by
      simp only [Ins.shape, five, ↓reduceIte, head]
      split
      · rfl
      · split <;> rfl
    simp [Ins.site, five, head, push, other]
  by_cases rip : occursIn "rip" ins.opStr = true
  · simp [Ins.site, Ins.shape, five, rip, decoded.memory rip, Shape.returns]
  by_cases loads : ins.loadsRsp = true <;>
    simp [Ins.site, Ins.shape, five, rip, loads, Shape.returns]

theorem push_bytes {ins : Ins} (shape : ins.shape = .push) : ∃ field, ins.bytes = 0x68 :: field := by
  have spec := ins.shape_spec
  rw [shape] at spec
  exact head?_eq_some_iff.mp spec

theorem loadRsp_bytes {ins : Ins} (shape : ins.shape = .loadRsp) :
  ∃ field, ins.bytes = 0x48 :: 0xc7 :: 0xc4 :: field := by
  have spec := ins.shape_spec
  rw [shape] at spec
  obtain ⟨field, equal⟩ := isPrefixOf_iff_prefix.mp spec
  exact ⟨field, equal.symm⟩

section

variable {cpu : Cpu Regs} {ins first : Ins} {machine : Machine Regs}

theorem back_performs (cpu : Cpu Regs) (shape : ins.shape = .push ∨ ins.shape = .loadRsp)
  (ctx : Context Regs) : cpu.PositionFree ins.bytes ctx ∧ (ins.effect cpu ctx).2 = none := by
  unfold Ins.effect
  rcases shape with shape | shape
  · obtain ⟨field, bytes⟩ := push_bytes shape
    rw [bytes]
    exact ⟨fun _ _ => rfl, rfl⟩
  obtain ⟨field, bytes⟩ := loadRsp_bytes shape
  rw [bytes]
  exact ⟨fun _ _ => rfl, rfl⟩

def RunsBack (cpu : Cpu Regs) (code : Memory) (ins : Ins) (machine : Machine Regs) : Prop :=
  ∃ ctx, run cpu code (3 + (ins.bytes.length - 5)) machine =
      ⟨(ins.address : Word) + (ins.bytes.length : Word), ctx⟩ ∧
    Agrees ctx (ins.effect cpu machine.ctx).1

variable (atSite : machine.rip = (ins.address : Word))
include atSite

theorem site_lands :
  machine.rip + 5 + ((addr - ins.address - 5 : Int) : Word) = (addr : Word) := by
  rw [atSite, ← Int.cast_natCast]
  exact jump_lands ins.address addr

theorem padded_end (long : 5 ≤ ins.bytes.length) :
  machine.rip + 5 + ((ins.bytes.length - 5 : Nat) : Word) =
    (ins.address : Word) + (ins.bytes.length : Word) := by
  have whole : (ins.bytes.length : Word) = 5 + ((ins.bytes.length - 5 : Nat) : Word) := by
    conv_lhs => rw [← Nat.add_sub_cancel' long]
    push_cast
    rfl
  rw [atSite, whole]
  ring

variable (decoded : Decoded cpu dispOffset ins) (used : (usedAddr ins).isSome)
include decoded used

theorem run_transfer (link : Linked code ins first addr stub)
  (shape : ins.shape = .call ∨ ins.shape = .jmp) (same : first.shape = ins.shape)
  (operand : first.operand = ins.operand) :
  run cpu code 2 machine = ⟨(ins.operand : Word), machine.ctx.push ((ins.address : Word) + 5)⟩ := by
  have returns : ins.shape.returns = true := by
    rcases shape with shape | shape <;> rw [shape] <;> rfl
  have site := link.site
  rw [site_eq decoded used, if_pos returns, holds_append, ← atSite] at site
  have held := link.held
  obtain ⟨reach, rest, rfl⟩ := link.emits.jumps (same ▸ shape)
  rw [holds_append, operand] at held
  rw [operand] at reach
  have called := step_call cpu machine link.near site.1
  rw [site_lands atSite, atSite] at called
  have jumped := step_jmp cpu ⟨(addr : Word), machine.ctx.push ((ins.address : Word) + 5)⟩ reach held.1
  rw [run, run, run, called, jumped, jump_lands]

theorem run_back (link : Linked code ins ins addr stub)
  (shape : ins.shape = .push ∨ ins.shape = .loadRsp) (long : 5 ≤ ins.bytes.length) :
  run cpu code (3 + (ins.bytes.length - 5)) machine =
    ⟨(ins.address : Word) + (ins.bytes.length : Word), (ins.effect cpu machine.ctx).1⟩ := by
  have jumps : ins.shape.returns = false := by
    rcases shape with shape | shape <;> rw [shape] <;> rfl
  have site := link.site
  rw [site_eq decoded used, jumps, ← atSite] at site
  have held := link.held
  obtain ⟨reach, rfl⟩ := link.emits.goesBack shape
  obtain ⟨free, falls⟩ := back_performs cpu shape machine.ctx
  have returns : machine.rip + 5 + ((addr - ins.address - 5 : Int) : Word) + (ins.bytes.length : Word) + 5 +
      ((ins.address + 5 - (addr + ins.bytes.length) - 5 : Int) : Word) = machine.rip + 5 := by
    rw [site_lands atSite, atSite]
    push_cast
    ring
  rw [← site_lands atSite] at held
  rw [run_jump_body cpu machine link.near reach site held decoded.short decoded.sized
    (free _ ((ins.address : Word) + (ins.bytes.length : Word))) falls returns,
    padded_end atSite long]
  rfl

theorem run_called (link : Linked code ins first addr (body ++ [0xc3])) (returns : ins.shape.returns = true)
  (long : 5 ≤ ins.bytes.length) (short : body.length ≤ 15)
  (sized : ∀ rest, cpu.sizeAt (body ++ rest) = body.length)
  (performs : ∀ ctx, Disturbed machine.ctx ctx →
    cpu.perform body ((addr : Word) + (body.length : Word)) ctx = ins.effect cpu ctx)
  (neutral : Neutral (ins.effect cpu) machine.ctx) : RunsBack cpu code ins machine := by
  unfold RunsBack
  have site := link.site
  rw [site_eq decoded used, if_pos returns, ← atSite] at site
  have held := link.held
  rw [← site_lands atSite] at held performs
  rw [← padded_end atSite long]
  exact run_call_body cpu machine link.near site held short sized performs neutral

end

theorem Decoded.encoded (decoded : Decoded cpu dispOffset ins) : Encoded ins := by
  intro rip displacement found
  obtain ⟨front, back, bytes, _⟩ := decoded.field rip displacement found
  exact ⟨front, back, bytes.symm⟩

/-- `disassemble` on a section: after `before` the section is `entry`, then `ins` is
replaced by `bytes`, and after `after` the section is `final`. -/
def Rewrites (uk : Unikernel) (sect : Section) (start : Int) (before : List Ins)
  (entry : TextSection) (ins : Ins) (bytes : List UInt8) (after : List Ins)
  (final : TextSection) : Prop :=
  processAll uk (.fresh sect start) before = .ok entry ∧ ∃ used middle, usedAddr ins = some used ∧
      processInstruction uk ins entry used 0 = .ok (middle, some bytes) ∧
      processAll uk middle after = .ok final

structure Loaded (code : Memory) (ins : Ins) (start : Int) (bytes : List UInt8)
  (final : TextSection) : Prop where
  site : Holds code (ins.address : Word) bytes
  stubs : Holds code (start : Word) final.sectionInd.bt

/-! Two libraries, with a call and a jump from the first into the second. -/

def plainCpu : Cpu Unit := ⟨List.length, fun _ _ ctx => (ctx, none)⟩

def callerSection : Section := ⟨".text.libnolibc", 0x100000, 0x101000⟩

def twoLibraries : Unikernel := ⟨[callerSection, ⟨".text.libukalloc", 0x200000, 0x202000⟩]⟩

def firstCall : Ins := ⟨0x100010, "call", "0x201234", [0xe8, 0x1f, 0x12, 0x10, 0x00]⟩

def secondCall : Ins := ⟨0x100020, "call", "0x201234", [0xe8, 0x0f, 0x12, 0x10, 0x00]⟩

def tailJump : Ins := ⟨0x100010, "jmp", "0x201234", [0xe9, 0x1f, 0x12, 0x10, 0x00]⟩

def sampleCode (address : Nat) (site stubs : List UInt8) : Memory := fun location =>
  if (location - (address : Word)).toNat < site.length then
    site.getD (location - (address : Word)).toNat 0
  else stubs.getD (location - 0x300000).toNat 0

def sampleContext : Context Unit := ⟨0x8000, (), fun _ => 0⟩

theorem direct_decoded (cpu : Cpu Regs) (bytes : ins.bytes = op :: field) (five : ins.bytes.length = 5)
  (direct : op = 0xe8 ∧ ins.mnemonic = "call" ∨ op = 0xe9 ∧ ins.mnemonic = "jmp")
  (absolute : occursIn "rip" ins.opStr = false) : Decoded cpu (fun _ => 0) ins where
  short := by omega
  sized := by
    intro rest
    rw [five, bytes]
    rcases direct with ⟨rfl, _⟩ | ⟨rfl, _⟩ <;> rfl
  call := by
    intro shape
    rcases direct with ⟨_, mnemonic⟩ | ⟨rfl, _⟩
    · exact mnemonic
    have head : ins.bytes.head? = some 0xe9 := by rw [bytes]; rfl
    simp [Ins.shape, five, head] at shape
  push := by
    intro _ _
    rcases direct with ⟨rfl, mnemonic⟩ | ⟨rfl, mnemonic⟩ <;> simp [bytes, mnemonic]
  memory := by simp [absolute]
  field := by simp [absolute]

section

variable {cpu : Cpu Regs} {before after : List Ins}

theorem first_shape (seen : first ∈ before ++ [ins]) (same : first.text = ins.text)
  (alike : ∀ earlier ∈ before, earlier.text = ins.text → earlier.shape = ins.shape) :
  first.shape = ins.shape := by
  rcases mem_append.mp seen with earlier | own
  · exact alike first earlier same
  · rw [mem_singleton.mp own]

theorem operand_eq {first other : Ins} (same : first.text = other.text)
  (mnemonic : first.mnemonic = other.mnemonic) : first.operand = other.operand := by
  have operands : first.opStr = other.opStr := by simpa [Ins.text, mnemonic] using same
  simp [Ins.operand, usedAddr, operands]

variable (decoding : Decoding cpu dispOffset (before ++ ins :: after))
  (rewrites : Rewrites uk sect start before entry ins bytes after final)
include rewrites

theorem Rewrites.used : (usedAddr ins).isSome := by
  obtain ⟨_, used, _, found, _⟩ := rewrites
  rw [found]
  rfl

theorem Rewrites.long : 5 ≤ ins.bytes.length := by
  obtain ⟨_, _, _, _, replaced, _⟩ := rewrites
  exact (processInstruction_some replaced).1

theorem Rewrites.linked (encoded : ∀ other ∈ before ++ ins :: after, Encoded other)
  (loaded : Loaded code ins start bytes final) :
  ∃ first ∈ before ++ [ins], first.text = ins.text ∧ (entry.dataTarget.get? ins.text = none → first = ins) ∧
    ∃ addr stub, Linked code ins first addr stub := by
  obtain ⟨ran, used, middle, found, replaced, rest⟩ := rewrites
  obtain ⟨table, early, grown⟩ := processAll_table (table_fresh sect start)
    (fun other member => encoded other (by simp [member])) ran
  obtain ⟨next, ⟨own, added⟩, first, seen, same, own, addr, holding, near, rfl⟩ :=
    processInstruction_table table found (encoded ins (by simp)) replaced
  obtain ⟨_, late, extended⟩ := processAll_table next
    (fun other member => encoded other (by simp [member])) rest
  have kept : Holding final.sectionInd first addr := by
    rw [extended]
    exact holding.extend late
  have origin : final.sectionInd.startAddr = start := by
    rw [extended, added, grown]
    rfl
  obtain ⟨front, stub, back, buffer, position, emits⟩ := kept
  have held := loaded.stubs
  rw [buffer, append_assoc, holds_append, holds_append] at held
  have place : (start : Word) + (front.length : Word) = (addr : Word) := by
    rw [position, origin]
    push_cast
    rfl
  rw [place] at held
  exact ⟨first, by simpa using seen, same, own, addr, stub, near, loaded.site, emits, held.2.1⟩

theorem rip_faithful (decoded : Decoded cpu dispOffset ins) (link : Linked code ins ins addr stub) (atSite : machine.rip = (ins.address : Word))
  (shape : ins.shape = .ripRelative)
  (fieldFirst : ∀ displacement, ripDisplacement ins.opStr.toList = some displacement →
    findBytes (signedBytes displacement) ins.bytes = some (dispOffset ins))
  (neutral : Neutral (ins.effect cpu) machine.ctx) : RunsBack cpu code ins machine := by
  obtain ⟨displacement, found, fits, relocated⟩ := link.emits.relocates shape
  obtain ⟨front, back, split, offset, sized, moves⟩ :=
    decoded.field (ripRelative_text shape) displacement found
  have searched := fieldFirst displacement found
  rw [split, ← offset] at searched
  rw [split, relocate_field searched] at relocated
  subst relocated
  have length : (front ++ signedBytes (ins.address + displacement - addr) ++ back).length =
      ins.bytes.length := by
    rw [split]
    simp
  refine run_called atSite decoded rewrites.used link (by rw [shape]; rfl) rewrites.long
    (by rw [length]; exact decoded.short) (fun rest => by rw [sized, length]) ?_ neutral
  intro ctx disturbed
  -- both copies address the same byte
  refine moves _ _ _ ctx fits ?_ (neutral.fallsThrough ctx disturbed)
  rw [length]
  push_cast
  ring

include decoding

theorem plain_faithful (seen : first ∈ before ++ ins :: after) (same : first.text = ins.text)
  (link : Linked code ins first addr stub) (atSite : machine.rip = (ins.address : Word))
  (shape : ins.shape = .plain) (firstShape : first.shape = .plain)
  (free : ∀ other, Disturbed machine.ctx other → cpu.PositionFree ins.bytes other)
  (neutral : Neutral (ins.effect cpu) machine.ctx) : RunsBack cpu code ins machine := by
  have member : ins ∈ before ++ ins :: after := by simp
  have firstDecoded := decoding.each first seen
  have copied := link.emits.copies firstShape
  subst copied
  refine run_called atSite (decoding.each ins member) rewrites.used link (by rw [shape]; rfl)
    rewrites.long firstDecoded.short firstDecoded.sized ?_ neutral
  intro ctx disturbed
  have home := free ctx disturbed ((addr : Word) + (first.bytes.length : Word))
    ((ins.address : Word) + (ins.bytes.length : Word))
  have falls := neutral.fallsThrough ctx disturbed
  rw [Ins.effect, ← home] at falls
  rw [decoding.text first seen ins member same firstShape shape _ ctx (free ctx disturbed) falls]
  exact home

theorem Rewrites.first_linked (loaded : Loaded code ins start bytes final) :
  ∃ first ∈ before ++ [ins], first ∈ before ++ ins :: after ∧ first.text = ins.text ∧
    (entry.dataTarget.get? ins.text = none → first = ins) ∧
    ∃ addr stub, Linked code ins first addr stub := by
  obtain ⟨first, seen, same, linked⟩ :=
    rewrites.linked (fun other member => (decoding.each other member).encoded) loaded
  refine ⟨first, seen, ?_, same, linked⟩
  rcases mem_append.mp seen with earlier | own
  · simp [earlier]
  · simp [mem_singleton.mp own]

/-- The target of a replaced jump is entered with a return address on the stack. -/
theorem jmp_unfaithful (loaded : Loaded code ins start bytes final)
  (atSite : machine.rip = (ins.address : Word)) (shape : ins.shape = .jmp)
  (alike : ∀ earlier ∈ before, earlier.text = ins.text →
    earlier.shape = ins.shape ∧ earlier.mnemonic = ins.mnemonic) :
  ¬Faithful cpu ins machine (run cpu code (pathLength ins) machine) := by
  obtain ⟨first, seen, _, same, _, addr, stub, link⟩ := rewrites.first_linked decoding loaded
  have firstShape := first_shape seen same fun earlier member equal => (alike earlier member equal).1
  have mnemonic : first.mnemonic = ins.mnemonic := by
    rcases mem_append.mp seen with earlier | own
    · exact (alike first earlier same).2
    · rw [mem_singleton.mp own]
  simp only [Faithful, pathLength, shape]
  rw [run_transfer atSite (decoding.each ins (by simp)) rewrites.used link (.inr shape) firstShape
    (operand_eq same mnemonic)]
  intro equal
  have level : machine.ctx.rsp - 8 = machine.ctx.rsp :=
    congrArg (fun state => state.ctx.rsp) equal
  exact absurd (sub_eq_self.mp level) (by decide)

/-- A replaced instruction, run from its address through its stub, does what the
instruction does. -/
theorem replaced_instruction_faithful (loaded : Loaded code ins start bytes final)
  (atSite : machine.rip = (ins.address : Word))
  (siteOk : SiteOk cpu dispOffset before entry ins machine.ctx) :
  Faithful cpu ins machine (run cpu code (pathLength ins) machine) := by
  have decoded := decoding.each ins (by simp)
  obtain ⟨first, seen, listed, same, own, addr, stub, link⟩ :=
    rewrites.first_linked decoding loaded
  cases shape : ins.shape with
  | call =>
    simp only [SiteOk, Faithful, pathLength, shape] at siteOk ⊢
    have firstShape := first_shape seen same fun earlier member equal =>
      (siteOk earlier member equal).trans shape.symm
    have mnemonic : first.mnemonic = ins.mnemonic := by
      rw [(decoding.each first listed).call (firstShape.trans shape), decoded.call shape]
    exact run_transfer atSite decoded rewrites.used link (.inl shape) firstShape (operand_eq same mnemonic)
  | jmp => simp only [SiteOk, shape] at siteOk
  | push =>
    simp only [SiteOk, Faithful, pathLength, shape] at siteOk ⊢
    cases own siteOk
    rw [run_back atSite decoded rewrites.used link (.inl shape) rewrites.long]
    exact ⟨rfl, Agrees.refl _⟩
  | loadRsp =>
    simp only [SiteOk, Faithful, pathLength, shape] at siteOk ⊢
    cases own siteOk
    rw [run_back atSite decoded rewrites.used link (.inr shape) rewrites.long]
    exact ⟨rfl, Agrees.refl _⟩
  | plain =>
    simp only [SiteOk, Faithful, pathLength, shape] at siteOk ⊢
    obtain ⟨alike, free, neutral⟩ := siteOk
    have firstShape := first_shape seen same fun earlier member equal =>
      (alike earlier member equal).trans shape.symm
    obtain ⟨ctx, ran, agrees⟩ := plain_faithful decoding rewrites listed same link atSite shape
      (firstShape.trans shape) free neutral
    rw [ran]
    exact ⟨rfl, agrees⟩
  | ripRelative =>
    simp only [SiteOk, Faithful, pathLength, shape] at siteOk ⊢
    obtain ⟨fresh, fieldFirst, neutral⟩ := siteOk
    cases own fresh
    obtain ⟨ctx, ran, agrees⟩ := rip_faithful rewrites decoded link atSite shape fieldFirst neutral
    rw [ran]
    exact ⟨rfl, agrees⟩

omit decoding rewrites

end

theorem second_call_shares_stub : ∃ entry bytes final,
    Rewrites twoLibraries callerSection 0x300000 [firstCall] entry secondCall bytes [] final ∧
    Faithful plainCpu secondCall ⟨0x100020, sampleContext⟩
      (run plainCpu (sampleCode 0x100020 bytes final.sectionInd.bt) (pathLength secondCall)
        ⟨0x100020, sampleContext⟩) := by
  have rewrites : Rewrites twoLibraries callerSection 0x300000 [firstCall]
      ⟨callerSection, ⟨0x300000, 0x300005, [0xe9, 0x2f, 0x12, 0xf0, 0xff]⟩,
        ⟨[("call 0x201234", (1, 0x300000))], by decide⟩⟩
      secondCall [0xe8, 0xdb, 0xff, 0x1f, 0x00] []
      ⟨callerSection, ⟨0x300000, 0x300005, [0xe9, 0x2f, 0x12, 0xf0, 0xff]⟩,
        ⟨[("call 0x201234", (2, 0x300000))], by decide⟩⟩ :=
    ⟨rfl, _, _, rfl, rfl, rfl⟩
  have decoding : Decoding plainCpu (fun _ => 0) ([firstCall] ++ secondCall :: []) :=
    ⟨by
      intro ins member
      simp only [cons_append, nil_append, mem_cons, not_mem_nil, or_false] at member
      rcases member with rfl | rfl
      · exact direct_decoded plainCpu rfl rfl (.inl ⟨rfl, rfl⟩) (by decide)
      · exact direct_decoded plainCpu rfl rfl (.inl ⟨rfl, rfl⟩) (by decide),
    by
      intro first seen ins member same shape
      simp only [cons_append, nil_append, mem_cons, not_mem_nil, or_false] at seen
      rcases seen with rfl | rfl <;> exact absurd shape (by decide)⟩
  refine ⟨_, _, _, rewrites, replaced_instruction_faithful decoding rewrites ⟨?_, ?_⟩ rfl ?_⟩
  · exact ⟨rfl, rfl, rfl, rfl, rfl, trivial⟩
  · exact ⟨rfl, rfl, rfl, rfl, rfl, trivial⟩
  intro earlier member same
  rw [mem_singleton.mp member]
  decide

theorem tail_jump_keeps_return_address :
  ∃ bytes final, Decoding plainCpu (fun _ => 0) ([] ++ tailJump :: []) ∧
    Rewrites twoLibraries callerSection 0x300000 [] (.fresh callerSection 0x300000) tailJump
      bytes [] final ∧
    Loaded (sampleCode 0x100010 bytes final.sectionInd.bt) tailJump 0x300000 bytes final ∧
    ¬Faithful plainCpu tailJump ⟨0x100010, sampleContext⟩
      (run plainCpu (sampleCode 0x100010 bytes final.sectionInd.bt) (pathLength tailJump)
        ⟨0x100010, sampleContext⟩) := by
  have rewrites : Rewrites twoLibraries callerSection 0x300000 []
      (.fresh callerSection 0x300000) tailJump [0xe8, 0xeb, 0xff, 0x1f, 0x00] []
      ⟨callerSection, ⟨0x300000, 0x300006, [0xe9, 0x2f, 0x12, 0xf0, 0xff, 0xc3]⟩,
        ⟨[("jmp 0x201234", (1, 0x300000))], by decide⟩⟩ :=
    ⟨rfl, _, _, rfl, rfl, rfl⟩
  have decoding : Decoding plainCpu (fun _ => 0) ([] ++ tailJump :: []) :=
    ⟨by
      intro ins member
      rw [mem_singleton.mp member]
      exact direct_decoded plainCpu rfl rfl (.inr ⟨rfl, rfl⟩) (by decide),
    by
      intro first seen ins member same shape
      rw [mem_singleton.mp seen] at shape
      exact absurd shape (by decide)⟩
  have loaded : Loaded (sampleCode 0x100010 [0xe8, 0xeb, 0xff, 0x1f, 0x00]
      [0xe9, 0x2f, 0x12, 0xf0, 0xff, 0xc3]) tailJump 0x300000 [0xe8, 0xeb, 0xff, 0x1f, 0x00]
      ⟨callerSection, ⟨0x300000, 0x300006, [0xe9, 0x2f, 0x12, 0xf0, 0xff, 0xc3]⟩,
        ⟨[("jmp 0x201234", (1, 0x300000))], by decide⟩⟩ :=
    ⟨⟨rfl, rfl, rfl, rfl, rfl, trivial⟩, ⟨rfl, rfl, rfl, rfl, rfl, rfl, trivial⟩⟩
  exact ⟨_, _, decoding, rewrites, loaded,
    jmp_unfaithful decoding rewrites loaded rfl (by decide) (by simp)⟩

end Spacer.Rewriter
