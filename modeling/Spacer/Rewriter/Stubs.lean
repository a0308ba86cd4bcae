import Spacer.Rewriter.Core

/-!
What a run of `process_instruction` leaves in the stub buffer: every recorded address
is the start of a stub emitted for an instruction with the recorded text.
-/

namespace Spacer.Rewriter

open Lib List

inductive Shape
  | call
  | push
  | jmp
  | plain
  | ripRelative
  | loadRsp
  deriving DecidableEq

def Ins.shape (ins : Ins) : Shape :=
  if ins.bytes.length = 5 then
    if ins.bytes.head? = some 0xe8 then .call
    else if ins.bytes.head? = some 0x68 then .push
    else if ins.bytes.head? = some 0xe9 then .jmp
    else .plain
  else if occursIn "rip" ins.opStr then .ripRelative
  else if ins.loadsRsp then .loadRsp
  else .plain

theorem Ins.shape_spec (ins : Ins) :
  match ins.shape with
  | .call => ins.bytes.head? = some 0xe8
  | .push => ins.bytes.head? = some 0x68
  | .jmp => ins.bytes.head? = some 0xe9
  | .plain => True
  | .ripRelative => occursIn "rip" ins.opStr = true
  | .loadRsp => ins.loadsRsp = true := by
  unfold Ins.shape
  split_ifs <;> trivial

variable {ins : Ins}

theorem ripRelative_text (shape : ins.shape = .ripRelative) : occursIn "rip" ins.opStr = true := by
  have spec := ins.shape_spec
  rw [shape] at spec
  exact spec

def Ins.operand (ins : Ins) : Int :=
  ((usedAddr ins).map fun used => (ofHex (used.drop 2) : Int)).getD 0

def jump (op : UInt8) (origin target : Int) : List UInt8 :=
  op :: signedBytes (target - origin - 5)

def Near (origin target : Int) : Prop := Fits32 (target - origin - 5)

inductive Emits (ins : Ins) (addr : Int) : List UInt8 → Prop
  | call (shape : ins.shape = .call) (near : Near addr ins.operand) :
      Emits ins addr (jump 0xe9 addr ins.operand)
  | jmp (shape : ins.shape = .jmp) (near : Near addr ins.operand) :
      Emits ins addr (jump 0xe9 addr ins.operand ++ [0xc3])
  | back (shape : ins.shape = .push ∨ ins.shape = .loadRsp)
      (near : Near (addr + ins.bytes.length) (ins.address + 5)) :
      Emits ins addr (ins.bytes ++ jump 0xe9 (addr + ins.bytes.length) (ins.address + 5))
  | plain (shape : ins.shape = .plain) : Emits ins addr (ins.bytes ++ [0xc3])
  | ripRelative (shape : ins.shape = .ripRelative) {displacement : Int}
      (found : ripDisplacement ins.opStr.toList = some displacement)
      (fits : Fits32 (ins.address + displacement - addr)) :
      Emits ins addr (relocate ins.bytes (signedBytes displacement)
        (signedBytes (ins.address + displacement - addr)) ++ [0xc3])

section

variable (emits : Emits ins addr stub)
include emits

theorem Emits.jumps (shape : ins.shape = .call ∨ ins.shape = .jmp) :
  Near addr ins.operand ∧ ∃ rest, stub = jump 0xe9 addr ins.operand ++ rest := by
  cases emits with
  | call _ near => exact ⟨near, [], by simp⟩
  | jmp _ near => exact ⟨near, _, rfl⟩
  | back other near => rcases other with other | other <;> simp [other] at shape
  | plain other | ripRelative other => simp [other] at shape

theorem Emits.goesBack (shape : ins.shape = .push ∨ ins.shape = .loadRsp) :
  Near (addr + ins.bytes.length) (ins.address + 5) ∧
    stub = ins.bytes ++ jump 0xe9 (addr + ins.bytes.length) (ins.address + 5) := by
  cases emits with
  | call other | jmp other | plain other | ripRelative other => simp [other] at shape
  | back _ near => exact ⟨near, rfl⟩

theorem Emits.copies (shape : ins.shape = .plain) : stub = ins.bytes ++ [0xc3] := by
  cases emits with
  | call other | jmp other | ripRelative other => simp [other] at shape
  | back other => simp [shape] at other
  | plain _ => rfl

theorem Emits.relocates (shape : ins.shape = .ripRelative) :
  ∃ displacement, ripDisplacement ins.opStr.toList = some displacement ∧
    Fits32 (ins.address + displacement - addr) ∧
    stub = relocate ins.bytes (signedBytes displacement)
      (signedBytes (ins.address + displacement - addr)) ++ [0xc3] := by
  cases emits with
  | call other | jmp other | plain other => simp [other] at shape
  | back other => simp [shape] at other
  | ripRelative _ found fits => exact ⟨_, found, fits, rfl⟩

omit emits

end

def Ins.site (ins : Ins) (addr : Int) : List UInt8 :=
  let returns := if ins.bytes.length = 5 then ins.mnemonic ≠ "push" else !ins.loadsRsp
  jump (if returns then 0xe8 else 0xe9) ins.address addr ++ List.replicate (ins.bytes.length - 5) 0x90

theorem relocate_length (offset : List UInt8) (nonempty : previous ≠ []) (inside : previous <:+: bytes)
  (same : offset.length = previous.length) : (relocate bytes previous offset).length = bytes.length := by
  obtain ⟨index, found⟩ := findBytes_isSome nonempty inside
  obtain ⟨front, back, rfl, rfl⟩ := findBytes_eq_some found
  simp only [relocate, found, length_append, length_take, length_drop]
  omega

theorem relocate_field (found : findBytes previous (front ++ previous ++ back) = some front.length) :
  relocate (front ++ previous ++ back) previous offset = front ++ offset ++ back := by
  have head : (front ++ previous ++ back).take front.length = front := by
    rw [append_assoc, take_left]
  have tail : (front ++ previous ++ back).drop (front.length + previous.length) = back := by
    rw [← length_append, drop_left]
  simp only [relocate, found, head, tail]

variable {ind : SectionInd}

namespace SectionInd

theorem extend_extend : (ind.extend first).extend second = ind.extend (first ++ second) := by
  simp [extend, Int.add_assoc]

theorem addInsBytes_eq_ok {addr : Int} (added : ind.addInsBytes op addr offset = .ok result) :
  Fits32 (addr - ind.addr - offset) ∧
    result = ind.extend (op :: signedBytes (addr - ind.addr - offset)) := by
  obtain ⟨diff, written, finished⟩ := ok_of_bind added
  obtain ⟨fits, rfl⟩ := toSignedBytes_eq_ok written
  cases finished
  rw [show -(ind.addr - addr) = addr - ind.addr by omega] at *
  exact ⟨fits, rfl⟩

theorem addInsBytes_back (added : ind.addInsBytes 0xe9 address 0 = .ok result) :
  Near ind.addr (address + 5) ∧ result = ind.extend (jump 0xe9 ind.addr (address + 5)) := by
  obtain ⟨fits, rfl⟩ := addInsBytes_eq_ok added
  have same : (address : Int) - ind.addr - (0 : Nat) = address + 5 - ind.addr - 5 := by omega
  rw [same] at fits
  exact ⟨fits, by rw [same, jump]⟩

end SectionInd

def Encoded (ins : Ins) : Prop :=
  occursIn "rip" ins.opStr = true → ∀ displacement,
    ripDisplacement ins.opStr.toList = some displacement → signedBytes displacement <:+: ins.bytes

def emission (uk : Unikernel) (ins : Ins) (s : TextSection) (used : List Char) :
  Except PyError SectionInd :=
  if ins.bytes.length = 5 then
    s.sectionInd.addIndBytes (ofHex (used.drop 2)) ins.address ins.bytes 0
  else addBigger uk ins s 0

theorem addIndBytes_emits (five : ins.bytes.length = 5) {target : Nat} (operand : ins.operand = target)
  (added : ind.addIndBytes target ins.address ins.bytes 0 = .ok result) :
  ∃ stub, Emits ins ind.addr stub ∧ result = ind.extend stub := by
  obtain ⟨op, rest, bytes⟩ := exists_cons_of_length_eq_add_one five
  have head : ins.bytes.head? = some op := by rw [bytes]; rfl
  simp only [SectionInd.addIndBytes, SectionInd.optimize, Nat.lt_irrefl, ↓reduceIte, bytes] at added
  have shape : ins.shape = if op = 0xe8 then .call else if op = 0x68 then .push
      else if op = 0xe9 then .jmp else .plain := by
    simp [Ins.shape, five, head]
  split at added
  · rename_i isCall
    obtain ⟨fits, rfl⟩ := SectionInd.addInsBytes_eq_ok added
    rw [if_pos isCall] at shape
    exact ⟨_, .call shape (by rw [Near, operand]; exact fits), by rw [operand]; rfl⟩
  rename_i notCall
  split at added
  · rename_i isPush
    obtain ⟨near, rfl⟩ := SectionInd.addInsBytes_back added
    rw [if_neg notCall, if_pos isPush] at shape
    rw [← bytes] at near ⊢
    exact ⟨_, .back (.inl shape) near, SectionInd.extend_extend⟩
  rename_i notPush
  split at added
  · rename_i isJmp
    obtain ⟨middle, first, finished⟩ := ok_of_bind added
    obtain ⟨fits, rfl⟩ := SectionInd.addInsBytes_eq_ok first
    cases finished
    rw [if_neg notCall, if_neg notPush, if_pos isJmp] at shape
    refine ⟨_, .jmp shape (by rw [Near, operand]; exact fits), ?_⟩
    rw [SectionInd.addInsBytesRet, SectionInd.extend_extend, operand, isJmp, jump]
    rfl
  rename_i notJmp
  cases added
  rw [if_neg notCall, if_neg notPush, if_neg notJmp] at shape
  rw [← bytes]
  exact ⟨_, .plain shape, SectionInd.extend_extend⟩

theorem addIndBytesBiggerRip_emits (shape : ins.shape = .ripRelative)
  (rip : occursIn "rip" ins.opStr = true) (encoded : Encoded ins)
  (added : ind.addIndBytesBiggerRip ins 0 = .ok result) :
  ∃ stub, Emits ins ind.addr stub ∧ result = ind.extend stub := by
  simp only [SectionInd.addIndBytesBiggerRip, SectionInd.optimize, Nat.lt_irrefl, ↓reduceIte] at added
  cases found : ripDisplacement ins.opStr.toList with
  | none => simp [found] at added
  | some displacement =>
    simp only [found] at added
    obtain ⟨previous, first, added⟩ := ok_of_bind added
    obtain ⟨offset, second, finished⟩ := ok_of_bind added
    obtain ⟨_, rfl⟩ := toSignedBytes_eq_ok first
    obtain ⟨fits, rfl⟩ := toSignedBytes_eq_ok second
    refine ⟨_, .ripRelative shape found fits, ?_⟩
    have inside := encoded rip displacement found
    have nonempty : signedBytes displacement ≠ [] := by
      intro empty
      simpa [empty] using signedBytes_length displacement
    have length := relocate_length (signedBytes (ins.address + displacement - ind.addr))
      nonempty inside (by simp)
    cases finished
    simp [SectionInd.addInsBytesRet, SectionInd.extend, length, Int.add_assoc]

def emitBigger (ins : Ins) (ind : SectionInd) (optimizedSuit : Nat) : Except PyError SectionInd :=
  if occursIn "rip" ins.opStr then ind.addIndBytesBiggerRip ins optimizedSuit
  else if ins.loadsRsp then ind.addIndBytesBiggerJMP ins.address ins.bytes optimizedSuit
  else .ok (ind.addIndBytesBigger ins.bytes optimizedSuit)

theorem emitBigger_emits (five : ins.bytes.length ≠ 5) (encoded : Encoded ins)
  (added : emitBigger ins ind 0 = .ok result) :
  ∃ stub, Emits ins ind.addr stub ∧ result = ind.extend stub := by
  have shape : ins.shape = if occursIn "rip" ins.opStr then .ripRelative
      else if ins.loadsRsp then .loadRsp else .plain := by
    simp [Ins.shape, five]
  unfold emitBigger at added
  split at added
  · rename_i rip
    rw [if_pos rip] at shape
    exact addIndBytesBiggerRip_emits shape rip encoded added
  rename_i noRip
  split at added
  · rename_i loads
    obtain ⟨near, rfl⟩ := SectionInd.addInsBytes_back added
    rw [if_neg noRip, if_pos loads] at shape
    exact ⟨_, .back (.inr shape) near, SectionInd.extend_extend⟩
  rename_i plain
  cases added
  rw [if_neg noRip, if_neg plain] at shape
  exact ⟨_, .plain shape, SectionInd.extend_extend⟩

theorem addBigger_emitBigger (added : addBigger uk ins s optimizedSuit = .ok result) :
  emitBigger ins s.sectionInd optimizedSuit = .ok result := by
  unfold addBigger at added
  unfold emitBigger
  split at added
  · rename_i rip
    rw [if_pos rip]
    dsimp only at added
    split at added
    · obtain ⟨_, _, added⟩ := ok_of_bind added
      exact added
    · exact added
  rename_i noRip
  rw [if_neg noRip]
  exact added

def emissionOf (ins : Ins) (s : TextSection) (used : List Char) : Except PyError SectionInd :=
  if ins.bytes.length = 5 then
    s.sectionInd.addIndBytes (ofHex (used.drop 2)) ins.address ins.bytes 0
  else emitBigger ins s.sectionInd 0

theorem emissionOf_emits (found : usedAddr ins = some used) (encoded : Encoded ins)
  (added : emissionOf ins s used = .ok result) :
  ∃ stub, Emits ins s.sectionInd.addr stub ∧ result = s.sectionInd.extend stub := by
  have operand : ins.operand = (ofHex (used.drop 2) : Nat) := by simp [Ins.operand, found]
  unfold emissionOf at added
  split at added
  · rename_i five
    exact addIndBytes_emits five operand added
  rename_i five
  exact emitBigger_emits five encoded added

theorem emission_emits (found : usedAddr ins = some used) (encoded : Encoded ins)
  (added : emission uk ins s used = .ok result) :
  ∃ stub, Emits ins s.sectionInd.addr stub ∧ result = s.sectionInd.extend stub := by
  refine emissionOf_emits found encoded ?_
  unfold emission at added
  unfold emissionOf
  split at added
  · rename_i five
    rw [if_pos five]
    exact added
  rename_i five
  rw [if_neg five]
  exact addBigger_emitBigger added

theorem target_cases (chosen : target s ins add = .ok (result, addr)) :
  (s.dataTarget.get? ins.text = none ∧ addr = s.sectionInd.addr ∧ ∃ ind, add = .ok ind ∧
      result = { s with sectionInd := ind, dataTarget := s.dataTarget.set ins.text (1, addr) }) ∨
    ∃ uses, s.dataTarget.get? ins.text = some (uses, addr) ∧
      result = { s with dataTarget := s.dataTarget.set ins.text (uses + 1, addr) } := by
  unfold target at chosen
  split at chosen
  · rename_i fresh
    obtain ⟨ind, added, finished⟩ := ok_of_bind chosen
    cases finished
    exact .inl ⟨fresh, rfl, ind, added, rfl⟩
  rename_i uses known recorded
  cases chosen
  exact .inr ⟨uses, recorded, rfl⟩

theorem processInstruction_cases (ran : processInstruction uk ins s used 0 = .ok (result, answer)) :
  ∃ wanted, redirected uk ins s.sect used = .ok wanted ∧ ((wanted = true ∧ 5 ≤ ins.bytes.length) ∧
      (∃ addr, target s ins (emission uk ins s used) = .ok (result, addr) ∧
        Near ins.address addr ∧ answer = some (ins.site addr)) ∨
    ¬(wanted = true ∧ 5 ≤ ins.bytes.length) ∧ result = s ∧ answer = none) := by
  obtain ⟨wanted, decided, ran⟩ := ok_of_bind ran
  refine ⟨wanted, decided, ?_⟩
  cases wanted with
  | false =>
    cases ran
    exact .inr ⟨by simp, rfl, rfl⟩
  | true =>
    simp only [Bool.not_true, Bool.false_eq_true, ↓reduceIte, Nat.lt_irrefl, Int.sub_zero] at ran
    split at ran
    · rename_i five
      obtain ⟨⟨middle, addr⟩, chosen, ran⟩ := ok_of_bind ran
      obtain ⟨diff, written, finished⟩ := ok_of_bind ran
      obtain ⟨fits, rfl⟩ := toSignedBytes_eq_ok written
      cases finished
      refine .inl ⟨⟨rfl, by omega⟩, addr, by simpa [emission, five] using chosen, fits, ?_⟩
      by_cases push : ins.mnemonic = "push" <;> simp [Ins.site, five, push, jump]
    rename_i five
    split at ran
    · rename_i bigger
      obtain ⟨⟨middle, addr⟩, chosen, ran⟩ := ok_of_bind ran
      obtain ⟨diff, written, finished⟩ := ok_of_bind ran
      obtain ⟨fits, rfl⟩ := toSignedBytes_eq_ok written
      cases finished
      refine .inl ⟨⟨rfl, by omega⟩, addr, by simpa [emission, five] using chosen, fits, ?_⟩
      by_cases loads : ins.loadsRsp = true <;> simp [Ins.site, five, loads, jump]
    cases ran
    exact .inr ⟨by omega, rfl, rfl⟩

theorem processInstruction_some (ran : processInstruction uk ins s used 0 = .ok (result, some bytes)) :
  5 ≤ ins.bytes.length ∧ ∃ addr, target s ins (emission uk ins s used) = .ok (result, addr) ∧
    Near ins.address addr ∧ bytes = ins.site addr := by
  obtain ⟨_, _, ⟨⟨_, long⟩, addr, chosen, near, site⟩ | ⟨_, _, none⟩⟩ :=
    processInstruction_cases ran
  · exact ⟨long, addr, chosen, near, Option.some.inj site⟩
  · cases none

theorem processInstruction_none (ran : processInstruction uk ins s used 0 = .ok (result, none)) :
  result = s := by
  obtain ⟨_, _, ⟨_, _, _, _, some⟩ | ⟨_, same, _⟩⟩ := processInstruction_cases ran
  · cases some
  · exact same

def processAll (uk : Unikernel) : TextSection → List Ins → Except PyError TextSection
  | s, [] => .ok s
  | s, ins :: rest => do
    let (s, _) ← rewriteIns uk s ins
    processAll uk s rest

def TextSection.fresh (sect : Section) (start : Int) : TextSection :=
  ⟨sect, SectionInd.new start, Dict.empty⟩

theorem rewriteIns_cases (ran : rewriteIns uk s ins = .ok (result, out)) :
  result = s ∨ ∃ used bytes, usedAddr ins = some used ∧
    processInstruction uk ins s used 0 = .ok (result, some bytes) := by
  unfold rewriteIns at ran
  split at ran
  · rename_i used found
    split at ran
    · cases ran
      exact .inl rfl
    obtain ⟨⟨middle, answer⟩, processed, finished⟩ := ok_of_bind ran
    cases finished
    cases answer with
    | none => exact .inl (processInstruction_none processed)
    | some bytes => exact .inr ⟨used, bytes, found, processed⟩
  · split at ran <;> cases ran <;> exact .inl rfl

def Holding (ind : SectionInd) (ins : Ins) (addr : Int) : Prop :=
  ∃ front stub back, ind.bt = front ++ stub ++ back ∧ addr = ind.startAddr + front.length ∧
    Emits ins addr stub

theorem Holding.extend (holding : Holding ind ins addr) (more : List UInt8) :
  Holding (ind.extend more) ins addr := by
  obtain ⟨front, stub, back, bytes, position, emits⟩ := holding
  exact ⟨front, stub, back ++ more, by simp [SectionInd.extend, bytes], position, emits⟩

structure Table (done : List Ins) (s : TextSection) : Prop where
  placed : s.sectionInd.addr = s.sectionInd.startAddr + s.sectionInd.bt.length
  stubs : ∀ text uses addr, s.dataTarget.get? text = some (uses, addr) →
    ∃ ins ∈ done, ins.text = text ∧ Holding s.sectionInd ins addr

theorem table_fresh (sect : Section) (start : Int) : Table [] (.fresh sect start) where
  placed := by simp [TextSection.fresh, SectionInd.new]
  stubs := by
    intro text uses addr recorded
    simp [TextSection.fresh] at recorded

variable (table : Table done s)
include table

theorem Table.mono (more : List Ins) : Table (done ++ more) s where
  placed := table.placed
  stubs := by
    intro text uses addr recorded
    obtain ⟨ins, member, same, holding⟩ := table.stubs text uses addr recorded
    exact ⟨ins, mem_append_left _ member, same, holding⟩

theorem target_table (emitted : ∀ ind, add = .ok ind →
    ∃ stub, Emits ins s.sectionInd.addr stub ∧ ind = s.sectionInd.extend stub)
  (chosen : target s ins add = .ok (result, addr)) :
  Table (done ++ [ins]) result ∧ (∃ more, result.sectionInd = s.sectionInd.extend more) ∧
    ∃ first ∈ done ++ [ins], first.text = ins.text ∧ (s.dataTarget.get? ins.text = none → first = ins) ∧
      Holding result.sectionInd first addr := by
  rcases target_cases chosen with ⟨_, rfl, ind, added, rfl⟩ | ⟨uses, recorded, rfl⟩
  · obtain ⟨stub, emits, rfl⟩ := emitted ind added
    have holding : Holding (s.sectionInd.extend stub) ins s.sectionInd.addr :=
      ⟨s.sectionInd.bt, stub, [], by simp [SectionInd.extend], table.placed, emits⟩
    refine ⟨⟨?_, ?_⟩, ⟨stub, rfl⟩, ins, by simp, rfl, fun _ => rfl, holding⟩
    · simp only [SectionInd.extend, length_append, table.placed]
      push_cast
      omega
    intro text uses addr recorded
    rw [Dict.get?_set] at recorded
    split at recorded
    · rename_i same
      cases recorded
      exact ⟨ins, by simp, same.symm, holding⟩
    obtain ⟨old, member, same, held⟩ := table.stubs text uses addr recorded
    exact ⟨old, mem_append_left _ member, same, held.extend stub⟩
  obtain ⟨first, member, same, holding⟩ := table.stubs _ uses addr recorded
  have seen : first ∈ done ++ [ins] := mem_append_left _ member
  refine ⟨⟨table.placed, ?_⟩, ⟨[], by simp [SectionInd.extend]⟩, first, seen, same,
    fun fresh => by simp [fresh] at recorded, holding⟩
  intro text count other known
  rw [Dict.get?_set] at known
  split at known
  · rename_i equal
    cases known
    exact ⟨first, seen, same.trans equal.symm, holding⟩
  · exact (table.mono [ins]).stubs text count other known

theorem processInstruction_table (found : usedAddr ins = some used)
  (encoded : Encoded ins) (ran : processInstruction uk ins s used 0 = .ok (result, some bytes)) :
  Table (done ++ [ins]) result ∧ (∃ more, result.sectionInd = s.sectionInd.extend more) ∧
    ∃ first ∈ done ++ [ins], first.text = ins.text ∧ (s.dataTarget.get? ins.text = none → first = ins) ∧
      ∃ addr, Holding result.sectionInd first addr ∧ Near ins.address addr ∧ bytes = ins.site addr := by
  obtain ⟨_, addr, chosen, near, rfl⟩ := processInstruction_some ran
  obtain ⟨next, grown, first, member, same, fresh, holding⟩ :=
    target_table table (fun _ added => emission_emits found encoded added) chosen
  exact ⟨next, grown, first, member, same, fresh, addr, holding, near, rfl⟩

theorem rewriteIns_table (encoded : Encoded ins) (ran : rewriteIns uk s ins = .ok (result, out)) :
  Table (done ++ [ins]) result ∧ ∃ more, result.sectionInd = s.sectionInd.extend more := by
  rcases rewriteIns_cases ran with rfl | ⟨used, bytes, found, processed⟩
  · exact ⟨table.mono [ins], [], by simp [SectionInd.extend]⟩
  obtain ⟨next, grown, _⟩ := processInstruction_table table found encoded processed
  exact ⟨next, grown⟩

theorem processAll_table (encoded : ∀ ins ∈ inss, Encoded ins) (ran : processAll uk s inss = .ok result) :
  Table (done ++ inss) result ∧ ∃ more, result.sectionInd = s.sectionInd.extend more := by
  induction inss generalizing s done with
  | nil =>
    cases ran
    exact ⟨by simpa using table, [], by simp [SectionInd.extend]⟩
  | cons ins rest ih =>
    obtain ⟨⟨middle, out⟩, first, ran⟩ := ok_of_bind ran
    obtain ⟨next, more, grown⟩ := rewriteIns_table table (encoded ins (by simp)) first
    obtain ⟨final, later, extended⟩ :=
      ih next (fun other member => encoded other (by simp [member])) ran
    refine ⟨by simpa using final, more ++ later, ?_⟩
    rw [extended, grown, SectionInd.extend_extend]

omit table

end Spacer.Rewriter
