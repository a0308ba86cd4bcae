import Spacer.Aligner.Core
import Spacer.Lib.Runs
import Spacer.Rewriter.Stubs

/-!
Sequences of calls of `process_instruction` on one text section: which stub each
replacement leads to, and for which instruction that stub was emitted.

The function stands in `binary_rewriter_version.py` and, as `process_instructions`, in
`binary_rewriter_new.py`.  The two differ in `PAGE_SIZE`, which only the second binds.
-/

namespace Spacer.Rewriter

open Lib List

def inDataSections (pageSize : Option Nat) (uk : Unikernel) (sect : Section) (ins : Ins) :
  List String → Except PyError Bool
  | [] => .ok false
  | tt :: rest =>
    match uk.dictSections (replaceText sect.name ".text" tt) with
    | none => inDataSections pageSize uk sect ins rest
    | some ttSect => do
      let offsetRip ← extractOffsetRip ins
      if (ttSect.virtualAddress : Int) ≤ offsetRip then
        match pageSize with
        | none => .error .nameError
        | some size =>
          if offsetRip < Aligner.roundToN ttSect.endAddress size then .ok true
          else inDataSections pageSize uk sect ins rest
      else inDataSections pageSize uk sect ins rest

variable (pageSize : Option Nat) (uk : Unikernel)

def inOwnData (sect : Section) (ins : Ins) : Except PyError Bool :=
  if occursIn "rip" ins.opStr && !ins.storesRip then
    inDataSections pageSize uk sect ins [".rodata", ".data.bss"]
  else .ok false

variable (ins : Ins)

def siteBigger (addr : Int) (optimizedSuit : Nat) : Except PyError (List UInt8) := do
  let diff ← toSignedBytes (addr - ins.address - 5 - if 0 < optimizedSuit then 1 else 0)
  return (if ins.loadsRsp then 0xe9 else 0xe8) :: diff ++ List.replicate (ins.bytes.length - 5) 0x90

/-- A new text is recorded before the data sections are looked at. -/
def processBigger (s : TextSection)
  (optimizedSuit : Nat) : Except PyError (TextSection × Option (List UInt8)) :=
  match s.dataTarget.get? ins.text with
  | none => do
    let addr := s.sectionInd.addr
    let s := { s with dataTarget := s.dataTarget.set ins.text (1, addr) }
    if ← inOwnData pageSize uk s.sect ins then return (s, none)
    let ind ← emitBigger ins s.sectionInd optimizedSuit
    return ({ s with sectionInd := ind }, some (← siteBigger ins addr optimizedSuit))
  | some (uses, addr) => do
    let s := { s with dataTarget := s.dataTarget.set ins.text (uses + 1, addr) }
    return (s, some (← siteBigger ins addr optimizedSuit))

def processInstructions (s : TextSection) (usedAddr : List Char) (optimizedSuit : Nat) :
  Except PyError (TextSection × Option (List UInt8)) := do
  let addrInt := ofHex (usedAddr.drop 2)
  if !(← redirected uk ins s.sect usedAddr) then return (s, none)
  if ins.bytes.length = 5 then
    let (s, addr) ← target s ins (s.sectionInd.addIndBytes addrInt ins.address ins.bytes optimizedSuit)
    let diff ← toSignedBytes (addr - ins.address - 5)
    return (s, some ((if ins.mnemonic = "push" then 0xe9 else 0xe8) :: diff))
  else if 5 < ins.bytes.length then processBigger pageSize uk ins s optimizedSuit
  else return (s, none)

/-! Without a page size this is the function of `binary_rewriter_version.py`. -/

theorem inDataSections_unbound (ins : Ins) : inDataSections none uk sect ins kinds = (kinds.forM fun tt =>
      match uk.dictSections (replaceText sect.name ".text" tt) with
      | none => .ok ()
      | some ttSect => do
        let offsetRip ← extractOffsetRip ins
        if (ttSect.virtualAddress : Int) ≤ offsetRip then .error .nameError else .ok ()) >>=
      fun _ => .ok false := by
  induction kinds with
  | nil => rfl
  | cons tt rest ih =>
    rw [inDataSections, List.forM]
    cases uk.dictSections (replaceText sect.name ".text" tt) with
    | none => exact ih
    | some ttSect =>
      cases offset : extractOffsetRip ins with
      | error _ => rfl
      | ok offsetRip =>
        by_cases above : (ttSect.virtualAddress : Int) ≤ offsetRip
        · simp [above, bind, Except.bind]
        · simpa [above, bind, Except.bind, offset] using ih

theorem inOwnData_unbound :
  (inOwnData none uk s.sect ins >>= fun _ => emitBigger ins s.sectionInd optimizedSuit) =
    addBigger uk ins s optimizedSuit := by
  unfold inOwnData addBigger emitBigger
  by_cases rip : occursIn "rip" ins.opStr = true
  · by_cases stores : ins.storesRip = true
    · simp [rip, stores, bind, Except.bind]
    simp only [rip, stores, inDataSections_unbound, Bool.not_false, Bool.and_true, ↓reduceIte, bind_assoc]
    rfl
  · simp [rip, bind, Except.bind, pure, Except.pure]

variable {uk} {ins}

theorem inOwnData_unbound_false (looked : inOwnData none uk sect ins = .ok inside) : inside = false := by
  unfold inOwnData at looked
  split at looked
  · rw [inDataSections_unbound] at looked
    obtain ⟨_, _, finished⟩ := ok_of_bind looked
    cases finished
    rfl
  cases looked
  rfl

variable (uk)

theorem processBigger_unbound (ins : Ins) : processBigger none uk ins s optimizedSuit = do
    let (s, addr) ← target s ins (addBigger uk ins s optimizedSuit)
    return (s, some (← siteBigger ins addr optimizedSuit)) := by
  unfold processBigger target
  cases s.dataTarget.get? ins.text with
  | some entry => rfl
  | none =>
    rw [← inOwnData_unbound]
    cases looked : inOwnData none uk s.sect ins with
    | error _ => simp [looked, bind, Except.bind]
    | ok inside =>
      cases inOwnData_unbound_false looked
      simp only [looked, bind, Except.bind]
      cases emitBigger ins s.sectionInd optimizedSuit <;> rfl

theorem processInstructions_unbound (ins : Ins) : processInstructions none uk ins s used optimizedSuit =
    processInstruction uk ins s used optimizedSuit := by
  unfold processInstructions processInstruction
  simp only [processBigger_unbound, siteBigger, bind_assoc, pure_bind]

structure Call where
  ins : Ins
  optimizedSuit : Nat

structure Progress where
  s : TextSection
  replaced : List (Ins × List UInt8)

/-- A call with the address that `disassemble` finds in the operands; an exception ends
the rewriting. -/
def Progress.call (pageSize : Option Nat) (uk : Unikernel) (state : Progress) (call : Call) :
  Option Progress :=
  match usedAddr call.ins with
  | none => none
  | some used =>
    match processInstructions pageSize uk call.ins state.s used call.optimizedSuit with
    | .error _ => none
    | .ok (s, none) => some ⟨s, state.replaced⟩
    | .ok (s, some bytes) => some ⟨s, state.replaced ++ [(call.ins, bytes)]⟩

def Progress.start (sect : Section) (start : Int) : Progress := ⟨.fresh sect start, []⟩

/-- What Capstone is trusted with: a RIP displacement stands in the bytes of its
instruction, and a mnemonic does not run into the operands. -/
structure Disassembly (inss : List Ins) : Prop where
  encoded : ∀ ins ∈ inss, Encoded ins
  split : ∀ left ∈ inss, ∀ right ∈ inss, left.text = right.text → left.mnemonic = right.mnemonic

def Ins.denotes (ins : Ins) : Option Int :=
  if occursIn "rip" ins.opStr then
    (ripDisplacement ins.opStr.toList).map fun displacement =>
      ins.address + ins.bytes.length + displacement
  else (usedAddr ins).map fun used => (ofHex (used.drop 2) : Int)

def SameOperation (left right : Ins) : Prop :=
  left.text = right.text ∧ left.denotes = right.denotes

def LeadsTo (ins : Ins) (bytes : List UInt8) (addr : Int) : Prop :=
  Near ins.address addr ∧ ∃ op padding, bytes = jump op ins.address addr ++ padding

structure SoundSharing (start : Int) (state : Progress) : Prop where
  lands : ∀ ins bytes, (ins, bytes) ∈ state.replaced → ∃ addr, LeadsTo ins bytes addr ∧
    start ≤ addr ∧ addr < start + state.s.sectionInd.bt.length ∧
    ∃ first ∈ state.replaced.map Prod.fst, Holding state.s.sectionInd first addr ∧ SameOperation first ins
  shared : ∀ left leftBytes right rightBytes addr, (left, leftBytes) ∈ state.replaced →
    (right, rightBytes) ∈ state.replaced → LeadsTo left leftBytes addr →
    LeadsTo right rightBytes addr → SameOperation left right
  recorded : ∀ text uses addr, state.s.dataTarget.get? text = some (uses, addr) →
    ∃ ins ∈ state.replaced.map Prod.fst, ins.text = text ∧ Holding state.s.sectionInd ins addr

def Redirects (sect : Section) (ins : Ins) : Prop :=
  5 ≤ ins.bytes.length ∧ (usedAddr ins).map (redirected uk ins sect) = some (.ok true)

variable {uk}

instance (uk : Unikernel) (sect : Section) (ins : Ins) : Decidable (Redirects uk sect ins) :=
  inferInstanceAs (Decidable (_ ∧ _))

/-- The calls that keep the table sound: nothing is cut off the buffer, a RIP-relative text
replaced before stood in front of the same address, and a new text does not point into the
data sections of its own library. -/
def CallOk (uk : Unikernel) (state : Progress) (call : Call) : Prop :=
  Redirects uk state.s.sect call.ins → call.optimizedSuit = 0 ∧
    (occursIn "rip" call.ins.opStr = true → ∀ earlier ∈ state.replaced.map Prod.fst,
      earlier.text = call.ins.text →
      earlier.address + earlier.bytes.length = call.ins.address + call.ins.bytes.length) ∧
    (state.s.dataTarget.get? call.ins.text = none → 5 < call.ins.bytes.length →
      inOwnData pageSize uk state.s.sect call.ins ≠ .ok true)

variable {pageSize}

instance (pageSize : Option Nat) (uk : Unikernel) (state : Progress) (call : Call) :
  Decidable (CallOk pageSize uk state call) :=
  inferInstanceAs (Decidable (_ → _ ∧ _ ∧ _))

theorem LeadsTo.unique (left : LeadsTo ins bytes first) (right : LeadsTo ins bytes second) :
  first = second := by
  obtain ⟨leftNear, leftOp, leftPadding, rfl⟩ := left
  obtain ⟨rightNear, rightOp, rightPadding, same⟩ := right
  simp only [jump, cons_append, List.cons.injEq] at same
  have fields := append_inj_left same.2 (by simp)
  have offsets := signedBytes_injective leftNear rightNear fields
  omega

theorem leadsTo_site (near : Near ins.address addr) : LeadsTo ins (ins.site addr) addr :=
  ⟨near, _, _, rfl⟩

theorem Emits.nonempty (emits : Emits ins addr stub) : stub ≠ [] := by cases emits <;> simp [jump]

theorem Holding.within (holding : Holding ind ins addr) :
  ind.startAddr ≤ addr ∧ addr < ind.startAddr + ind.bt.length := by
  obtain ⟨front, stub, back, bytes, position, emits⟩ := holding
  have positive := length_pos_iff.mpr emits.nonempty
  rw [bytes, position]
  simp only [length_append]
  omega

theorem denotes_eq {left right : Ins} (same : left.text = right.text)
  (mnemonic : left.mnemonic = right.mnemonic)
  (next : occursIn "rip" right.opStr = true →
    left.address + left.bytes.length = right.address + right.bytes.length) :
  left.denotes = right.denotes := by
  have operands : left.opStr = right.opStr := by simpa [Ins.text, mnemonic] using same
  unfold Ins.denotes usedAddr
  rw [operands]
  split
  · rename_i rip
    have moved : (left.address : Int) + left.bytes.length = right.address + right.bytes.length := by
      have equal := next rip
      omega
    rw [moved]
  · rfl

inductive Processed (uk : Unikernel) (ins : Ins) (s : TextSection) (used : List Char) :
  TextSection → Option (List UInt8) → Prop
  | untouched : Processed uk ins s used s none
  | replaced {result : TextSection} {addr : Int} (long : 5 ≤ ins.bytes.length)
      (tested : redirected uk ins s.sect used = .ok true)
      (chosen : target s ins (emissionOf ins s used) = .ok (result, addr))
      (near : Near ins.address addr) : Processed uk ins s used result (some (ins.site addr))

theorem siteBigger_eq_ok (bigger : ins.bytes.length ≠ 5) (built : siteBigger ins addr 0 = .ok bytes) :
  Near ins.address addr ∧ bytes = ins.site addr := by
  obtain ⟨diff, written, finished⟩ := ok_of_bind built
  simp only [Nat.lt_irrefl, ↓reduceIte, Int.sub_zero] at written
  obtain ⟨fits, rfl⟩ := toSignedBytes_eq_ok written
  cases finished
  refine ⟨fits, ?_⟩
  by_cases loads : ins.loadsRsp = true <;> simp [Ins.site, bigger, loads, jump]

theorem processBigger_processed (bigger : 5 < ins.bytes.length)
  (tested : redirected uk ins s.sect used = .ok true)
  (apart : s.dataTarget.get? ins.text = none → inOwnData pageSize uk s.sect ins ≠ .ok true)
  (ran : processBigger pageSize uk ins s 0 = .ok (result, out)) : Processed uk ins s used result out := by
  have other : ins.bytes.length ≠ 5 := by omega
  unfold processBigger at ran
  split at ran
  · rename_i fresh
    obtain ⟨inside, looked, ran⟩ := ok_of_bind ran
    cases inside with
    | true => exact absurd looked (apart fresh)
    | false =>
      obtain ⟨ind, added, ran⟩ := ok_of_bind ran
      obtain ⟨bytes, built, finished⟩ := ok_of_bind ran
      obtain ⟨near, rfl⟩ := siteBigger_eq_ok other built
      cases finished
      refine .replaced (by omega) tested ?_ near
      simp [target, fresh, emissionOf, other, added, bind, Except.bind, pure, Except.pure]
  rename_i uses addr known
  obtain ⟨bytes, built, finished⟩ := ok_of_bind ran
  obtain ⟨near, rfl⟩ := siteBigger_eq_ok other built
  cases finished
  refine .replaced (by omega) tested ?_ near
  simp [target, known, pure, Except.pure]

theorem processInstructions_processed
  (fits : 5 ≤ ins.bytes.length → redirected uk ins s.sect used = .ok true →
    optimizedSuit = 0 ∧ (s.dataTarget.get? ins.text = none → 5 < ins.bytes.length →
      inOwnData pageSize uk s.sect ins ≠ .ok true))
  (ran : processInstructions pageSize uk ins s used optimizedSuit = .ok (result, out)) :
  Processed uk ins s used result out := by
  obtain ⟨wanted, tested, ran⟩ := ok_of_bind ran
  cases wanted with
  | false =>
    cases ran
    exact .untouched
  | true =>
    simp only [Bool.not_true, Bool.false_eq_true, ↓reduceIte] at ran
    split at ran
    · rename_i five
      obtain ⟨rfl, _⟩ := fits (by omega) tested
      obtain ⟨⟨middle, addr⟩, chosen, ran⟩ := ok_of_bind ran
      obtain ⟨diff, written, finished⟩ := ok_of_bind ran
      obtain ⟨fits, rfl⟩ := toSignedBytes_eq_ok written
      cases finished
      have site : ins.site addr = (if ins.mnemonic = "push" then 0xe9 else 0xe8) ::
          signedBytes (addr - ins.address - 5) := by
        by_cases push : ins.mnemonic = "push" <;> simp [Ins.site, five, push, jump]
      rw [← site]
      exact .replaced (by omega) tested (by simpa [emissionOf, five] using chosen) fits
    split at ran
    · rename_i bigger
      obtain ⟨rfl, apart⟩ := fits (by omega) tested
      exact processBigger_processed bigger tested (fun fresh => apart fresh bigger) ran
    cases ran
    exact .untouched

/-- The invariant of the calls that meet the condition: the table is right, no two texts
share an address, every replacement leads to the address of its text, and replaced
instructions with one text have the same operands. -/
structure Consistent (inss : List Ins) (start : Int) (state : Progress) : Prop where
  placed : state.s.sectionInd.startAddr = start
  table : Table (state.replaced.map Prod.fst) state.s
  distinct : ∀ first second uses count addr, state.s.dataTarget.get? first = some (uses, addr) →
    state.s.dataTarget.get? second = some (count, addr) → first = second
  leads : ∀ ins bytes, (ins, bytes) ∈ state.replaced → ∃ uses addr,
    state.s.dataTarget.get? ins.text = some (uses, addr) ∧ LeadsTo ins bytes addr
  members : ∀ ins ∈ state.replaced.map Prod.fst, ins ∈ inss
  operands : ∀ left ∈ state.replaced.map Prod.fst, ∀ right ∈ state.replaced.map Prod.fst,
    left.text = right.text → left.denotes = right.denotes

section

theorem consistent_start (sect : Section) : Consistent inss start (.start sect start) where
  placed := rfl
  table := table_fresh sect start
  distinct := by
    intro first second uses count addr recorded
    simp [Progress.start, TextSection.fresh] at recorded
  leads := by simp [Progress.start]
  members := by simp [Progress.start]
  operands := by simp [Progress.start]

variable (consistent : Consistent inss start state)
include consistent

theorem Consistent.sound : SoundSharing start state where
  lands := by
    intro ins bytes member
    obtain ⟨uses, addr, recorded, leads⟩ := consistent.leads ins bytes member
    obtain ⟨first, seen, same, holding⟩ := consistent.table.stubs _ _ _ recorded
    have within := holding.within
    rw [consistent.placed] at within
    have present : ins ∈ state.replaced.map Prod.fst := mem_map.mpr ⟨_, member, rfl⟩
    exact ⟨addr, leads, within.1, within.2, first, seen, holding, same,
      consistent.operands first seen ins present same⟩
  shared := by
    intro left leftBytes right rightBytes addr leftMember rightMember leftLeads rightLeads
    obtain ⟨uses, leftAddr, leftRecorded, leftKnown⟩ := consistent.leads _ _ leftMember
    obtain ⟨count, rightAddr, rightRecorded, rightKnown⟩ := consistent.leads _ _ rightMember
    cases leftKnown.unique leftLeads
    cases rightKnown.unique rightLeads
    have same := consistent.distinct _ _ _ _ _ leftRecorded rightRecorded
    exact ⟨same, consistent.operands left (mem_map.mpr ⟨_, leftMember, rfl⟩) right
      (mem_map.mpr ⟨_, rightMember, rfl⟩) same⟩
  recorded := consistent.table.stubs

theorem Consistent.address_new : state.s.dataTarget.get? text ≠ some (uses, state.s.sectionInd.addr) := by
  intro recorded
  obtain ⟨_, _, _, holding⟩ := consistent.table.stubs _ _ _ recorded
  have within := holding.within
  have placed := consistent.table.placed
  omega

theorem Consistent.recorded (chosen : target state.s ins add = .ok (result, addr)) :
  ∃ uses, result.dataTarget = state.s.dataTarget.set ins.text (uses, addr) ∧
    ∀ text count known, state.s.dataTarget.get? text = some (count, known) →
      (text = ins.text ↔ known = addr) := by
  rcases target_cases chosen with ⟨fresh, rfl, ind, _, rfl⟩ | ⟨uses, present, rfl⟩
  · refine ⟨1, rfl, fun text count known recorded => ⟨?_, ?_⟩⟩
    · rintro rfl
      simp [fresh] at recorded
    rintro rfl
    exact absurd recorded consistent.address_new
  refine ⟨uses + 1, rfl, fun text count known recorded => ⟨?_, ?_⟩⟩
  · rintro rfl
    cases recorded.symm.trans present
    rfl
  rintro rfl
  exact consistent.distinct _ _ _ _ _ recorded present

theorem Consistent.replace (disassembly : Disassembly inss) {ins : Ins} (member : ins ∈ inss)
  (found : usedAddr ins = some used)
  (next : occursIn "rip" ins.opStr = true → ∀ earlier ∈ state.replaced.map Prod.fst,
    earlier.text = ins.text →
    earlier.address + earlier.bytes.length = ins.address + ins.bytes.length)
  (chosen : target state.s ins (emissionOf ins state.s used) = .ok (result, addr))
  (near : Near ins.address addr) :
  Consistent inss start ⟨result, state.replaced ++ [(ins, ins.site addr)]⟩ := by
  obtain ⟨table, ⟨more, grown⟩, _⟩ := target_table consistent.table
    (fun _ added => emissionOf_emits found (disassembly.encoded ins member) added) chosen
  obtain ⟨uses, entries, only⟩ := consistent.recorded chosen
  have alike : ∀ earlier ∈ state.replaced.map Prod.fst, earlier.text = ins.text →
      earlier.denotes = ins.denotes := by
    intro earlier seen same
    exact denotes_eq same (disassembly.split _ (consistent.members _ seen) _ member same)
      (fun rip => next rip earlier seen same)
  refine ⟨?_, by simpa using table, ?_, ?_, ?_, ?_⟩
  · rw [grown]
    exact consistent.placed
  · intro first second uses count addr left right
    simp only [entries, Dict.get?_set] at left right
    split at left <;> split at right
    · rename_i first second
      rw [first, second]
    · rename_i first _
      cases left
      rw [first, (only _ _ _ right).mpr rfl]
    · rename_i second
      cases right
      rw [second, (only _ _ _ left).mpr rfl]
    · exact consistent.distinct _ _ _ _ _ left right
  · intro other bytes replaced
    rw [mem_append, mem_singleton] at replaced
    simp only [entries, Dict.get?_set]
    rcases replaced with old | new
    · obtain ⟨count, known, recorded, leads⟩ := consistent.leads other bytes old
      split
      · rename_i same
        cases (only _ _ _ recorded).mp same
        exact ⟨uses, addr, rfl, leads⟩
      · exact ⟨count, known, recorded, leads⟩
    cases new
    exact ⟨uses, addr, by simp, leadsTo_site near⟩
  · intro other replaced
    simp only [map_append, map_cons, map_nil, mem_append, mem_singleton] at replaced
    rcases replaced with old | rfl
    · exact consistent.members other old
    · exact member
  intro left leftSeen right rightSeen same
  simp only [map_append, map_cons, map_nil, mem_append, mem_singleton] at leftSeen rightSeen
  rcases leftSeen with leftOld | rfl <;> rcases rightSeen with rightOld | rfl
  · exact consistent.operands left leftOld right rightOld same
  · exact alike left leftOld same
  · exact (alike right rightOld same.symm).symm
  · rfl

theorem Consistent.call (disassembly : Disassembly inss)
  {call : Call} (member : call.ins ∈ inss) (fits : CallOk pageSize uk state call)
  (taken : state.call pageSize uk call = some later) : Consistent inss start later := by
  unfold Progress.call at taken
  cases found : usedAddr call.ins with
  | none => simp [found] at taken
  | some used =>
    rw [found] at taken
    dsimp only at taken
    have ok (long : 5 ≤ call.ins.bytes.length)
        (tested : redirected uk call.ins state.s.sect used = .ok true) :=
      fits ⟨long, by rw [found, Option.map_some, tested]⟩
    cases ran : processInstructions pageSize uk call.ins state.s used call.optimizedSuit with
    | error _ => simp [ran] at taken
    | ok answer =>
      obtain ⟨result, out⟩ := answer
      rw [ran] at taken
      cases processInstructions_processed
        (fun long tested => ⟨(ok long tested).1, (ok long tested).2.2⟩) ran with
      | untouched =>
        cases taken
        exact consistent
      | replaced long tested chosen near =>
        cases taken
        exact consistent.replace disassembly member found (ok long tested).2.1 chosen near

omit consistent

end

/-! A library with two calls of one function of another library, and with two loads of one
text that read different words of it. -/

def loaderSection : Section := ⟨".text.libnolibc", 0x100000, 0x101000⟩

def loaderUnikernel : Unikernel := ⟨[loaderSection, ⟨".text.libukalloc", 0x200000, 0x202000⟩]⟩

def callAt (address : Nat) (field : List UInt8) : Ins :=
  ⟨address, "call", "0x201234", 0xe8 :: field⟩

def loadAt (address : Nat) : Ins :=
  ⟨address, "mov", "rax, qword ptr [rip + 0x101000]", [0x48, 0x8b, 0x05, 0x00, 0x10, 0x10, 0x00]⟩

def loaderCode : List Ins :=
  [callAt 0x100010 [0x1f, 0x12, 0x10, 0x00], callAt 0x100020 [0x0f, 0x12, 0x10, 0x00],
    loadAt 0x100030, loadAt 0x100040]

theorem loaderCode_disassembly : Disassembly loaderCode where
  encoded := by
    intro ins member rip displacement found
    simp only [loaderCode, mem_cons, not_mem_nil, or_false] at member
    have load : ripDisplacement (loadAt 0).opStr.toList = some 0x101000 := by decide +kernel
    have call : occursIn "rip" (callAt 0 []).opStr = false := by decide +kernel
    rcases member with rfl | rfl | rfl | rfl
    · exact absurd (rip.symm.trans call) (by decide)
    · exact absurd (rip.symm.trans call) (by decide)
    · cases found.symm.trans load
      exact ⟨[0x48, 0x8b, 0x05], [], by decide⟩
    cases found.symm.trans load
    exact ⟨[0x48, 0x8b, 0x05], [], by decide⟩
  split := by decide +kernel

/-- Every sequence of calls that meet the condition, on instructions of one text section. -/
theorem stubs_shared_soundly (pageSize : Option Nat) (uk : Unikernel) (sect : Section) (start : Int)
  (inss : List Ins) (disassembly : Disassembly inss) (state : Progress)
  (reached : Reach (fun state call later => state.call pageSize uk call = some later)
    (fun state call => call.ins ∈ inss ∧ CallOk pageSize uk state call)
    (.start sect start) state) : SoundSharing start state := by
  have consistent : Consistent inss start state :=
    Reach.invariant (fun state call later consistent fits taken =>
        consistent.call disassembly fits.1 fits.2 taken)
      (consistent_start sect) reached
  exact consistent.sound

theorem stubs_shared_soundly_calls : ∃ state,
    Reach (fun state call later => state.call (some 0x1000) loaderUnikernel call = some later)
      (fun state call => call.ins ∈ loaderCode ∧ CallOk (some 0x1000) loaderUnikernel state call)
      (.start loaderSection 0x300000) state ∧
    state.replaced.length = 3 ∧ state.s.dataTarget.keys.length = 2 ∧
    SoundSharing 0x300000 state := by
  obtain ⟨state, reached, size, keys⟩ := @exists_reach_of_play _ _
    (Progress.call (some 0x1000) loaderUnikernel)
    (fun state call => call.ins ∈ loaderCode ∧ CallOk (some 0x1000) loaderUnikernel state call)
    _ (.start loaderSection 0x300000) ((loaderCode.take 3).map (⟨·, 0⟩))
    (fun state => state.replaced.length = 3 ∧ state.s.dataTarget.keys.length = 2)
    (by decide +kernel)
  exact ⟨state, reached, size, keys, stubs_shared_soundly _ _ _ _ _ loaderCode_disassembly _ reached⟩

def ownDataUnikernel : Unikernel :=
  ⟨[loaderSection, ⟨".rodata.libnolibc", 0x200000, 0x202000⟩]⟩

theorem load_near : Near (loadAt 0x100030).address 0x300000 ∧ Near (loadAt 0x100040).address 0x300000 := by
  unfold Near
  decide

/-- The second load is led to the stub of the first, which reads another word; and a load
that is left alone still records its text, so that the next one is led to an empty buffer. -/
theorem loads_share_stub : Disassembly loaderCode ∧ (∀ pageSize ∈ [none, some 0x1000], ∃ state,
    Reach (fun state call later => state.call pageSize loaderUnikernel call = some later)
      (fun _ call => call.ins ∈ loaderCode ∧ call.optimizedSuit = 0)
      (.start loaderSection 0x300000) state ∧
    state.replaced = [(loadAt 0x100030, (loadAt 0x100030).site 0x300000),
      (loadAt 0x100040, (loadAt 0x100040).site 0x300000)] ∧
    ¬SoundSharing 0x300000 state) ∧
  ∃ state, Reach (fun state call later => state.call (some 0x1000) ownDataUnikernel call = some later)
      (fun _ call => call.ins ∈ loaderCode ∧ call.optimizedSuit = 0)
      (.start loaderSection 0x300000) state ∧
    state.replaced = [(loadAt 0x100040, (loadAt 0x100040).site 0x300000)] ∧
    state.s.sectionInd.bt = [] ∧ ¬SoundSharing 0x300000 state := by
  refine ⟨loaderCode_disassembly, ?_, ?_⟩
  · intro pageSize member
    have played : ∃ state ∈ play (Progress.call pageSize loaderUnikernel)
        (fun _ call => call.ins ∈ loaderCode ∧ call.optimizedSuit = 0)
        (.start loaderSection 0x300000) [⟨loadAt 0x100030, 0⟩, ⟨loadAt 0x100040, 0⟩],
        state.replaced = [(loadAt 0x100030, (loadAt 0x100030).site 0x300000),
          (loadAt 0x100040, (loadAt 0x100040).site 0x300000)] := by
      revert pageSize
      decide +kernel
    obtain ⟨state, reached, replaced⟩ := exists_reach_of_play played
    refine ⟨state, reached, replaced, fun sound => ?_⟩
    have same := sound.shared _ _ _ _ 0x300000 (by rw [replaced]; exact mem_cons_self)
      (by rw [replaced]; exact mem_cons_of_mem _ mem_cons_self)
      (leadsTo_site load_near.1) (leadsTo_site load_near.2)
    exact absurd same.2 (by decide +kernel)
  have played : ∃ state ∈ play (Progress.call (some 0x1000) ownDataUnikernel)
      (fun _ call => call.ins ∈ loaderCode ∧ call.optimizedSuit = 0)
      (.start loaderSection 0x300000) [⟨loadAt 0x100030, 0⟩, ⟨loadAt 0x100040, 0⟩],
      state.replaced = [(loadAt 0x100040, (loadAt 0x100040).site 0x300000)] ∧
        state.s.sectionInd.bt = [] := by
    decide +kernel
  obtain ⟨state, reached, replaced, empty⟩ := exists_reach_of_play played
  refine ⟨state, reached, replaced, empty, fun sound => ?_⟩
  obtain ⟨addr, _, lower, upper, _⟩ :=
    sound.lands _ _ (by rw [replaced]; exact mem_cons_self)
  rw [empty] at upper
  simp only [length_nil] at upper
  omega

end Spacer.Rewriter
