import Spacer.Rewriter.Stubs

/-!
Two copies of a text section rewritten side by side.  The copies lie `shift` apart, and so
do their stub tables.
-/

namespace Spacer.Rewriter

open Lib List

def Ins.isMarker (ins : Ins) : Bool := ins.mnemonic = "int1" ∧ ins.bytes.head? = some 0xf1

def untilMarker : List Ins → List Ins
  | [] => []
  | ins :: rest => if ins.isMarker then [ins] else ins :: untilMarker rest

def visitAll (uk : Unikernel) (problematic : Ins → Bool) :
  TextSection → List Ins → Except PyError (TextSection × List UInt8)
  | s, [] => .ok (s, [])
  | s, ins :: rest => do
    let (s, out) ← visitIns uk problematic s ins
    let (s, bt) ← visitAll uk problematic s rest
    return (s, out ++ bt)

theorem disassembleLoop_visitAll (ran : disassembleLoop uk problematic s inss = .ok (result, bt, marker)) :
  visitAll uk problematic s (untilMarker inss) = .ok (result, bt) ∧
    marker = (inss.find? Ins.isMarker).map Ins.address := by
  induction inss generalizing s bt with
  | nil =>
    cases ran
    exact ⟨rfl, rfl⟩
  | cons ins rest ih =>
    obtain ⟨⟨middle, out⟩, first, ran⟩ := ok_of_bind ran
    dsimp only at ran
    by_cases isMarker : ins.mnemonic = "int1" ∧ ins.bytes.head? = some 0xf1
    · have marked : ins.isMarker = true := decide_eq_true isMarker
      rw [if_pos isMarker] at ran
      cases ran
      rw [untilMarker, if_pos marked, visitAll, bind_of_ok first, find?_cons, marked]
      exact ⟨by simp [visitAll, bind, Except.bind, pure, Except.pure], rfl⟩
    have unmarked : ins.isMarker = false := decide_eq_false isMarker
    rw [if_neg isMarker] at ran
    obtain ⟨⟨final, tail, found⟩, later, finished⟩ := ok_of_bind ran
    cases finished
    obtain ⟨visited, address⟩ := ih later
    rw [untilMarker, if_neg (by simp [unmarked]), visitAll, bind_of_ok first,
      find?_cons, unmarked]
    refine ⟨?_, address⟩
    dsimp only
    rw [bind_of_ok visited]
    rfl

def redirects (uk : Unikernel) (sect : Section) (ins : Ins) : Bool :=
  match usedAddr ins with
  | some used =>
    decide (used.map Char.toLower ≠ "0xffffffff".toList) && (match redirected uk ins sect used with
        | .ok wanted => wanted
        | .error _ => false) && decide (5 ≤ ins.bytes.length)
  | none => false

def unredirected (sect : Section) (ins : Ins) : List UInt8 :=
  if usedAddr ins = none ∧ isVfscoreLea sect ins.bytes then
    [0x48, 0x8d, 0x90, 0xd8, 0xff, 0xff, 0xff]
  else ins.bytes

variable {ins : Ins}

theorem processInstruction_decides (ran : processInstruction uk ins s used 0 = .ok (result, answer)) :
  ∃ wanted, redirected uk ins s.sect used = .ok wanted ∧
    answer.isSome = (wanted && decide (5 ≤ ins.bytes.length)) := by
  obtain ⟨wanted, decided, ⟨replaced, _, _, _, rfl⟩ | ⟨kept, _, rfl⟩⟩ :=
    processInstruction_cases ran
  · exact ⟨wanted, decided, by simp [replaced]⟩
  · exact ⟨wanted, decided, by simpa using kept⟩

theorem rewriteIns_spec (ran : rewriteIns uk s ins = .ok (result, out)) :
  if redirects uk s.sect ins then ∃ used addr, usedAddr ins = some used ∧
    target s ins (emission uk ins s used) = .ok (result, addr) ∧ Near ins.address addr ∧ out = ins.site addr
  else result = s ∧ out = unredirected s.sect ins := by
  unfold rewriteIns at ran
  cases found : usedAddr ins with
  | none =>
    simp only [found] at ran
    simp only [redirects, found, unredirected]
    split at ran
    · rename_i lea
      cases ran
      simp [lea]
    rename_i other
    cases ran
    simp [other]
  | some used =>
    simp only [found] at ran
    simp only [redirects, found, unredirected]
    split at ran
    · rename_i ones
      cases ran
      simp [ones]
    rename_i ones
    obtain ⟨⟨middle, answer⟩, processed, finished⟩ := ok_of_bind ran
    cases finished
    obtain ⟨wanted, decided, answered⟩ := processInstruction_decides processed
    simp only [decided, ones, ne_eq, not_false_eq_true, decide_true, Bool.true_and, ← answered]
    cases answer with
    | none => exact ⟨processInstruction_none processed, rfl⟩
    | some bytes =>
      obtain ⟨_, addr, chosen, near, rfl⟩ := processInstruction_some processed
      exact ⟨used, addr, rfl, chosen, near, rfl⟩

def Ins.stubSize (ins : Ins) : Nat :=
  match ins.shape with
  | .call => 5
  | .jmp => 6
  | .push => ins.bytes.length + 5
  | .loadRsp => ins.bytes.length + 5
  | .plain => ins.bytes.length + 1
  | .ripRelative => ins.bytes.length + 1

theorem Ins.stubSize_pos (ins : Ins) : 0 < ins.stubSize := by
  unfold Ins.stubSize
  split <;> omega

theorem Emits.length (emits : Emits ins addr stub) (absolute : ins.shape ≠ .ripRelative) :
  stub.length = ins.stubSize := by
  cases emits with
  | call shape | jmp shape => simp [Ins.stubSize, shape, jump]
  | back shape => rcases shape with shape | shape <;> simp [Ins.stubSize, shape, jump]
  | plain shape => simp [Ins.stubSize, shape]
  | ripRelative shape => exact absurd shape absolute

theorem emission_addr {result : SectionInd} (found : usedAddr ins = some used)
  (added : emission uk ins s used = .ok result) : result.addr = s.sectionInd.addr + ins.stubSize := by
  by_cases rip : ins.shape = .ripRelative
  · have noted := ripRelative_text rip
    have five : ins.bytes.length ≠ 5 := by
      intro five
      unfold Ins.shape at rip
      split_ifs at rip
    have emitted : s.sectionInd.addIndBytesBiggerRip ins 0 = .ok result := by
      rw [emission, if_neg five, addBigger, if_pos noted] at added
      split at added
      · obtain ⟨_, _, added⟩ := ok_of_bind added
        exact added
      · exact added
    simp only [SectionInd.addIndBytesBiggerRip, SectionInd.optimize] at emitted
    cases displaced : ripDisplacement ins.opStr.toList with
    | none => simp [displaced] at emitted
    | some displacement =>
      simp only [displaced] at emitted
      obtain ⟨_, _, emitted⟩ := ok_of_bind emitted
      obtain ⟨_, _, finished⟩ := ok_of_bind emitted
      cases finished
      simp [SectionInd.addInsBytesRet, SectionInd.extend, Ins.stubSize, rip, Int.add_assoc]
  have encoded : ins.bytes.length ≠ 5 → Encoded ins := by
    intro five noted
    exact absurd (by simp [Ins.shape, five, noted]) rip
  obtain ⟨stub, emits, rfl⟩ : ∃ stub, Emits ins s.sectionInd.addr stub ∧
      result = s.sectionInd.extend stub := by
    by_cases five : ins.bytes.length = 5
    · rw [emission, if_pos five] at added
      exact addIndBytes_emits five (by simp [Ins.operand, found]) added
    rw [emission, if_neg five] at added
    exact emitBigger_emits five (encoded five) (addBigger_emitBigger added)
  rw [SectionInd.extend, emits.length rip]

structure Alike (left right : Ins) : Prop where
  mnemonic : left.mnemonic = right.mnemonic
  rip : occursIn "rip" left.opStr = occursIn "rip" right.opStr
  loadsRsp : left.loadsRsp = right.loadsRsp
  field : left.bytes = right.bytes ∨ ∃ front leftOperand rightOperand back, front ≠ [] ∧
    leftOperand.length = 4 ∧ rightOperand.length = 4 ∧
      left.bytes = front ++ leftOperand ++ back ∧ right.bytes = front ++ rightOperand ++ back

namespace Alike

variable (alike : Alike left right)
include alike

theorem length : left.bytes.length = right.bytes.length := by
  rcases alike.field with same | ⟨front, leftOperand, rightOperand, back, _, leftFour, rightFour,
    leftBytes, rightBytes⟩
  · rw [same]
  · simp [leftBytes, rightBytes, leftFour, rightFour]

theorem head : left.bytes.head? = right.bytes.head? := by
  rcases alike.field with same | ⟨front, leftOperand, rightOperand, back, opcode, _, _,
    leftBytes, rightBytes⟩
  · rw [same]
  obtain ⟨first, rest, rfl⟩ := exists_cons_of_ne_nil opcode
  simp [leftBytes, rightBytes]

theorem shape : left.shape = right.shape := by
  simp only [Ins.shape, alike.length, alike.head, alike.rip, alike.loadsRsp]

theorem stubSize : left.stubSize = right.stubSize := by
  simp only [Ins.stubSize, alike.shape, alike.length]

theorem isMarker : left.isMarker = right.isMarker := by
  simp only [Ins.isMarker, alike.mnemonic, alike.head]

theorem site (apart : (right.address : Int) = left.address + shift) (addr : Int) :
  left.site addr = right.site (addr + shift) := by
  have distance : addr + shift - right.address - 5 = addr - left.address - 5 := by omega
  simp only [Ins.site, jump, alike.length, alike.mnemonic, alike.loadsRsp, distance]

end Alike

theorem site_length (long : 5 ≤ ins.bytes.length) : (ins.site addr).length = ins.bytes.length := by
  simp only [Ins.site, jump, length_append, length_cons, signedBytes_length, length_replicate]
  omega

theorem site_inj (near : Near ins.address first) (other : Near ins.address second)
  (same : ins.site first = ins.site second) : first = second := by
  have fields : signedBytes (first - ins.address - 5) = signedBytes (second - ins.address - 5) := by
    simp only [Ins.site, jump] at same
    have lists := (append_inj same (by simp)).1
    exact (List.cons.inj lists).2
  have displacements := congrArg ofSignedBytes fields
  rw [ofSignedBytes_signedBytes near, ofSignedBytes_signedBytes other] at displacements
  omega

structure Recorded (start : Int) (texts : List String) (s : TextSection) : Prop where
  started : start ≤ s.sectionInd.addr
  seen : ∀ text uses addr, s.dataTarget.get? text = some (uses, addr) → text ∈ texts
  inside : ∀ text uses addr, s.dataTarget.get? text = some (uses, addr) →
    start ≤ addr ∧ addr < s.sectionInd.addr
  apart : ∀ first second firstUses secondUses addr, s.dataTarget.get? first = some (firstUses, addr) →
      s.dataTarget.get? second = some (secondUses, addr) → first = second

theorem recorded_fresh (sect : Section) (start : Int) : Recorded start [] (.fresh sect start) where
  started := Int.le_refl _
  seen := by simp [TextSection.fresh]
  inside := by simp [TextSection.fresh]
  apart := by simp [TextSection.fresh]

/-- Where the replacement of `ins` leads: to a new stub at the end of the table or to
the one recorded for the text. -/
structure Chosen (s : TextSection) (ins : Ins) (result : TextSection) (addr : Int) : Prop where
  sect : result.sect = s.sect
  own : ∃ uses, result.dataTarget.get? ins.text = some (uses, addr)
  others : ∀ text, text ≠ ins.text → result.dataTarget.get? text = s.dataTarget.get? text
  place : (s.dataTarget.get? ins.text = none ∧ addr = s.sectionInd.addr ∧
      result.sectionInd.addr = s.sectionInd.addr + ins.stubSize) ∨
    ((∃ uses, s.dataTarget.get? ins.text = some (uses, addr)) ∧ result.sectionInd.addr = s.sectionInd.addr)

theorem target_chosen (found : usedAddr ins = some used)
  (ran : target s ins (emission uk ins s used) = .ok (result, addr)) : Chosen s ins result addr := by
  rcases target_cases ran with ⟨fresh, place, ind, added, rfl⟩ | ⟨uses, known, rfl⟩
  · exact ⟨rfl, ⟨1, by simp⟩, fun text other => by simp [other],
      .inl ⟨fresh, place, emission_addr found added⟩⟩
  exact ⟨rfl, ⟨uses + 1, by simp⟩, fun text other => by simp [other],
    .inr ⟨⟨uses, known⟩, rfl⟩⟩

theorem Recorded.bounds (recorded : Recorded start texts s) (chosen : Chosen s ins result addr) :
  start ≤ addr ∧ addr < result.sectionInd.addr ∧ s.sectionInd.addr ≤ result.sectionInd.addr := by
  have positive := ins.stubSize_pos
  have begun := recorded.started
  rcases chosen.place with ⟨_, place, grown⟩ | ⟨⟨uses, known⟩, same⟩
  · omega
  have inside := recorded.inside _ _ _ known
  omega

theorem Recorded.chosen (recorded : Recorded start texts s) (chosen : Chosen s ins result addr) :
  Recorded start (ins.text :: texts) result := by
  obtain ⟨ownUses, own⟩ := chosen.own
  have bounds := recorded.bounds chosen
  have old : ∀ text uses other, text ≠ ins.text → result.dataTarget.get? text = some (uses, other) →
      s.dataTarget.get? text = some (uses, other) := by
    intro text uses other different found
    rwa [chosen.others text different] at found
  -- a stub recorded under another text cannot be the chosen one
  have distinct : ∀ text uses, text ≠ ins.text → result.dataTarget.get? text ≠ some (uses, addr) := by
    intro text uses different found
    have known := old text uses addr different found
    rcases chosen.place with ⟨_, place, _⟩ | ⟨⟨_, recordedOwn⟩, _⟩
    · have inside := recorded.inside _ _ _ known
      omega
    · exact different (recorded.apart _ _ _ _ _ known recordedOwn)
  refine ⟨by omega, ?_, ?_, ?_⟩
  · intro text uses other found
    by_cases same : text = ins.text
    · exact mem_cons.mpr (.inl same)
    · exact mem_cons_of_mem _ (recorded.seen _ _ _ (old text uses other same found))
  · intro text uses other found
    by_cases same : text = ins.text
    · rw [same, own] at found
      cases found
      exact ⟨bounds.1, bounds.2.1⟩
    have inside := recorded.inside _ _ _ (old text uses other same found)
    omega
  intro first second firstUses secondUses other firstFound secondFound
  by_cases firstSame : first = ins.text
  · rw [firstSame, own] at firstFound
    cases firstFound
    by_contra different
    exact distinct second secondUses (fun same => different (firstSame.trans same.symm)) secondFound
  by_cases secondSame : second = ins.text
  · rw [secondSame, own] at secondFound
    cases secondFound
    exact absurd firstFound (distinct first firstUses firstSame)
  exact recorded.apart _ _ _ _ _ (old _ _ _ firstSame firstFound) (old _ _ _ secondSame secondFound)

structure Tables (start shift : Int) (done : List (String × String)) (left right : TextSection) :
  Prop where
  ends : right.sectionInd.addr = left.sectionInd.addr + shift
  leftStubs : Recorded start (done.map Prod.fst) left
  rightStubs : Recorded (start + shift) (done.map Prod.snd) right
  paired : ∀ pair ∈ done, ∃ leftUses rightUses addr,
    left.dataTarget.get? pair.1 = some (leftUses, addr) ∧
      right.dataTarget.get? pair.2 = some (rightUses, addr + shift)

theorem Tables.redirect_iff (tables : Tables start shift done left right)
  (leftChosen : Chosen left leftIns leftResult leftAddr)
  (rightChosen : Chosen right rightIns rightResult rightAddr) :
  rightAddr = leftAddr + shift ↔ ∀ pair ∈ done, (pair.1 = leftIns.text ↔ pair.2 = rightIns.text) := by
  have ends := tables.ends
  rcases leftChosen.place with ⟨leftNew, leftPlace, _⟩ | ⟨⟨leftUses, leftKnown⟩, _⟩ <;>
    rcases rightChosen.place with ⟨rightNew, rightPlace, _⟩ | ⟨⟨rightUses, rightKnown⟩, _⟩
  · refine ⟨fun _ pair member => ?_, fun _ => by omega⟩
    obtain ⟨_, _, _, leftFound, rightFound⟩ := tables.paired pair member
    constructor
    · intro same
      rw [same, leftNew] at leftFound
      cases leftFound
    intro same
    rw [same, rightNew] at rightFound
    cases rightFound
  · constructor
    · have inside := tables.rightStubs.inside _ _ _ rightKnown
      omega
    intro sharing
    obtain ⟨pair, member, same⟩ := mem_map.mp (tables.rightStubs.seen _ _ _ rightKnown)
    obtain ⟨_, _, _, leftFound, _⟩ := tables.paired pair member
    rw [(sharing pair member).mpr same, leftNew] at leftFound
    cases leftFound
  · constructor
    · have inside := tables.leftStubs.inside _ _ _ leftKnown
      omega
    intro sharing
    obtain ⟨pair, member, same⟩ := mem_map.mp (tables.leftStubs.seen _ _ _ leftKnown)
    obtain ⟨_, _, _, _, rightFound⟩ := tables.paired pair member
    rw [(sharing pair member).mp same, rightNew] at rightFound
    cases rightFound
  constructor
  · intro agree pair member
    obtain ⟨_, _, addr, leftFound, rightFound⟩ := tables.paired pair member
    constructor
    · intro same
      rw [same, leftKnown] at leftFound
      cases leftFound
      rw [← agree] at rightFound
      exact tables.rightStubs.apart _ _ _ _ _ rightFound rightKnown
    intro same
    rw [same, rightKnown] at rightFound
    cases rightFound
    have addrs : addr = leftAddr := by omega
    rw [addrs] at leftFound
    exact tables.leftStubs.apart _ _ _ _ _ leftFound leftKnown
  intro sharing
  obtain ⟨pair, member, same⟩ := mem_map.mp (tables.leftStubs.seen _ _ _ leftKnown)
  obtain ⟨_, _, addr, leftFound, rightFound⟩ := tables.paired pair member
  rw [same, leftKnown] at leftFound
  rw [(sharing pair member).mp same, rightKnown] at rightFound
  cases leftFound
  cases rightFound
  rfl

theorem Tables.redirect (tables : Tables start shift done left right)
  (leftChosen : Chosen left leftIns leftResult leftAddr)
  (rightChosen : Chosen right rightIns rightResult rightAddr)
  (size : leftIns.stubSize = rightIns.stubSize) (agree : rightAddr = leftAddr + shift) :
  Tables start shift ((leftIns.text, rightIns.text) :: done) leftResult rightResult where
  ends := by
    have ends := tables.ends
    rcases leftChosen.place with ⟨_, leftPlace, leftGrown⟩ | ⟨⟨leftUses, leftKnown⟩, leftSame⟩ <;>
      rcases rightChosen.place with ⟨_, rightPlace, rightGrown⟩ | ⟨⟨rightUses, rightKnown⟩, rightSame⟩
    · omega
    · have inside := tables.rightStubs.inside _ _ _ rightKnown
      omega
    · have inside := tables.leftStubs.inside _ _ _ leftKnown
      omega
    · omega
  leftStubs := tables.leftStubs.chosen leftChosen
  rightStubs := tables.rightStubs.chosen rightChosen
  paired := by
    have sharing := (tables.redirect_iff leftChosen rightChosen).mp agree
    obtain ⟨leftUses, leftOwn⟩ := leftChosen.own
    obtain ⟨rightUses, rightOwn⟩ := rightChosen.own
    rw [agree] at rightOwn
    intro pair member
    rcases mem_cons.mp member with rfl | old
    · exact ⟨leftUses, rightUses, leftAddr, leftOwn, rightOwn⟩
    by_cases same : pair.1 = leftIns.text
    · rw [same, (sharing pair old).mp same]
      exact ⟨leftUses, rightUses, leftAddr, leftOwn, rightOwn⟩
    rw [leftChosen.others _ same, rightChosen.others _ fun other => same ((sharing pair old).mpr other)]
    exact tables.paired pair old

section

variable (leftUk rightUk : Unikernel) (leftSect rightSect : Section)
  (leftProblematic rightProblematic : Ins → Bool) (done : List (String × String))

def StepAgreed (left right : Ins) : Prop :=
  leftProblematic left = true → redirects leftUk leftSect left = redirects rightUk rightSect right ∧
    (redirects leftUk leftSect left = true → ∀ pair ∈ done, (pair.1 = left.text ↔ pair.2 = right.text)) ∧
    (redirects leftUk leftSect left = false → unredirected leftSect left = unredirected rightSect right)

def nextDone (left right : Ins) : List (String × String) :=
  if leftProblematic left && redirects leftUk leftSect left then (left.text, right.text) :: done
  else done

def Agreed : List (String × String) → List Ins → List Ins → Prop
  | done, left :: lefts, right :: rights =>
    StepAgreed leftUk rightUk leftSect rightSect leftProblematic done left right ∧
      Agreed (nextDone leftUk leftSect leftProblematic done left right) lefts rights
  | _, _, _ => True

structure Paired (shift : Int) (left right : Ins) : Prop where
  alike : Alike left right
  shifted : (right.address : Int) = left.address + shift
  problematic : leftProblematic left = rightProblematic right
  same : leftProblematic left = false → left.bytes = right.bytes
  leftLength : (unredirected leftSect left).length = left.bytes.length
  rightLength : (unredirected rightSect right).length = right.bytes.length

def stubRoom (code : List Ins) : Nat := (code.map Ins.stubSize).sum

def NoStubs (sect : Section) (start : Int) (room : Nat) (ins : Ins) : Prop :=
  ∀ addr, start ≤ addr → addr < start + room → unredirected sect ins ≠ ins.site addr

end

theorem redirects_long (decided : redirects uk sect ins = true) : 5 ≤ ins.bytes.length := by
  unfold redirects at decided
  split at decided
  · simpa using (Bool.and_eq_true_iff.mp decided).2
  · cases decided

variable (ran : visitIns uk problematic s ins = .ok (result, out))
include ran

theorem visitIns_spec :
  if problematic ins && redirects uk s.sect ins then
    ∃ addr, Chosen s ins result addr ∧ Near ins.address addr ∧ out = ins.site addr
  else result = s ∧ out = if problematic ins then unredirected s.sect ins else ins.bytes := by
  unfold visitIns at ran
  cases differs : problematic ins with
  | false =>
    simp only [differs] at ran
    cases ran
    simp
  | true =>
    simp only [differs] at ran
    have spec := rewriteIns_spec ran
    simp only [Bool.true_and]
    split at spec
    · rename_i moves
      obtain ⟨used, addr, found, chosen, near, rfl⟩ := spec
      rw [if_pos moves]
      exact ⟨addr, target_chosen found chosen, near, rfl⟩
    rename_i stays
    rw [if_neg stays]
    exact spec

theorem visitIns_grown : result.sectionInd.addr ≤ s.sectionInd.addr + ins.stubSize := by
  have spec := visitIns_spec ran
  split at spec
  · obtain ⟨addr, chosen, _, _⟩ := spec
    rcases chosen.place with ⟨_, _, grown⟩ | ⟨_, same⟩ <;> omega
  obtain ⟨rfl, _⟩ := spec
  omega

omit ran

theorem alike_stubRoom (alike : List.Forall₂ Alike lefts rights) : stubRoom lefts = stubRoom rights := by
  unfold stubRoom
  induction alike with
  | nil => rfl
  | cons first _ ih => rw [map_cons, map_cons, sum_cons, sum_cons, ih,
      first.stubSize]

structure StepOutcome (leftUk rightUk : Unikernel) (leftProblematic : Ins → Bool)
  (start shift : Int) (done : List (String × String)) (leftS rightS : TextSection)
  (left right : Ins) (leftNext rightNext : TextSection) (leftOut rightOut : List UInt8) :
  Prop where
  leftSect : leftNext.sect = leftS.sect
  rightSect : rightNext.sect = rightS.sect
  length : leftOut.length = rightOut.length
  agreed : StepAgreed leftUk rightUk leftS.sect rightS.sect leftProblematic done left right →
    leftOut = rightOut ∧ Tables start shift
      (nextDone leftUk leftS.sect leftProblematic done left right) leftNext rightNext
  needed : ∀ room : Nat, leftNext.sectionInd.addr ≤ start + room →
    rightNext.sectionInd.addr ≤ start + shift + room →
    NoStubs leftS.sect start room left → NoStubs rightS.sect (start + shift) room right →
      leftOut = rightOut → StepAgreed leftUk rightUk leftS.sect rightS.sect leftProblematic done left right

theorem visitIns_lockstep
  (paired : Paired leftS.sect rightS.sect leftProblematic rightProblematic shift left right)
  (tables : Tables start shift done leftS rightS)
  (leftRan : visitIns leftUk leftProblematic leftS left = .ok (leftNext, leftOut))
  (rightRan : visitIns rightUk rightProblematic rightS right = .ok (rightNext, rightOut)) :
  StepOutcome leftUk rightUk leftProblematic start shift done leftS rightS left right leftNext
    rightNext leftOut rightOut := by
  have lengths := paired.alike.length
  have leftSpec := visitIns_spec leftRan
  have rightSpec := visitIns_spec rightRan
  rw [← paired.problematic] at rightSpec
  cases differs : leftProblematic left with
  | false =>
    simp only [differs] at leftSpec rightSpec
    obtain ⟨rfl, rfl⟩ := leftSpec
    obtain ⟨rfl, rfl⟩ := rightSpec
    have next : nextDone leftUk leftNext.sect leftProblematic done left right = done := by
      simp [nextDone, differs]
    refine ⟨rfl, rfl, lengths, fun _ => ⟨paired.same differs, ?_⟩, fun _ _ _ _ _ _ wanted => ?_⟩
    · rwa [next]
    rw [differs] at wanted
    cases wanted
  | true =>
    simp only [differs] at leftSpec rightSpec
    cases leftMoves : redirects leftUk leftS.sect left <;>
      cases rightMoves : redirects rightUk rightS.sect right <;>
      simp only [leftMoves, rightMoves, if_true] at leftSpec rightSpec
    · obtain ⟨rfl, rfl⟩ := leftSpec
      obtain ⟨rfl, rfl⟩ := rightSpec
      have next : nextDone leftUk leftNext.sect leftProblematic done left right = done := by
        simp [nextDone, leftMoves]
      refine ⟨rfl, rfl, ?_, fun agreed => ⟨(agreed differs).2.2 leftMoves, ?_⟩,
        fun _ _ _ _ _ same _ => ⟨by rw [leftMoves, rightMoves], fun moves => ?_, fun _ => same⟩⟩
      · rw [paired.leftLength, paired.rightLength, lengths]
      · rwa [next]
      rw [leftMoves] at moves
      cases moves
    · obtain ⟨rfl, rfl⟩ := leftSpec
      obtain ⟨addr, chosen, near, rfl⟩ := rightSpec
      have bounds := tables.rightStubs.bounds chosen
      have moved := paired.alike.site paired.shifted (addr - shift)
      rw [Int.sub_add_cancel] at moved
      refine ⟨rfl, chosen.sect, ?_, fun agreed => ?_, fun room _ rightRoom leftFree _ same => ?_⟩
      · rw [paired.leftLength, site_length (redirects_long rightMoves), lengths]
      · have equal := (agreed differs).1
        rw [leftMoves, rightMoves] at equal
        cases equal
      exact absurd (same.trans moved.symm) (leftFree (addr - shift) (by omega)
        (by omega))
    · obtain ⟨addr, chosen, near, rfl⟩ := leftSpec
      obtain ⟨rfl, rfl⟩ := rightSpec
      have bounds := tables.leftStubs.bounds chosen
      have moved := paired.alike.site paired.shifted addr
      refine ⟨chosen.sect, rfl, ?_, fun agreed => ?_, fun room leftRoom _ _ rightFree same => ?_⟩
      · rw [paired.rightLength, site_length (redirects_long leftMoves), lengths]
      · have equal := (agreed differs).1
        rw [leftMoves, rightMoves] at equal
        cases equal
      exact absurd (same.symm.trans moved) (rightFree (addr + shift) (by omega)
        (by omega))
    obtain ⟨leftAddr, leftChosen, leftNear, rfl⟩ := leftSpec
    obtain ⟨rightAddr, rightChosen, rightNear, rfl⟩ := rightSpec
    have sharing := tables.redirect_iff leftChosen rightChosen
    have moved := paired.alike.site paired.shifted leftAddr
    have next : nextDone leftUk leftS.sect leftProblematic done left right =
        (left.text, right.text) :: done := by
      simp [nextDone, differs, leftMoves]
    refine ⟨leftChosen.sect, rightChosen.sect, ?_, fun agreed => ?_, fun _ _ _ _ _ same _ => ?_⟩
    · rw [site_length (redirects_long leftMoves), site_length (redirects_long rightMoves), lengths]
    · have agree := sharing.mpr ((agreed differs).2.1 leftMoves)
      refine ⟨by rw [moved, agree], ?_⟩
      rw [next]
      exact tables.redirect leftChosen rightChosen paired.alike.stubSize agree
    have shiftedNear : Near right.address (leftAddr + shift) := by
      have shifted := paired.shifted
      have distance : leftAddr + shift - right.address - 5 = leftAddr - left.address - 5 := by omega
      rw [Near, distance]
      exact leftNear
    have agree := site_inj rightNear shiftedNear (same.symm.trans moved)
    refine ⟨by rw [leftMoves, rightMoves], fun _ => sharing.mp agree, fun stays => ?_⟩
    rw [leftMoves] at stays
    cases stays

theorem visitAll_lockstep
  (paired : List.Forall₂ (Paired leftSect rightSect leftProblematic rightProblematic shift)
    lefts rights) (leftAt : leftS.sect = leftSect) (rightAt : rightS.sect = rightSect)
  (tables : Tables start shift done leftS rightS)
  (leftRan : visitAll leftUk leftProblematic leftS lefts = .ok (leftEnd, leftBt))
  (rightRan : visitAll rightUk rightProblematic rightS rights = .ok (rightEnd, rightBt))
  {room : Nat} (fits : leftS.sectionInd.addr + stubRoom lefts ≤ start + room) :
  (Agreed leftUk rightUk leftSect rightSect leftProblematic done lefts rights → leftBt = rightBt) ∧
  ((∀ ins ∈ lefts, NoStubs leftSect start room ins) →
    (∀ ins ∈ rights, NoStubs rightSect (start + shift) room ins) → leftBt = rightBt →
      Agreed leftUk rightUk leftSect rightSect leftProblematic done lefts rights) := by
  induction paired generalizing done leftS rightS leftBt rightBt with
  | nil =>
    cases leftRan
    cases rightRan
    exact ⟨fun _ => rfl, fun _ _ _ => trivial⟩
  | @cons left right lefts rights first rest ih =>
    obtain ⟨⟨leftNext, leftOut⟩, leftStep, leftRan⟩ := ok_of_bind leftRan
    obtain ⟨⟨rightNext, rightOut⟩, rightStep, rightRan⟩ := ok_of_bind rightRan
    obtain ⟨⟨leftLast, leftTail⟩, leftRest, leftDone⟩ := ok_of_bind leftRan
    obtain ⟨⟨rightLast, rightTail⟩, rightRest, rightDone⟩ := ok_of_bind rightRan
    cases leftDone
    cases rightDone
    rw [← leftAt, ← rightAt] at first
    have step := visitIns_lockstep first tables leftStep rightStep
    have leftGrown := visitIns_grown leftStep
    have rightGrown := visitIns_grown rightStep
    have ends := tables.ends
    have sizes := first.alike.stubSize
    rw [stubRoom, map_cons, sum_cons, ← stubRoom] at fits
    have later : leftNext.sectionInd.addr + stubRoom lefts ≤ start + room := by omega
    have leftSame := step.leftSect.trans leftAt
    have rightSame := step.rightSect.trans rightAt
    have agreed := step.agreed
    have needed := step.needed
    rw [leftAt, rightAt] at agreed needed
    constructor
    · rintro ⟨now, following⟩
      obtain ⟨outs, next⟩ := agreed now
      have tails := (ih leftSame rightSame next leftRest rightRest later).1 following
      exact congrArg₂ (· ++ ·) outs tails
    intro leftFree rightFree same
    obtain ⟨outs, tails⟩ := append_inj same step.length
    have now := needed room (by omega) (by omega) (leftFree left mem_cons_self)
      (rightFree right mem_cons_self) outs
    obtain ⟨_, next⟩ := agreed now
    refine ⟨now, (ih leftSame rightSame next leftRest rightRest later).2 ?_ ?_ tails⟩
    · exact fun ins member => leftFree ins (mem_cons_of_mem _ member)
    · exact fun ins member => rightFree ins (mem_cons_of_mem _ member)

theorem agreed_iff (leftUk rightUk : Unikernel) (leftSect rightSect : Section)
  (done : List (String × String)) :
  Agreed leftUk rightUk leftSect rightSect problematic done lefts rights ↔
    (∀ pair ∈ lefts.zip rights, problematic pair.1 = true →
      redirects leftUk leftSect pair.1 = redirects rightUk rightSect pair.2 ∧
      (redirects leftUk leftSect pair.1 = false →
        unredirected leftSect pair.1 = unredirected rightSect pair.2)) ∧
    (∀ pair ∈ lefts.zip rights, problematic pair.1 = true → redirects leftUk leftSect pair.1 = true →
        ∀ seen ∈ done, (seen.1 = pair.1.text ↔ seen.2 = pair.2.text)) ∧
    (lefts.zip rights).Pairwise fun first second =>
      problematic first.1 = true → redirects leftUk leftSect first.1 = true →
        problematic second.1 = true → redirects leftUk leftSect second.1 = true →
          (first.1.text = second.1.text ↔ first.2.text = second.2.text) := by
  induction lefts generalizing rights done with
  | nil => simp [Agreed]
  | cons left lefts ih =>
    cases rights with
    | nil => simp [Agreed]
    | cons right rights =>
      rw [Agreed, ih, zip_cons_cons, pairwise_cons]
      simp only [forall_mem_cons]
      by_cases moves : problematic left = true ∧ redirects leftUk leftSect left = true
      · have next : nextDone leftUk leftSect problematic done left right =
            (left.text, right.text) :: done := by simp [nextDone, moves]
        rw [next]
        simp only [forall_mem_cons]
        constructor
        · rintro ⟨now, decisions, sharing, pairwise⟩
          exact ⟨⟨fun differs => ⟨(now differs).1, (now differs).2.2⟩, decisions⟩,
            ⟨fun differs => (now differs).2.1,
              fun pair member differs moved => (sharing pair member differs moved).2⟩,
            fun pair member _ _ differs moved => (sharing pair member differs moved).1, pairwise⟩
        rintro ⟨⟨now, decisions⟩, ⟨early, sharing⟩, first, pairwise⟩
        exact ⟨fun differs => ⟨(now differs).1, early differs, (now differs).2⟩, decisions,
          fun pair member differs moved => ⟨first pair member moves.1 moves.2 differs moved,
            sharing pair member differs moved⟩, pairwise⟩
      have next : nextDone leftUk leftSect problematic done left right = done := by
        have stays : (problematic left && redirects leftUk leftSect left) = false := by
          rw [← Bool.not_eq_true, Bool.and_eq_true]
          exact moves
        simp [nextDone, stays]
      rw [next]
      constructor
      · rintro ⟨now, decisions, sharing, pairwise⟩
        exact ⟨⟨fun differs => ⟨(now differs).1, (now differs).2.2⟩, decisions⟩,
          ⟨fun differs => (now differs).2.1, sharing⟩,
          fun _ _ differs moved => absurd ⟨differs, moved⟩ moves, pairwise⟩
      rintro ⟨⟨now, decisions⟩, ⟨early, sharing⟩, _, pairwise⟩
      exact ⟨fun differs => ⟨(now differs).1, early differs, (now differs).2⟩, decisions, sharing, pairwise⟩

end Spacer.Rewriter
