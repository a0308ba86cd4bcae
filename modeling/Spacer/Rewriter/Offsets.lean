import Spacer.Rewriter.Shared
import Spacer.Rewriter.Sharing

/-! Where the bytes of a section stand after `disassemble`, in both rewriters. -/

namespace Spacer.Rewriter

open List hiding tail

open Lib

/-! `disassemble` of `binary_rewriter_new.py`: every instruction is looked at, and the marker
ends the loop before it is copied. -/

def rewriteInsNew (uk : Unikernel) (s : TextSection) (ins : Ins) :
  Except PyError (TextSection × List UInt8) :=
  match usedAddr ins with
  | some used =>
    if used.map Char.toLower = "0xffffffff".toList then .ok (s, ins.bytes)
    else do
      let (s, indBytes) ← processInstructions (some 0x1000) uk ins s used 0
      return (s, indBytes.getD ins.bytes)
  | none =>
    if s.sect.name = ".text.libvfscore" ∧ isVfscoreLea s.sect ins.bytes then
      .ok (s, [0x48, 0x8d, 0x90, 0xd8, 0xff, 0xff, 0xff])
    else .ok (s, ins.bytes)

def disassembleNewLoop (uk : Unikernel) (useNewRep : Bool) :
  TextSection → List Ins → Except PyError (TextSection × List UInt8 × Option Nat)
  | s, [] => .ok (s, [], none)
  | s, ins :: rest =>
    if useNewRep && ins.isMarker then .ok (s, [], some ins.address)
    else do
      let (s, out) ← rewriteInsNew uk s ins
      let (s, bt, marker) ← disassembleNewLoop uk useNewRep s rest
      return (s, out ++ bt, marker)

variable (decode : List UInt8 → Nat → List Ins)

def disassembleNew (useNewRep : Bool) (uk : Unikernel) (s : TextSection) (content : List UInt8) :
  Except PyError (Unikernel × TextSection × List UInt8) := do
  let skipped := if s.sect.name = ".text" then 0x9000 else 0
  let base := s.sect.virtualAddress + skipped
  let s := { s with sect := { s.sect with virtualAddress := base } }
  let uk := if s.sect.name = ".text" then uk.rebase s.sect.name base else uk
  let (s, bt, marker) ← disassembleNewLoop uk useNewRep s (decode (content.drop skipped) base)
  let bt := content.take skipped ++ bt
  match marker with
  | some (address + 1) => return (uk, s, bt ++ content.drop (address + 1 - base))
  | _ => return (uk, s, bt)

/-! What a section should look like afterwards. -/

def visitEach (visit : TextSection → Ins → Except PyError (TextSection × List UInt8)) :
  TextSection → List Ins → Except PyError (TextSection × List (List UInt8))
  | s, [] => .ok (s, [])
  | s, ins :: rest => do
    let (s, out) ← visit s ins
    let (s, outs) ← visitEach visit s rest
    return (s, out :: outs)

def Covers (ins : Ins) (address : Nat) : Prop :=
  ins.address ≤ address ∧ address < ins.address + ins.bytes.length

/-- The length of the content at `base`, and its bytes outside the instructions that became
something else. -/
structure Preserves (base : Nat) (content out : List UInt8) (code : List Ins)
  (outs : List (List UInt8)) : Prop where
  length : out.length = content.length
  kept : ∀ offset, (∀ pair ∈ code.zip outs, pair.2 ≠ pair.1.bytes → ¬Covers pair.1 (base + offset)) →
    out[offset]? = content[offset]?

theorem codeLength_cons : codeLength (ins :: rest) = ins.bytes.length + codeLength rest := by
  rw [codeLength, map_cons, sum_cons, codeLength]

theorem walks_length (walks : Walks base content code) : codeLength code ≤ content.length := by
  induction code generalizing base content with
  | nil => exact Nat.zero_le _
  | cons ins rest ih =>
    obtain ⟨_, within, later⟩ := walks
    have front := within.length_le
    have back := ih later
    rw [length_drop] at back
    rw [codeLength_cons]
    omega

theorem walks_end (walks : Walks base content code) (member : ins ∈ code) :
  ins.address + ins.bytes.length ≤ base + codeLength code := by
  induction code generalizing base content with
  | nil => cases member
  | cons first rest ih =>
    obtain ⟨address, _, later⟩ := walks
    rw [codeLength_cons]
    rcases mem_cons.mp member with rfl | behind
    · omega
    have bound := ih later behind
    omega

def Aligned (code : List Ins) (outs : List (List UInt8)) : Prop :=
  List.Forall₂ (fun ins out => out.length = ins.bytes.length) code outs

theorem aligned_length (aligned : Aligned code outs) : outs.flatten.length = codeLength code := by
  induction aligned with
  | nil => rfl
  | cons first _ ih => rw [flatten_cons, length_append, codeLength_cons, first, ih]

theorem outs_getElem? (walks : Walks base content code) (aligned : Aligned code outs)
  (inside : offset < codeLength code)
  (untouched : ∀ pair ∈ code.zip outs, pair.2 ≠ pair.1.bytes → ¬Covers pair.1 (base + offset)) :
  outs.flatten[offset]? = content[offset]? := by
  induction aligned generalizing base content offset with
  | nil => cases inside
  | @cons ins out code outs same aligned ih =>
    obtain ⟨address, ⟨back, rfl⟩, later⟩ := walks
    rw [drop_left] at later
    rw [codeLength_cons] at inside
    rw [flatten_cons]
    by_cases here : offset < ins.bytes.length
    · have covers : Covers ins (base + offset) := ⟨by omega, by omega⟩
      have unchanged : out = ins.bytes := by
        by_contra changed
        exact untouched (ins, out) (by simp) changed covers
      rw [getElem?_append_left (by omega), getElem?_append_left here, unchanged]
    rw [getElem?_append_right (by omega), getElem?_append_right (by omega), same]
    refine ih later (by omega) fun pair member changed covers => ?_
    refine untouched pair (mem_cons_of_mem _ member) changed ?_
    have place : base + ins.bytes.length + (offset - ins.bytes.length) = base + offset := by omega
    rwa [place] at covers

theorem preserves_iff (walks : Walks (base + skipped) (content.drop skipped) code)
  (aligned : Aligned code outs) :
  Preserves base content (content.take skipped ++ outs.flatten ++ tail) code outs ↔
    tail = content.drop (skipped + codeLength code) := by
  have size := aligned_length aligned
  have fits := walks_length walks
  rw [length_drop] at fits
  constructor
  · intro preserves
    by_cases long : skipped ≤ content.length
    · refine ext_getElem? fun index => ?_
      have head : (content.take skipped ++ outs.flatten).length = skipped + codeLength code := by
        rw [length_append, length_take, size]
        omega
      have kept := preserves.kept (skipped + codeLength code + index) fun pair member _ covers => by
        have bound := walks_end walks (of_mem_zip member).1
        have below := covers.2
        omega
      rw [getElem?_append_right (by omega), head, Nat.add_sub_cancel_left] at kept
      rw [kept, getElem?_drop]
    have length := preserves.length
    rw [length_append, length_append, length_take, size] at length
    rw [drop_eq_nil_of_le (by omega), ← length_eq_zero_iff]
    omega
  rintro rfl
  have length : (content.take skipped ++ outs.flatten ++
      content.drop (skipped + codeLength code)).length = content.length := by
    simp only [length_append, length_take, length_drop, size]
    omega
  refine ⟨length, fun offset untouched => ?_⟩
  by_cases inside : offset < content.length
  · have head := length_take (i := skipped) (l := content)
    rw [append_assoc]
    by_cases inHead : offset < skipped
    · rw [getElem?_append_left (by omega), getElem?_take_of_lt inHead]
    have full : (content.take skipped).length = skipped := by omega
    rw [getElem?_append_right (by omega), full]
    by_cases inCode : offset - skipped < codeLength code
    · rw [getElem?_append_left (by omega),
        outs_getElem? walks aligned inCode fun pair member changed covers => ?_,
        getElem?_drop, Nat.add_sub_cancel' (by omega)]
      refine untouched pair member changed ?_
      rwa [Nat.add_assoc, Nat.add_sub_cancel' (by omega)] at covers
    rw [getElem?_append_right (by omega), getElem?_drop, size]
    congr 1
    omega
  · rw [getElem?_eq_none (by omega), getElem?_eq_none (by omega)]

theorem processInstructions_length
  (ran : processInstructions pageSize uk ins s used optimizedSuit = .ok (result, some bytes)) :
  bytes.length = ins.bytes.length := by
  have bigger {addr : Int} {site : List UInt8} (long : 5 < ins.bytes.length)
      (built : siteBigger ins addr optimizedSuit = .ok site) :
      site.length = ins.bytes.length := by
    obtain ⟨diff, written, finished⟩ := ok_of_bind built
    obtain ⟨_, rfl⟩ := toSignedBytes_eq_ok written
    cases finished
    simp only [length_append, length_cons, signedBytes_length, length_replicate]
    omega
  obtain ⟨wanted, _, ran⟩ := ok_of_bind ran
  cases wanted with
  | false => cases ran
  | true =>
    simp only [Bool.not_true, Bool.false_eq_true, ↓reduceIte] at ran
    split at ran
    · rename_i five
      obtain ⟨_, _, ran⟩ := ok_of_bind ran
      obtain ⟨diff, written, finished⟩ := ok_of_bind ran
      obtain ⟨_, rfl⟩ := toSignedBytes_eq_ok written
      cases finished
      simp [five]
    split at ran
    · rename_i long
      unfold processBigger at ran
      split at ran
      · obtain ⟨inside, _, ran⟩ := ok_of_bind ran
        cases inside with
        | true => cases ran
        | false =>
          obtain ⟨_, _, ran⟩ := ok_of_bind ran
          obtain ⟨site, built, finished⟩ := ok_of_bind ran
          cases finished
          exact bigger long built
      obtain ⟨site, built, finished⟩ := ok_of_bind ran
      cases finished
      exact bigger long built
    · cases ran

def Ins.isLea (ins : Ins) : Bool :=
  [0x48, 0x8d, 0x88].isPrefixOf ins.bytes || [0x48, 0x8d, 0x90].isPrefixOf ins.bytes

theorem isLea_of_isVfscoreLea {ins : Ins} (lea : isVfscoreLea sect ins.bytes = true) :
  ins.isLea = true := by
  simp only [isVfscoreLea, Bool.and_eq_true] at lea
  exact lea.1.2

theorem processed_length
  (ran : processInstructions pageSize uk ins s used optimizedSuit = .ok (result, answer)) :
  (answer.getD ins.bytes).length = ins.bytes.length := by
  cases answer with
  | none => rfl
  | some bytes => exact processInstructions_length ran

theorem visitIns_length (seven : ins.isLea = true → ins.bytes.length = 7)
  (ran : visitIns uk problematic s ins = .ok (result, out)) : out.length = ins.bytes.length := by
  unfold visitIns at ran
  split at ran
  · unfold rewriteIns at ran
    split at ran
    · split at ran
      · cases ran
        rfl
      obtain ⟨⟨middle, answer⟩, processed, finished⟩ := ok_of_bind ran
      cases finished
      rw [← processInstructions_unbound] at processed
      exact processed_length processed
    split at ran
    · rename_i lea
      cases ran
      rw [seven (isLea_of_isVfscoreLea lea)]
      rfl
    cases ran
    rfl
  cases ran
  rfl

theorem rewriteInsNew_length (seven : ins.isLea = true → ins.bytes.length = 7)
  (ran : rewriteInsNew uk s ins = .ok (result, out)) : out.length = ins.bytes.length := by
  unfold rewriteInsNew at ran
  split at ran
  · split at ran
    · cases ran
      rfl
    obtain ⟨⟨middle, answer⟩, processed, finished⟩ := ok_of_bind ran
    cases finished
    exact processed_length processed
  split at ran
  · rename_i lea
    cases ran
    rw [seven (isLea_of_isVfscoreLea lea.2)]
    rfl
  cases ran
  rfl

theorem visitEach_aligned
  (lengths : ∀ ins ∈ code, ∀ s result out, visit s ins = .ok (result, out) → out.length = ins.bytes.length)
  (ran : visitEach visit s code = .ok (final, outs)) : Aligned code outs := by
  induction code generalizing s outs with
  | nil =>
    cases ran
    exact List.Forall₂.nil
  | cons ins rest ih =>
    obtain ⟨⟨middle, out⟩, first, ran⟩ := ok_of_bind ran
    obtain ⟨⟨last, others⟩, later, finished⟩ := ok_of_bind ran
    cases finished
    exact .cons (lengths ins (by simp) _ _ _ first)
      (ih (fun other member => lengths other (by simp [member])) later)

theorem visitEach_cons (first : visit s ins = .ok (middle, out))
  (later : visitEach visit middle rest = .ok (final, outs)) :
  visitEach visit s (ins :: rest) = .ok (final, out :: outs) := by
  rw [visitEach, bind_of_ok first]
  dsimp only
  rw [bind_of_ok later]
  rfl

theorem visitAll_visitEach (ran : visitAll uk problematic s code = .ok (final, bt)) :
  ∃ outs, visitEach (visitIns uk problematic) s code = .ok (final, outs) ∧ bt = outs.flatten := by
  induction code generalizing s bt with
  | nil =>
    cases ran
    exact ⟨[], rfl, rfl⟩
  | cons ins rest ih =>
    obtain ⟨⟨middle, out⟩, first, ran⟩ := ok_of_bind ran
    obtain ⟨⟨last, others⟩, later, finished⟩ := ok_of_bind ran
    cases finished
    obtain ⟨outs, visited, rfl⟩ := ih later
    exact ⟨out :: outs, visitEach_cons first visited, rfl⟩

def passed (useNewRep : Bool) : List Ins → List Ins
  | [] => []
  | ins :: rest => if useNewRep && ins.isMarker then [] else ins :: passed useNewRep rest

def stopsAt (useNewRep : Bool) : List Ins → Option Nat
  | [] => none
  | ins :: rest => if useNewRep && ins.isMarker then some ins.address else stopsAt useNewRep rest

theorem disassembleNewLoop_visitEach
  (ran : disassembleNewLoop uk useNewRep s inss = .ok (final, bt, marker)) :
  (∃ outs, visitEach (rewriteInsNew uk) s (passed useNewRep inss) = .ok (final, outs) ∧
    bt = outs.flatten) ∧ marker = stopsAt useNewRep inss := by
  induction inss generalizing s bt with
  | nil =>
    cases ran
    exact ⟨⟨[], rfl, rfl⟩, rfl⟩
  | cons ins rest ih =>
    rw [disassembleNewLoop] at ran
    by_cases stops : (useNewRep && ins.isMarker) = true
    · rw [if_pos stops] at ran
      cases ran
      rw [passed, if_pos stops, stopsAt, if_pos stops]
      exact ⟨⟨[], rfl, rfl⟩, rfl⟩
    rw [if_neg stops] at ran
    obtain ⟨⟨middle, out⟩, first, ran⟩ := ok_of_bind ran
    obtain ⟨⟨last, others, found⟩, later, finished⟩ := ok_of_bind ran
    cases finished
    obtain ⟨⟨outs, visited, rfl⟩, address⟩ := ih later
    rw [passed, if_neg stops, stopsAt, if_neg stops]
    exact ⟨⟨out :: outs, visitEach_cons first visited, rfl⟩, address⟩

theorem passed_front (useNewRep : Bool) : passed useNewRep inss <+: inss := by
  induction inss with
  | nil => exact nil_prefix
  | cons ins rest ih =>
    rw [passed]
    split
    · exact nil_prefix
    · exact (prefix_cons_inj ins).mpr ih

theorem stopsAt_eq (walks : Walks base content inss)
  (one : ∀ ins ∈ inss, ins.isMarker = true → ins.bytes.length = 1)
  (stops : stopsAt useNewRep inss = some stop) :
  stop = base + codeLength (passed useNewRep inss) ∧
    codeLength (passed useNewRep inss) < content.length := by
  induction inss generalizing base content with
  | nil => cases stops
  | cons ins rest ih =>
    obtain ⟨address, within, later⟩ := walks
    rw [stopsAt] at stops
    rw [passed]
    split at stops
    · rename_i marked
      cases stops
      rw [if_pos marked]
      have length := one ins (by simp) (Bool.and_eq_true_iff.mp marked).2
      have room := within.length_le
      exact ⟨address, by simp only [codeLength, map_nil, sum_nil]; omega⟩
    rename_i unmarked
    rw [if_neg unmarked, codeLength_cons]
    obtain ⟨place, room⟩ := ih later (fun other member => one other (by simp [member])) stops
    rw [length_drop] at room
    omega

/-! The length of the untouched head, and the tail that the source copies. -/

def headLength (sect : Section) : Nat := if sect.name = ".text" then 0x9000 else 0

/-- The section is right if the loop ran over all of it, or stopped at a marker of a library:
behind a marker, the offset in the content is that of the code without the head.  A marker at
address zero counts as none. -/
def Complete (sect : Section) (content : List UInt8) (code : List Ins) (marker : Option Nat) :
  Prop :=
  match marker with
  | some (_ + 1) => sect.name ≠ ".text"
  | _ => codeLength code = (content.drop (headLength sect)).length

def behind (content : List UInt8) (base past : Nat) : Option Nat → List UInt8
  | some (address + 1) => content.drop (address + 1 - base + past)
  | _ => []

theorem tail_eq_iff (walks : Walks base (content.drop (headLength sect)) code)
  (stop : ∀ address, marker = some address → address - base + past = codeLength code ∧
      headLength sect + codeLength code ≤ content.length) :
  behind content base past marker = content.drop (headLength sect + codeLength code) ↔
    Complete sect content code marker := by
  have fits := walks_length walks
  rw [length_drop] at fits
  have nothing : ([] : List UInt8) = content.drop (headLength sect + codeLength code) ↔
      codeLength code = (content.drop (headLength sect)).length := by
    rw [eq_comm, drop_eq_nil_iff, length_drop]
    omega
  match marker, stop with
  | none, _ => exact nothing
  | some 0, _ => exact nothing
  | some (address + 1), stop =>
    obtain ⟨place, room⟩ := stop _ rfl
    rw [behind, place, Complete]
    by_cases text : sect.name = ".text"
    · simp only [headLength, text, ↓reduceIte, ne_eq, not_true, iff_false] at room ⊢
      intro same
      have lengths := congrArg List.length same
      rw [length_drop, length_drop] at lengths
      omega
    · simp [headLength, text]

def TextSection.moved (s : TextSection) : TextSection :=
  { s with sect := { s.sect with virtualAddress := s.sect.virtualAddress + headLength s.sect } }

def Unikernel.moved (uk : Unikernel) (sect : Section) : Unikernel :=
  if sect.name = ".text" then uk.rebase sect.name (sect.virtualAddress + headLength sect) else uk

def decoded (sect : Section) (content : List UInt8) : List Ins :=
  decode (content.drop (headLength sect)) (sect.virtualAddress + headLength sect)

def OffsetsKept (visit : TextSection → Ins → Except PyError (TextSection × List UInt8))
  (s : TextSection) (content out : List UInt8) (code : List Ins) : Prop :=
  ∃ final outs, visitEach visit s.moved code = .ok (final, outs) ∧
    Preserves s.sect.virtualAddress content out code outs

theorem offsetsKept_iff (walks : Walks (s.sect.virtualAddress + headLength s.sect)
    (content.drop (headLength s.sect)) code)
  (lengths : ∀ ins ∈ code, ∀ s result out, visit s ins = .ok (result, out) →
    out.length = ins.bytes.length) (visited : visitEach visit s.moved code = .ok (final, outs)) :
  OffsetsKept visit s content (content.take (headLength s.sect) ++ outs.flatten ++ tail) code ↔
    tail = content.drop (headLength s.sect + codeLength code) := by
  rw [← preserves_iff walks (visitEach_aligned lengths visited)]
  constructor
  · rintro ⟨last, others, again, preserves⟩
    cases visited.symm.trans again
    exact preserves
  intro preserves
  exact ⟨final, outs, visited, preserves⟩

section

variable {decode : List UInt8 → Nat → List Ins}

theorem disassemble_cases (ran : disassemble decode uk s content diffAddr = .ok (result, final, out)) :
  ∃ bt marker, disassembleLoop (uk.moved s.sect) (inDiff s.sect.virtualAddress diffAddr) s.moved
      (decoded decode s.sect content) = .ok (final, bt, marker) ∧
    out = content.take (headLength s.sect) ++ bt ++
      behind content (s.sect.virtualAddress + headLength s.sect) 1 marker := by
  obtain ⟨⟨last, bt, marker⟩, loop, ran⟩ := ok_of_bind ran
  match marker, ran with
  | none, ran =>
    cases ran
    exact ⟨bt, none, loop, (append_nil _).symm⟩
  | some 0, ran =>
    cases ran
    exact ⟨bt, some 0, loop, (append_nil _).symm⟩
  | some (address + 1), ran =>
    cases ran
    exact ⟨bt, some (address + 1), loop, rfl⟩

theorem disassembleNew_cases
  (ran : disassembleNew decode useNewRep uk s content = .ok (result, final, out)) :
  ∃ bt marker, disassembleNewLoop (uk.moved s.sect) useNewRep s.moved
      (decoded decode s.sect content) = .ok (final, bt, marker) ∧
    out = content.take (headLength s.sect) ++ bt ++
      behind content (s.sect.virtualAddress + headLength s.sect) 0 marker := by
  obtain ⟨⟨last, bt, marker⟩, loop, ran⟩ := ok_of_bind ran
  match marker, ran with
  | none, ran =>
    cases ran
    exact ⟨bt, none, loop, (append_nil _).symm⟩
  | some 0, ran =>
    cases ran
    exact ⟨bt, some 0, loop, (append_nil _).symm⟩
  | some (address + 1), ran =>
    cases ran
    exact ⟨bt, some (address + 1), loop, rfl⟩

theorem disassemble_offsetsKept_iff (capstone : Capstone decode)
  (ran : disassemble decode uk s content diffAddr = .ok (result, final, out)) :
  OffsetsKept (visitIns (uk.moved s.sect) (inDiff s.sect.virtualAddress diffAddr)) s content out
      (untilMarker (decoded decode s.sect content)) ↔
    Complete s.sect content (untilMarker (decoded decode s.sect content))
      (((decoded decode s.sect content).find? Ins.isMarker).map Ins.address) := by
  have walks : Walks _ _ (decoded decode s.sect content) := capstone.walks _ _
  obtain ⟨bt, marker, loop, rfl⟩ := disassemble_cases ran
  obtain ⟨visited, rfl⟩ := disassembleLoop_visitAll loop
  obtain ⟨outs, each, rfl⟩ := visitAll_visitEach visited
  have lengths : ∀ ins ∈ untilMarker (decoded decode s.sect content), ∀ t result out,
      visitIns (uk.moved s.sect) (inDiff s.sect.virtualAddress diffAddr) t ins =
        .ok (result, out) → out.length = ins.bytes.length :=
    fun ins member _ _ _ ran =>
      visitIns_length (capstone.lea _ _ ins ((untilMarker_front).mem member)) ran
  have passes := walks.front (untilMarker_front)
  refine (offsetsKept_iff passes lengths each).trans (tail_eq_iff passes fun address stops => ?_)
  obtain ⟨ins, found, place⟩ := Option.map_eq_some_iff.mp stops
  have one := capstone.int1 _ _ ins (mem_of_find?_eq_some found) (find?_some found)
  obtain ⟨_, stop⟩ := marker_address walks found one
  have room := walks_length passes
  rw [length_drop] at room
  omega

theorem disassembleNew_offsetsKept_iff (capstone : Capstone decode)
  (ran : disassembleNew decode useNewRep uk s content = .ok (result, final, out)) :
  OffsetsKept (rewriteInsNew (uk.moved s.sect)) s content out
      (passed useNewRep (decoded decode s.sect content)) ↔
    Complete s.sect content (passed useNewRep (decoded decode s.sect content))
      (stopsAt useNewRep (decoded decode s.sect content)) := by
  have walks : Walks _ _ (decoded decode s.sect content) := capstone.walks _ _
  obtain ⟨bt, marker, loop, rfl⟩ := disassembleNew_cases ran
  obtain ⟨⟨outs, each, rfl⟩, rfl⟩ := disassembleNewLoop_visitEach loop
  have lengths : ∀ ins ∈ passed useNewRep (decoded decode s.sect content), ∀ t result out,
      rewriteInsNew (uk.moved s.sect) t ins = .ok (result, out) → out.length = ins.bytes.length :=
    fun ins member _ _ _ ran =>
      rewriteInsNew_length (capstone.lea _ _ ins ((passed_front _).mem member)) ran
  have passes := walks.front (passed_front useNewRep)
  refine (offsetsKept_iff passes lengths each).trans (tail_eq_iff passes fun address stops => ?_)
  obtain ⟨place, room⟩ := stopsAt_eq walks (capstone.int1 _ _) stops
  rw [length_drop] at room
  omega

end

/-! A decoder that knows two instructions of one byte. -/

def decodeNops : List UInt8 → Nat → List Ins
  | [], _ => []
  | byte :: rest, base =>
    if byte = 0x90 then ⟨base, "nop", "", [byte]⟩ :: decodeNops rest (base + 1)
    else if byte = 0xf1 then ⟨base, "int1", "", [byte]⟩ :: decodeNops rest (base + 1)
    else []

theorem decodeNops_short (member : ins ∈ decodeNops content base) : ∃ byte, ins.bytes = [byte] := by
  induction content generalizing base with
  | nil => cases member
  | cons byte rest ih =>
    rw [decodeNops] at member
    split at member
    · rcases mem_cons.mp member with rfl | later
      · exact ⟨byte, rfl⟩
      · exact ih later
    split at member
    · rcases mem_cons.mp member with rfl | later
      · exact ⟨byte, rfl⟩
      · exact ih later
    · cases member

theorem capstone_decodeNops : Capstone decodeNops where
  walks content base := by
    induction content generalizing base with
    | nil => trivial
    | cons byte rest ih =>
      rw [decodeNops]
      split
      · exact ⟨rfl, ⟨rest, rfl⟩, ih (base + 1)⟩
      split
      · exact ⟨rfl, ⟨rest, rfl⟩, ih (base + 1)⟩
      · trivial
  lea content base ins member lea := by
    obtain ⟨byte, bytes⟩ := decodeNops_short member
    simp [bytes] at lea
  int1 content base ins member _ := by
    obtain ⟨byte, bytes⟩ := decodeNops_short member
    rw [bytes]
    rfl

def nopSection : TextSection := .fresh ⟨".text.libnolibc", 0x100000, 0x100003⟩ 0x300000

def mainText : TextSection := .fresh ⟨".text", 0x100000, 0x109002⟩ 0x300000

theorem rewriting_keeps_offsets (decode : List UInt8 → Nat → List Ins)
  (capstone : Capstone decode) (uk : Unikernel) (s : TextSection) (content : List UInt8) :
  (∀ diffAddr result final out, disassemble decode uk s content diffAddr = .ok (result, final, out) →
      (OffsetsKept (visitIns (uk.moved s.sect) (inDiff s.sect.virtualAddress diffAddr)) s content
          out (untilMarker (decoded decode s.sect content)) ↔
        Complete s.sect content (untilMarker (decoded decode s.sect content))
          (((decoded decode s.sect content).find? Ins.isMarker).map Ins.address))) ∧
  ∀ useNewRep result final out, disassembleNew decode useNewRep uk s content = .ok (result, final, out) →
      (OffsetsKept (rewriteInsNew (uk.moved s.sect)) s content out
          (passed useNewRep (decoded decode s.sect content)) ↔
        Complete s.sect content (passed useNewRep (decoded decode s.sect content))
          (stopsAt useNewRep (decoded decode s.sect content))) :=
  ⟨fun _ _ _ _ ran => disassemble_offsetsKept_iff capstone ran,
    fun _ _ _ _ ran => disassembleNew_offsetsKept_iff capstone ran⟩

theorem rewriting_keeps_offsets_marker : ∃ result final out,
    disassemble decodeNops ⟨[nopSection.sect]⟩ nopSection [0x90, 0xf1, 0x06] [] = .ok (result, final, out) ∧
      OffsetsKept (visitIns ⟨[nopSection.sect]⟩ (inDiff 0x100000 [])) nopSection
        [0x90, 0xf1, 0x06] out (decodeNops [0x90, 0xf1, 0x06] 0x100000) := by
  refine ⟨_, _, _, rfl, ?_⟩
  exact ((rewriting_keeps_offsets decodeNops capstone_decodeNops ⟨[nopSection.sect]⟩ nopSection
    [0x90, 0xf1, 0x06]).1 [] _ _ _ rfl).mpr (by decide : nopSection.sect.name ≠ ".text")

theorem mainText_doubles (head : List UInt8) (size : head.length = 0x9000) : ∃ result final,
    disassemble decodeNops ⟨[mainText.sect]⟩ mainText (head ++ [0xf1, 0x06]) [] =
      .ok (result, final, head ++ [0xf1] ++ (head ++ [0xf1, 0x06]).drop 1) := by
  have name : mainText.sect.name = ".text" := rfl
  have front : (head ++ [0xf1, 0x06]).take 0x9000 = head := by rw [← size, take_left]
  have rest : (head ++ [0xf1, 0x06]).drop 0x9000 = [0xf1, 0x06] := by rw [← size, drop_left]
  unfold disassemble
  simp only [name, ↓reduceIte, front, rest]
  exact ⟨_, _, rfl⟩

/-- Bytes behind an undecodable one are dropped, and behind a marker in `.text` the head is
copied again. -/
theorem tail_lost_or_doubled :
  (∃ result final, disassemble decodeNops ⟨[nopSection.sect]⟩ nopSection [0x90, 0x06, 0x90] [] =
    .ok (result, final, [0x90])) ∧
  (∃ result final, disassembleNew decodeNops true ⟨[nopSection.sect]⟩ nopSection
    [0x90, 0x06, 0x90] = .ok (result, final, [0x90])) ∧
  ∃ result final out, disassemble decodeNops ⟨[mainText.sect]⟩ mainText
      (List.replicate 0x9000 0x90 ++ [0xf1, 0x06]) [] = .ok (result, final, out) ∧
    out.length = (List.replicate 0x9000 (0x90 : UInt8) ++ [0xf1, 0x06]).length + 0x9000 := by
  refine ⟨⟨_, _, rfl⟩, ⟨_, _, rfl⟩, ?_⟩
  obtain ⟨result, final, ran⟩ := mainText_doubles (List.replicate 0x9000 0x90) length_replicate
  refine ⟨result, final, _, ran, ?_⟩
  simp only [length_append, length_drop, length_replicate, length_cons, length_nil]

end Spacer.Rewriter
