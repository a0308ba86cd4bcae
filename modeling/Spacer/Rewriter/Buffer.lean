import Mathlib
import Spacer.Lib.Text
import Spacer.Rewriter.Stubs

/-!
The stub buffer on its own: sequences of `sectionInd` operations, and the relocation of a
RIP-relative instruction.
-/

namespace Spacer.Rewriter

open Lib List

/-! RIP-relative instructions as Capstone prints them. -/

def ripOperand (displacement : Int) : List Char :=
  "rip ".toList ++ (if displacement < 0 then '-' else '+') :: ' ' :: '0' :: 'x' ::
    hexChars displacement.natAbs

structure RipIns where
  address : Nat
  mnemonic : String
  before : List Char
  after : List Char
  front : List UInt8
  displacement : Int
  back : List UInt8
  fits : Fits32 displacement
  wide : 16 ≤ displacement.natAbs
  plain : ¬"rip".toList <:+: before

variable (ins : RipIns)

def RipIns.toIns : Ins where
  address := ins.address
  mnemonic := ins.mnemonic
  opStr := String.ofList (ins.before ++ '[' :: (ripOperand ins.displacement ++ ']' :: ins.after))
  bytes := ins.front ++ signedBytes ins.displacement ++ ins.back

theorem signedOperand_ripOperand (wide : 16 ≤ displacement.natAbs) (rest : List Char) :
  signedOperand ((ripOperand displacement ++ ']' :: rest).drop 3) = some displacement := by
  have digits := hexLiteral_hexChars (two_le_length_hexChars wide) (by decide : hexDigit ']' = none) rest
  have blank : Char.isWhitespace ' ' = true := by decide
  have zero : Char.isWhitespace '0' = false := by decide
  by_cases negative : displacement < 0
  · have minus : Char.isWhitespace '-' = false := by decide
    simp [ripOperand, negative, signedOperand, blank, minus, zero, digits, ofHex_hexChars,
      abs_of_neg negative]
  have plus : Char.isWhitespace '+' = false := by decide
  simp [ripOperand, negative, signedOperand, blank, plus, zero, digits, ofHex_hexChars,
    abs_of_nonneg (Int.not_lt.mp negative)]

theorem ripDisplacement_skip (plain : ¬"rip".toList <:+: before) :
  ripDisplacement (before ++ '[' :: rest) = ripDisplacement rest := by
  induction before with
  | nil => rfl
  | cons first more ih =>
    have later : ¬"rip".toList <:+: more := fun inside =>
      plain (inside.trans (suffix_cons first more).isInfix)
    have here : ¬"rip".toList <+: first :: more ++ '[' :: rest := fun start =>
      plain (prefix_of_prefix_sep (by decide) start).isInfix
    rw [← isPrefixOf_iff_prefix] at here
    rw [cons_append] at here
    rw [cons_append, ripDisplacement, if_neg here]
    exact ih later

theorem RipIns.displacement_found : ripDisplacement ins.toIns.opStr.toList = some ins.displacement := by
  have operand := signedOperand_ripOperand ins.wide ins.after
  rw [RipIns.toIns, String.toList_ofList, ripDisplacement_skip ins.plain]
  exact congrArg (Option.orElse · _) operand

variable {front back : List UInt8}

theorem findBytes_le (found : findBytes needle (front ++ needle ++ back) = some index) :
  index ≤ front.length := by
  induction front generalizing index with
  | nil =>
    cases needle with
    | nil =>
      cases back with
      | nil => cases found
      | cons first rest =>
        cases found
        exact Nat.le_refl _
    | cons first rest =>
      have here : (first :: rest).isPrefixOf (first :: (rest ++ back)) = true := by
        rw [ isPrefixOf_iff_prefix]
        exact ⟨back, rfl⟩
      simp only [nil_append, cons_append, findBytes, here, ↓reduceIte] at found
      cases found
      exact Nat.le_refl _
  | cons first rest ih =>
    simp only [cons_append, findBytes] at found
    split at found
    · cases found
      exact Nat.zero_le _
    obtain ⟨later, atLater, rfl⟩ := Option.map_eq_some_iff.mp found
    have bound := ih atLater
    rw [length_cons]
    omega

theorem getElem?_field (inside : position < field.length) :
  (front ++ field ++ back)[front.length + position]? = field[position]? := by
  rw [append_assoc, getElem?_append_right (by omega),
    getElem?_append_left (by omega), Nat.add_sub_cancel_left]

theorem getElem?_front (inside : position < front.length) :
  (front ++ field ++ back)[position]? = front[position]? := by
  rw [append_assoc, getElem?_append_left inside]

theorem overwritten_early (field : bytes = front ++ previous ++ back)
  (copy : bytes = early ++ previous ++ late) (before : early.length < front.length)
  (same : offset.length = previous.length)
  (written : early ++ offset ++ late = front ++ offset ++ back) : offset = previous := by
  -- by induction on the position: what stands there was compared or written earlier
  have agree : ∀ position, position < previous.length → offset[position]? = previous[position]? := by
    intro position
    induction position using Nat.strongRecOn with
    | ind position ih =>
      intro inside
      have atCopy : bytes[early.length + position]? = previous[position]? := by
        rw [copy]
        exact getElem?_field inside
      have atWritten : (front ++ offset ++ back)[early.length + position]? =
          offset[position]? := by
        rw [← written]
        exact getElem?_field (by omega)
      rw [← atWritten, ← atCopy, field]
      by_cases outside : early.length + position < front.length
      · rw [getElem?_front outside, getElem?_front outside]
      obtain ⟨rest, place⟩ : ∃ rest, early.length + position = front.length + rest :=
        ⟨early.length + position - front.length, by omega⟩
      rw [place, getElem?_field (by omega), getElem?_field (by omega)]
      exact ih rest (by omega) (by omega)
  refine ext_getElem? fun position => ?_
  by_cases inside : position < previous.length
  · exact agree position inside
  · rw [getElem?_eq_none (by omega), getElem?_eq_none (by omega)]

theorem relocate_eq_iff (nonempty : previous ≠ []) (same : offset.length = previous.length) :
  relocate (front ++ previous ++ back) previous offset = front ++ offset ++ back ↔
    findBytes previous (front ++ previous ++ back) = some front.length ∨ offset = previous := by
  obtain ⟨index, found⟩ := findBytes_isSome nonempty
    (⟨front, back, rfl⟩ : previous <:+: front ++ previous ++ back)
  obtain ⟨early, late, copy, rfl⟩ := findBytes_eq_some found
  have relocated : relocate (front ++ previous ++ back) previous offset = early ++ offset ++ late := by
    rw [copy] at found ⊢
    exact relocate_field found
  rw [relocated, found]
  constructor
  · intro written
    by_cases here : early.length = front.length
    · exact .inl (congrArg some here)
    have before : early.length < front.length := by
      have bound := findBytes_le found
      omega
    exact .inr (overwritten_early rfl copy before same written)
  rintro (here | rfl)
  · have lengths : early.length = front.length := Option.some.inj here
    rw [append_assoc, append_assoc] at copy
    obtain ⟨rfl, rest⟩ := append_inj copy lengths.symm
    rw [append_cancel_left rest]
  · exact copy.symm

inductive IndOp
  | addIndBytes (nextAddr currentAddr : Nat) (insBytes : List UInt8) (five : insBytes.length = 5)
  | addIndBytesBigger (insBytes : List UInt8)
  | addIndBytesBiggerJMP (currentAddr : Nat) (insBytes : List UInt8)
  | addIndBytesBiggerRip (ins : RipIns)

structure IndCall where
  op : IndOp
  optimizedSuit : Nat

def IndCall.apply (call : IndCall) (ind : SectionInd) : Except PyError SectionInd :=
  match call.op with
  | .addIndBytes nextAddr currentAddr insBytes _ =>
    ind.addIndBytes nextAddr currentAddr insBytes call.optimizedSuit
  | .addIndBytesBigger insBytes => .ok (ind.addIndBytesBigger insBytes call.optimizedSuit)
  | .addIndBytesBiggerJMP currentAddr insBytes =>
    ind.addIndBytesBiggerJMP currentAddr insBytes call.optimizedSuit
  | .addIndBytesBiggerRip ins => ind.addIndBytesBiggerRip ins.toIns call.optimizedSuit

def applyAll : SectionInd → List IndCall → Except PyError SectionInd
  | ind, [] => .ok ind
  | ind, call :: rest => do
    let ind ← call.apply ind
    applyAll ind rest

def Appends (ind result : SectionInd) : Prop :=
  ∃ more, more ≠ [] ∧ result = ind.extend more

theorem appends_ret : Appends ind ((ind.extend bytes).addInsBytesRet op) :=
  ⟨bytes ++ [op], by simp, SectionInd.extend_extend⟩

variable {ind result : SectionInd}

theorem appends_jump (added : (ind.extend bytes).addInsBytes op addr offset = .ok result) :
  Appends ind result := by
  obtain ⟨_, rfl⟩ := SectionInd.addInsBytes_eq_ok added
  exact ⟨_, by simp, SectionInd.extend_extend⟩

theorem extend_nil (ind : SectionInd) : ind.extend [] = ind := by simp [SectionInd.extend]

theorem appends_addIndBytes
  (added : ind.addIndBytes nextAddr currentAddr insBytes optimizedSuit = .ok result) :
  Appends (ind.optimize optimizedSuit) result := by
  unfold SectionInd.addIndBytes at added
  cases insBytes with
  | nil => cases added
  | cons op field =>
    dsimp only at added
    split at added
    · rw [← extend_nil (ind.optimize optimizedSuit)] at added
      exact appends_jump added
    split at added
    · exact appends_jump added
    split at added
    · obtain ⟨middle, first, finished⟩ := ok_of_bind added
      obtain ⟨_, rfl⟩ := SectionInd.addInsBytes_eq_ok first
      cases finished
      exact appends_ret
    cases added
    exact appends_ret

theorem addIndBytesBiggerRip_eq : ind.addIndBytesBiggerRip ins.toIns optimizedSuit =
    let ind := ind.optimize optimizedSuit
    let offset := ins.address + ins.displacement - ind.addr
    if Fits32 offset then
      .ok (ind.extend (relocate ins.toIns.bytes (signedBytes ins.displacement)
        (signedBytes offset) ++ [0xc3]))
    else .error .overflowError := by
  have nonempty : signedBytes ins.displacement ≠ [] :=
    ne_nil_of_length_pos (by simp)
  have length := fun offset : Int => relocate_length (signedBytes offset) nonempty
    (⟨ins.front, ins.back, rfl⟩ : signedBytes ins.displacement <:+: ins.toIns.bytes) (by simp)
  simp only [SectionInd.addIndBytesBiggerRip, ins.displacement_found, toSignedBytes, ins.fits, ↓reduceIte]
  by_cases near : Fits32 (ins.address + ins.displacement - (ind.optimize optimizedSuit).addr)
  · have address : ins.toIns.address = ins.address := rfl
    simp only [address, near, ↓reduceIte]
    simp [bind, Except.bind, pure, Except.pure, SectionInd.addInsBytesRet, SectionInd.extend,
      length, Int.add_assoc]
  have address : ins.toIns.address = ins.address := rfl
  simp only [address, near, ↓reduceIte]
  rfl

theorem IndCall.appends {call : IndCall} (added : call.apply ind = .ok result) :
  Appends (ind.optimize call.optimizedSuit) result := by
  unfold IndCall.apply at added
  split at added
  · exact appends_addIndBytes added
  · cases added
    exact appends_ret
  · exact appends_jump added
  rw [addIndBytesBiggerRip_eq] at added
  dsimp only at added
  split at added
  · cases added
    exact ⟨_, by simp, rfl⟩
  · cases added

def Placed (start : Int) (ind : SectionInd) : Prop := ind.addr = start + ind.bt.length

theorem Appends.placed (appends : Appends ind result) (placed : Placed start ind) :
  Placed start result := by
  obtain ⟨more, _, rfl⟩ := appends
  unfold Placed at *
  simp only [SectionInd.extend, length_append]
  omega

theorem Appends.filled (appends : Appends ind result) : result.bt ≠ [] := by
  obtain ⟨more, nonempty, rfl⟩ := appends
  simp [SectionInd.extend, nonempty]

theorem placed_optimize (placed : Placed start ind) (safe : optimizedSuit = 0 ∨ ind.bt ≠ []) :
  Placed start (ind.optimize optimizedSuit) := by
  unfold SectionInd.optimize
  split
  · rename_i cuts
    have filled := length_pos_iff.mpr (safe.resolve_left (by omega))
    unfold Placed at *
    simp only [SectionInd.optimizeAddrs, length_dropLast]
    omega
  · exact placed

theorem applyAll_placed {start : Int} (placed : Placed start ind) (filled : ind.bt ≠ [])
  (ran : applyAll ind calls = .ok result) : Placed start result := by
  induction calls generalizing ind with
  | nil =>
    cases ran
    exact placed
  | cons call rest ih =>
    obtain ⟨middle, first, ran⟩ := ok_of_bind ran
    have appends := IndCall.appends first
    exact ih (appends.placed (placed_optimize placed (.inr filled))) appends.filled ran

theorem not_placed_optimize_new (cuts : optimizedSuit ≠ 0)
  (appends : Appends ((SectionInd.new start).optimize optimizedSuit) result) : ¬Placed start result := by
  obtain ⟨more, _, rfl⟩ := appends
  have positive : 0 < optimizedSuit := Nat.pos_of_ne_zero cuts
  intro placed
  simp [Placed, SectionInd.extend, SectionInd.optimize, SectionInd.optimizeAddrs, SectionInd.new,
    positive] at placed

theorem applyAll_placed_iff (start : Int) {calls : List IndCall}
  (ran : applyAll (.new start) calls = .ok result) :
  (∀ done, done <+: calls → ∀ ind, applyAll (.new start) done = .ok ind → Placed start ind) ↔
    ∀ call ∈ calls.head?, call.optimizedSuit = 0 := by
  have fresh : Placed start (.new start) := by simp [Placed, SectionInd.new]
  cases calls with
  | nil =>
    constructor
    · intro _ call member
      cases member
    intro _ done short ind reached
    cases prefix_nil.mp short
    cases reached
    exact fresh
  | cons call rest =>
    obtain ⟨middle, first, _⟩ := ok_of_bind ran
    have appends := IndCall.appends first
    constructor
    · intro always other member
      cases member
      by_contra cuts
      refine not_placed_optimize_new cuts appends (always [call] ⟨rest, rfl⟩ middle ?_)
      rw [applyAll, first]
      rfl
    intro kept done short ind reached
    have whole := kept call rfl
    cases done with
    | nil =>
      cases reached
      exact fresh
    | cons head tail =>
      obtain ⟨rfl, _⟩ := cons_prefix_cons.mp short
      obtain ⟨next, taken, reached⟩ := ok_of_bind reached
      have appends := IndCall.appends taken
      exact applyAll_placed (appends.placed (placed_optimize fresh (.inl whole))) appends.filled reached

/-- What stands in the buffer after a RIP-relative instruction: the same instruction with
another displacement, for the same effective address, and a return. -/
def Relocates (ins : RipIns) (ind : SectionInd) (optimizedSuit : Nat) : Prop :=
  ∃ result moved, ind.addIndBytesBiggerRip ins.toIns optimizedSuit = .ok result ∧ Fits32 moved ∧
    result.bt = (ind.optimize optimizedSuit).bt ++ (ins.front ++ signedBytes moved ++ ins.back) ++ [0xc3] ∧
    (ind.optimize optimizedSuit).addr + ins.toIns.bytes.length + moved =
      ins.address + ins.toIns.bytes.length + ins.displacement

theorem relocates_iff : Relocates ins ind optimizedSuit ↔
    Fits32 (ins.address + ins.displacement - (ind.optimize optimizedSuit).addr) ∧
      (findBytes (signedBytes ins.displacement) ins.toIns.bytes = some ins.front.length ∨
        (ins.address : Int) = (ind.optimize optimizedSuit).addr) := by
  have nonempty : signedBytes ins.displacement ≠ [] := ne_nil_of_length_pos (by simp)
  have bytes : ins.toIns.bytes = ins.front ++ signedBytes ins.displacement ++ ins.back := rfl
  have exactly (offset : Int) :
      relocate ins.toIns.bytes (signedBytes ins.displacement) (signedBytes offset) =
          ins.front ++ signedBytes offset ++ ins.back ↔
        findBytes (signedBytes ins.displacement) ins.toIns.bytes = some ins.front.length ∨
          signedBytes offset = signedBytes ins.displacement := by
    rw [bytes]
    exact relocate_eq_iff nonempty (by simp)
  unfold Relocates
  rw [addIndBytesBiggerRip_eq]
  generalize ind.optimize optimizedSuit = cut
  constructor
  · rintro ⟨result, moved, emitted, _, placed, effective⟩
    dsimp only at emitted
    split at emitted
    · rename_i fits
      refine ⟨fits, ?_⟩
      cases emitted
      cases (by omega : moved = ins.address + ins.displacement - cut.addr)
      rw [SectionInd.extend, ← append_assoc, append_cancel_right_eq, append_cancel_left_eq] at placed
      refine ((exactly _).mp placed).imp_right fun unchanged => ?_
      have offsets := signedBytes_injective fits ins.fits unchanged
      omega
    · cases emitted
  rintro ⟨fits, found⟩
  have written : relocate ins.toIns.bytes (signedBytes ins.displacement)
      (signedBytes (ins.address + ins.displacement - cut.addr)) =
        ins.front ++ signedBytes (ins.address + ins.displacement - cut.addr) ++ ins.back := by
    refine (exactly _).mpr (found.imp_right fun here => ?_)
    exact congrArg signedBytes (by omega)
  refine ⟨_, ins.address + ins.displacement - cut.addr, if_pos fits, fits, ?_, by omega⟩
  rw [written, SectionInd.extend, ← append_assoc]

theorem load_operand_plain : ¬"rip".toList <:+: "rax, qword ptr ".toList := by decide

/-- `mov rax, qword ptr [rip + displacement]`. -/
def ripLoad (displacement : Int) (fits : Fits32 displacement)
  (wide : 16 ≤ displacement.natAbs) : RipIns where
  address := 0x100000
  mnemonic := "mov"
  before := "rax, qword ptr ".toList
  after := []
  front := [0x48, 0x8b, 0x05]
  displacement := displacement
  back := []
  fits := fits
  wide := wide
  plain := load_operand_plain

theorem nearLoad_fits : Fits32 (-0x2010) ∧ 16 ≤ (-0x2010 : Int).natAbs := by decide

def nearLoad : RipIns := ripLoad (-0x2010) nearLoad_fits.1 nearLoad_fits.2

theorem overlappingLoad_fits : Fits32 0x05050505 ∧ 16 ≤ (0x05050505 : Int).natAbs := by decide

def overlappingLoad : RipIns := ripLoad 0x05050505 overlappingLoad_fits.1 overlappingLoad_fits.2

theorem stub_buffer_exact (start : Int) : (∀ calls result, applyAll (.new start) calls = .ok result →
    ((∀ done, done <+: calls → ∀ ind, applyAll (.new start) done = .ok ind → Placed start ind) ↔
      ∀ call ∈ calls.head?, call.optimizedSuit = 0)) ∧
  ∀ (ins : RipIns) (ind : SectionInd) (optimizedSuit : Nat), Relocates ins ind optimizedSuit ↔
      Fits32 (ins.address + ins.displacement - (ind.optimize optimizedSuit).addr) ∧
        (findBytes (signedBytes ins.displacement) ins.toIns.bytes = some ins.front.length ∨
          (ins.address : Int) = (ind.optimize optimizedSuit).addr) :=
  ⟨fun _ _ ran => applyAll_placed_iff start ran, relocates_iff⟩

theorem stub_buffer_exact_load :
  (∀ ind, applyAll (.new 0x300000) [⟨.addIndBytesBigger [0x48, 0x89, 0xe5], 0⟩,
      ⟨.addIndBytesBigger [0x48, 0x89, 0xc7], 1⟩] = .ok ind → Placed 0x300000 ind) ∧
    Relocates nearLoad (.new 0x300000) 0 := by
  constructor
  · intro ind reached
    refine ((stub_buffer_exact 0x300000).1 _ _ reached).mpr ?_ _ (prefix_refl _) ind reached
    intro call member
    cases member
    rfl
  · exact ((stub_buffer_exact 0).2 _ _ _).mpr ⟨by decide, .inl (by decide)⟩

/-- A first operation that cuts a byte off, and a displacement whose bytes begin with the
ModRM byte in front of it: the field is written one byte early. -/
theorem load_relocated_early :
  (∃ ind, applyAll (.new 0x300000) [⟨.addIndBytesBigger [0x48, 0x89, 0xe5], 1⟩] = .ok ind ∧
    ind.addr = 0x300003 ∧ ind.bt.length = 4) ∧
  (∃ ind, (SectionInd.new 0x300000).addIndBytesBiggerRip overlappingLoad.toIns 0 = .ok ind ∧
    ind.bt = [0x48, 0x8b, 0x05, 0x05, 0xe5, 0x04, 0x05, 0xc3]) ∧
  ¬Relocates overlappingLoad (.new 0x300000) 0 := by
  refine ⟨⟨_, rfl, rfl, rfl⟩,
    ⟨⟨0x300000, 0x300008, [0x48, 0x8b, 0x05, 0x05, 0xe5, 0x04, 0x05, 0xc3]⟩, ?_, rfl⟩, ?_⟩
  · decide +kernel
  rw [relocates_iff]
  rintro ⟨_, found | here⟩
  · exact absurd found (by decide)
  · exact absurd here (by decide)

end Spacer.Rewriter
