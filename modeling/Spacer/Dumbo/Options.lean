import Spacer.Dumbo.Phases

/-! The walk over the options of a TCP header. -/

namespace Spacer.Dumbo

open List

/-- Well formed options, and the value of the first MSS option among them. -/
inductive OptionList : List UInt8 → Option UInt16 → Prop
  | stop : OptionList [] none
  | eol : OptionList (0 :: padding) none
  | nop : OptionList rest first → OptionList (1 :: rest) first
  | mss : OptionList (2 :: 4 :: high :: low :: rest) (some (high.toUInt16 * 256 + low.toUInt16))
  | other : 2 < kind → len.toNat = data.length + 2 → OptionList rest first →
    OptionList (kind :: len :: (data ++ rest)) first

/-- An option starts at the second list when the lengths in the first one are followed. -/
inductive Reached : List UInt8 → List UInt8 → Prop
  | here : Reached options options
  | nop : Reached rest left → Reached (1 :: rest) left
  | other : 2 < kind → Reached ((kind :: len :: rest).drop len.toNat) left →
    Reached (kind :: len :: rest) left

/-- Every unknown option with four bytes or more to the end has a length. -/
def Passable (options : List UInt8) : Prop :=
  ∀ kind rest, Reached options (kind :: 0 :: rest) → 2 ≤ rest.length → kind ≤ 2

def mssResult : Option UInt16 → Except TcpSegmentError (Option UInt16)
  | none => .ok none
  | some mss => if mss < mssMin then .error .mssOption else .ok (some mss)

variable {kind len : UInt8}

theorem Reached.length_le (reached : Reached options left) : left.length ≤ options.length := by
  induction reached with
  | here => exact Nat.le_refl _
  | nop _ ih => exact Nat.le_succ_of_le ih
  | other _ _ ih =>
    rw [length_drop] at ih
    omega

theorem unknown_iff : 2 < kind ↔ kind ≠ 0 ∧ kind ≠ 1 ∧ kind ≠ 2 := by
  simp only [ne_eq, ← UInt8.toNat_inj, UInt8.lt_iff_toNat_lt, UInt8.reduceToNat]
  omega

theorem findMssOption_skip (options : List UInt8) :
  findMssOption skip options = findMssOption 0 (options.drop skip) := by
  induction skip generalizing options with
  | zero => rfl
  | succ skip ih =>
    cases options with
    | nil => rfl
    | cons _ rest => exact ih rest

theorem findMssOption_short (short : options.length < 4) : findMssOption 0 options = .ok (.ok none) := by
  match options, short with
  | [], _ => rfl
  | [_], _ => rfl
  | [_, _], _ => rfl
  | [_, _, _], _ => rfl
  | _ :: _ :: _ :: _ :: rest, short =>
    simp only [length_cons] at short
    omega

theorem findMssOption_nop (long : 3 ≤ rest.length) :
  findMssOption 0 (1 :: rest) = findMssOption 0 rest := by
  match rest, long with
  | _ :: _ :: _ :: _, _ => rfl

theorem findMssOption_other (unknown : 2 < kind) (long : 2 ≤ rest.length) :
  findMssOption 0 (kind :: len :: rest) =
    if len = 0 then .error .hang
    else findMssOption 0 ((kind :: len :: rest).drop len.toNat) := by
  obtain ⟨eol, nop, mss⟩ := unknown_iff.mp unknown
  match rest, long with
  | _ :: _ :: _, _ =>
    rw [findMssOption, if_neg eol, if_neg nop, if_neg mss]
    split
    · rfl
    rename_i positive
    rw [← UInt8.toNat_inj] at positive
    obtain ⟨more, value⟩ := Nat.exists_eq_succ_of_ne_zero positive
    rw [value, findMssOption_skip]
    rfl

theorem findMssOption_stuck (unknown : 2 < kind) (long : 2 ≤ rest.length)
  (reached : Reached options (kind :: 0 :: rest)) : findMssOption 0 options = .error .hang := by
  generalize place : kind :: 0 :: rest = left at reached
  induction reached with
  | here =>
    rw [← place, findMssOption_other unknown long]
    rfl
  | @nop more left reached ih =>
    have length := reached.length_le
    simp only [← place, length_cons] at length
    rw [findMssOption_nop (by omega)]
    exact ih place
  | @other kind' len more left unknown' reached ih =>
    have length := reached.length_le
    simp only [← place, length_drop, length_cons] at length
    rw [findMssOption_other unknown' (by omega), ih place]
    split <;> rfl

theorem findMssOption_returns (skip : Nat) (passable : Passable (options.drop skip)) :
  ∃ result, findMssOption skip options = .ok result := by
  fun_induction findMssOption skip options with
  | case1 | case3 | case5 | case8 => exact ⟨_, rfl⟩
  | case2 skip first rest ih => exact ih passable
  | case4 len high low rest _ ih =>
    exact ih fun kind rest reached => passable kind rest (.nop reached)
  | case6 kind high low rest eol nop mss =>
    have known := passable kind _ .here (Nat.le_add_left _ _)
    exact absurd (unknown_iff.mpr ⟨eol, nop, mss⟩) (UInt8.not_lt.mpr known)
  | case7 kind len high low rest eol nop mss positive ih =>
    apply ih
    rw [← UInt8.toNat_inj] at positive
    obtain ⟨more, value⟩ := Nat.exists_eq_succ_of_ne_zero positive
    intro other rest reached
    refine passable other rest (.other (unknown_iff.mpr ⟨eol, nop, mss⟩) ?_)
    rw [value] at reached ⊢
    exact reached

theorem OptionList.returned (listed : OptionList options first) :
  findMssOption 0 options = .ok (mssResult first) := by
  induction listed with
  | stop => rfl
  | @eol padding =>
    match padding with
    | [] => rfl
    | [_] => rfl
    | [_, _] => rfl
    | _ :: _ :: _ :: _ => rfl
  | mss => rfl
  | @nop rest first _ ih =>
    by_cases long : 3 ≤ rest.length
    · rw [findMssOption_nop long]
      exact ih
    rw [findMssOption_short (by simp only [length_cons]; omega), ← ih,
      findMssOption_short (by omega)]
  | @other kind rest first len data unknown length _ ih =>
    have positive : len ≠ 0 := by
      rintro rfl
      cases length
    have passed : (kind :: len :: (data ++ rest)).drop len.toNat = rest := by
      rw [length, drop_succ_cons, drop_succ_cons, drop_left]
    by_cases long : 2 ≤ (data ++ rest).length
    · rw [findMssOption_other unknown long, if_neg positive, passed]
      exact ih
    rw [findMssOption_short (by simp only [length_cons]; omega), ← ih]
    rw [length_append] at long
    rw [findMssOption_short (by omega)]

/-- The parser comes back on every header, and from well formed options with the value of their
first MSS option, or the error for a small one, exactly when no unknown option of length 0 is
reached. -/
theorem mss_option_parsed_iff (segment : TcpSegment) : ((∃ result, segment.parseMssOption = .ok result) ∧
    ∀ first, OptionList segment.options first →
      segment.parseMssOption = .ok (mssResult first)) ↔ Passable segment.options := by
  refine ⟨?_, fun passable => ⟨findMssOption_returns 0 passable, fun first => OptionList.returned⟩⟩
  rintro ⟨⟨result, ended⟩, _⟩ kind rest reached long
  refine UInt8.not_lt.mp fun unknown => ?_
  rw [TcpSegment.parseMssOption, findMssOption_stuck unknown long reached] at ended
  cases ended

/-- A SYN with four bytes of options: an unknown kind, and its length 0. -/
def stuckHeader : List UInt8 :=
  [0, 1, 0, 80, 0, 0, 0, 1, 0, 0, 0, 0, 0x60, 2, 0, 0, 0, 0, 0, 0, 254, 0, 0, 0]

theorem mss_option_never_passed : ∃ segment, TcpSegment.fromBytes stuckHeader = .ok segment ∧
    segment.flags.syn = true ∧ segment.parseMssOption = .error .hang :=
  ⟨_, rfl, rfl, rfl⟩

end Spacer.Dumbo
