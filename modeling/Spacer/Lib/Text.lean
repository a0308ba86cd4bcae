import Spacer.Lib.Python

/-! Texts made of lines. -/

namespace Spacer.Lib

section

variable {α : Type}

theorem prefix_of_prefix_sep (clean : sep ∉ needle) (start : needle <+: left ++ sep :: right) :
  needle <+: left := by
  obtain ⟨rest, split⟩ := start
  rcases List.append_eq_append_iff.mp split with ⟨more, same, _⟩ | ⟨more, same, tail⟩
  · exact ⟨more, same.symm⟩
  cases more with
  | nil => exact ⟨[], by simpa using same⟩
  | cons first others =>
    simp only [List.cons_append, List.cons.injEq] at tail
    obtain ⟨rfl, _⟩ := tail
    exact absurd (by simp [same]) clean

theorem infix_of_infix_sep (clean : sep ∉ needle) (within : needle <:+: left ++ sep :: right) :
  needle <:+: left ∨ needle <:+: right := by
  induction left with
  | nil =>
    rcases List.infix_cons_iff.mp within with start | inside
    · have empty : needle <+: [] := prefix_of_prefix_sep clean start
      exact .inl empty.isInfix
    · exact .inr inside
  | cons first rest ih =>
    rcases List.infix_cons_iff.mp within with start | inside
    · exact .inl (prefix_of_prefix_sep clean start).isInfix
    rcases ih inside with before | after
    · exact .inl (before.trans (List.suffix_cons first rest).isInfix)
    · exact .inr after

end

def renderLines (lines : List String) : List Char :=
  lines.flatMap fun line => line.toList ++ ['\n']

/-- `line1 + "\n" + line2 + "\n" + ...`. -/
def joinLines (lines : List String) : String := String.ofList (renderLines lines)

theorem renderLines_append : renderLines (left ++ right) = renderLines left ++ renderLines right :=
  List.flatMap_append

theorem infix_renderLines (clean : '\n' ∉ needle) (filled : needle ≠ []) (lines : List String)
  (within : needle <:+: renderLines lines) : ∃ line ∈ lines, needle <:+: line.toList := by
  induction lines with
  | nil => exact absurd (List.infix_nil.mp within) filled
  | cons line rest ih =>
    have split : renderLines (line :: rest) = line.toList ++ '\n' :: renderLines rest := by
      simp [renderLines]
    rw [split] at within
    rcases infix_of_infix_sep clean within with here | later
    · exact ⟨line, by simp, here⟩
    obtain ⟨other, member, inside⟩ := ih later
    exact ⟨other, List.mem_cons_of_mem _ member, inside⟩

theorem replaceChars_clean (needle new text : List Char)
  (absent : ¬needle <:+: text) : replaceChars needle new 0 text = text := by
  induction text with
  | nil => rfl
  | cons first rest ih =>
    have here : needle.isPrefixOf (first :: rest) = false := by
      rw [Bool.eq_false_iff, Ne, List.isPrefixOf_iff_prefix]
      exact fun start => absent start.isInfix
    have later : ¬needle <:+: rest := fun inside =>
      absent (inside.trans (List.suffix_cons first rest).isInfix)
    simp [replaceChars, here, ih later]

theorem replaceChars_front (none : ∀ tail, tail ≠ [] → tail <:+ before → ¬needle <+: tail ++ rest) :
  replaceChars needle new 0 (before ++ rest) = before ++ replaceChars needle new 0 rest := by
  induction before with
  | nil => rfl
  | cons first others ih =>
    have here : needle.isPrefixOf (first :: (others ++ rest)) = false := by
      rw [Bool.eq_false_iff, Ne, List.isPrefixOf_iff_prefix]
      exact none (first :: others) (by simp) (List.suffix_refl _)
    have later := ih fun tail filled ends =>
      none tail filled (ends.trans (List.suffix_cons first others))
    simp [replaceChars, here, later]

theorem replaceChars_skip (needle new skipped rest : List Char) :
  replaceChars needle new skipped.length (skipped ++ rest) = replaceChars needle new 0 rest := by
  induction skipped with
  | nil => rfl
  | cons first others ih => simpa [replaceChars] using ih

theorem replaceChars_match (first : Char) (tail new rest : List Char) :
  replaceChars (first :: tail) new 0 (first :: tail ++ rest) =
    new ++ replaceChars (first :: tail) new 0 rest := by
  have starts : (first :: tail).isPrefixOf (first :: (tail ++ rest)) = true := by
    rw [List.isPrefixOf_iff_prefix]
    exact ⟨rest, rfl⟩
  have skipped := replaceChars_skip (first :: tail) new tail rest
  simp only [List.cons_append, replaceChars, starts]
  simpa using skipped

theorem replaceChars_block (tail : List Char) (clean : '\n' ∉ head :: first)
  (notBefore : ∀ line ∈ before, ¬head :: first <:+: line.toList)
  (notAfter : ¬head :: first <:+: after) :
  replaceChars (head :: first ++ '\n' :: tail) [] 0
      (renderLines before ++ (head :: first ++ '\n' :: tail ++ after)) =
    renderLines before ++ after := by
  rw [replaceChars_front]
  · have matched := replaceChars_match head (first ++ '\n' :: tail) [] after
    have kept := replaceChars_clean (head :: (first ++ '\n' :: tail)) [] after fun inside => notAfter
        ((List.prefix_append (head :: first) ('\n' :: tail)).isInfix.trans inside)
    simp only [List.cons_append] at matched ⊢
    rw [matched, kept, List.nil_append]
  intro text filled ends start
  -- a suffix of whole lines ends with a line break, which the first line lacks
  obtain ⟨lines, broken⟩ : ∃ lines, text = lines ++ ['\n'] := by
    have last : ∃ lines, renderLines before = lines ++ ['\n'] := by
      rcases List.eq_nil_or_concat before with rfl | ⟨init, line, rfl⟩
      · exact absurd (List.suffix_nil.mp ends) filled
      · exact ⟨renderLines init ++ line.toList, by simp [renderLines]⟩
    obtain ⟨lines, whole⟩ := last
    obtain ⟨front, same⟩ := ends
    rcases List.eq_nil_or_concat text with rfl | ⟨init, char, rfl⟩
    · exact absurd rfl filled
    rw [whole, List.concat_eq_append, ← List.append_assoc] at same
    have both := List.append_inj' same rfl
    simp only [List.cons.injEq, and_true] at both
    exact ⟨init, by simp [both.2]⟩
  subst broken
  have short : head :: first <+: lines ++ '\n' :: (head :: first ++ '\n' :: tail ++ after) := by
    refine (List.prefix_append (head :: first) ('\n' :: tail)).trans ?_
    simpa using start
  have inside : head :: first <:+: renderLines before :=
    (prefix_of_prefix_sep clean short).isInfix.trans
      ((List.prefix_append lines ['\n']).isInfix.trans ends.isInfix)
  obtain ⟨line, member, held⟩ := infix_renderLines clean (by simp) before inside
  exact notBefore line member held

/-- The digits of `'{:x}'.format(value)`. -/
def hexChars (value : Nat) : List Char := Nat.toDigits 16 value

theorem mem_toDigitsCore (value : Nat) (digits : List Char) (member : char ∈ Nat.toDigitsCore 16 fuel value digits) :
  char ∈ digits ∨ ∃ digit < 16, char = Nat.digitChar digit := by
  induction fuel generalizing value digits with
  | zero => exact .inl member
  | succ fuel ih =>
    have small : value % 16 < 16 := Nat.mod_lt _ (by decide)
    rw [Nat.toDigitsCore] at member
    split at member
    · rcases List.mem_cons.mp member with rfl | old
      · exact .inr ⟨_, small, rfl⟩
      · exact .inl old
    rcases ih _ _ member with held | found
    · rcases List.mem_cons.mp held with rfl | old
      · exact .inr ⟨_, small, rfl⟩
      · exact .inl old
    · exact .inr found

theorem mem_hexChars (member : char ∈ hexChars value) : char ∈ "0123456789abcdef".toList := by
  rcases mem_toDigitsCore _ _ member with impossible | ⟨digit, small, rfl⟩
  · cases impossible
  have all : ∀ digit < 16, Nat.digitChar digit ∈ "0123456789abcdef".toList := by decide
  exact all digit small

theorem hexDigit_digitChar (small : digit < 16) : hexDigit (Nat.digitChar digit) = some digit := by
  have all : ∀ digit < 16, hexDigit (Nat.digitChar digit) = some digit := by decide
  exact all digit small

theorem hexChars_of_le (wide : 16 ≤ value) :
  hexChars value = hexChars (value / 16) ++ [Nat.digitChar (value % 16)] :=
  Nat.toDigits_of_base_le (by decide) wide

theorem hexChars_ne_nil (value : Nat) : hexChars value ≠ [] := Nat.toDigits_ne_nil

theorem ofHex_hexChars : ofHex (hexChars value) = value := by
  induction value using Nat.strongRecOn with
  | ind value ih =>
    by_cases wide : 16 ≤ value
    · have last := hexDigit_digitChar (Nat.mod_lt value (by decide : 0 < 16))
      have front := ih (value / 16) (by omega)
      rw [hexChars_of_le wide]
      unfold ofHex at front ⊢
      rw [List.foldl_append, front]
      simp only [List.foldl_cons, List.foldl_nil, last, Option.getD_some]
      omega
    have small : value < 16 := by omega
    rw [hexChars, Nat.toDigits_of_lt_base small]
    simp [ofHex, hexDigit_digitChar small]

theorem two_le_length_hexChars (wide : 16 ≤ value) : 2 ≤ (hexChars value).length := by
  have front := List.length_pos_iff.mpr (hexChars_ne_nil (value / 16))
  rw [hexChars_of_le wide, List.length_append, List.length_singleton]
  omega

theorem hexDigit_of_mem_hexChars (member : char ∈ hexChars value) : (hexDigit char).isSome = true := by
  have all : ("0123456789abcdef".toList.all fun char => (hexDigit char).isSome) = true := by decide
  exact List.all_eq_true.mp all char (mem_hexChars member)

theorem hexLiteral_hexChars (long : count ≤ (hexChars value).length) (stops : hexDigit next = none)
  (rest : List Char) :
  hexLiteral count ('0' :: 'x' :: (hexChars value ++ next :: rest)) = some (hexChars value) := by
  have digits : (hexChars value ++ next :: rest).takeWhile (fun digit => (hexDigit digit).isSome) =
      hexChars value := by
    rw [List.takeWhile_append_of_pos fun char member => hexDigit_of_mem_hexChars member]
    simp [stops]
  simp only [hexLiteral, digits, if_pos long]

end Spacer.Lib
