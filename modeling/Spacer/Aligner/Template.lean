import Spacer.Aligner.Script

/-! The platform's linker script as `process_link64_spacer` expects it. -/

namespace Spacer.Aligner

open Lib
open List hiding after

def Plain (l : String) : Prop :=
  occursIn "_etext = .;" l = false ∧ occursIn "_data = .;" l = false ∧ isMarker l = false ∧
    l ≠ " .init_array : \x7b"

instance (l : String) : Decidable (Plain l) := inferInstanceAs (Decidable (_ ∧ _))

def Quiet (l : String) : Prop := ∀ sect : SectName, occursIn (wildcardOf sect) l = false

theorem quiet_iff (l : String) : Quiet l ↔ closesSection l = false := by
  have labels : closesSection l = (occursIn (wildcardOf .text) l ||
      occursIn (wildcardOf .rodata) l || occursIn (wildcardOf .data) l ||
      occursIn (wildcardOf .bss) l) := rfl
  rw [labels]
  simp only [Bool.or_eq_false_iff]
  constructor
  · intro quiet
    exact ⟨⟨⟨quiet .text, quiet .rodata⟩, quiet .data⟩, quiet .bss⟩
  rintro ⟨⟨⟨text, rodata⟩, data⟩, bss⟩ sect
  cases sect with
  | text => exact text
  | rodata => exact rodata
  | data => exact data
  | bss => exact bss

instance (l : String) : Decidable (Quiet l) := decidable_of_iff _ (quiet_iff l).symm

def Middle (l : String) : Prop :=
  occursIn "_etext = .;" l = false ∧ occursIn "_data = .;" l = false ∧
    (isMarker l = true → markerName l = "_ctors" ∨ markerName l = "_ectors") ∧
    Quiet l ∧ occursIn " _rodata = .;" l = false

instance (l : String) : Decidable (Middle l) := inferInstanceAs (Decidable (_ ∧ _))

def endsText (l : String) : Bool :=
  !closesSection l && !occursIn " .text :" l && !occursIn "*(COMMON)" l && occursIn "*(.text.*)" l

/-- The linker script of the platform: the `.text` section up to `_etext`, then
the `.rodata` block among other read-only sections, then `_data` and the rest. -/
structure LinkTemplate where
  head : List String
  etext : String
  before : List String
  after : List String
  data : String
  rest : List String
  head_plain : ∀ l ∈ head, Plain l
  head_text : ∃ l ∈ head, endsText l = true
  etext_mark : occursIn "_etext = .;" etext = true
  before_middle : ∀ l ∈ before, Middle l
  after_middle : ∀ l ∈ after, Middle l
  data_mark : occursIn "_etext = .;" data = false ∧ occursIn "_data = .;" data = true
  rest_plain : ∀ l ∈ rest, Plain l

def LinkTemplate.lines (template : LinkTemplate) : List String :=
  template.head ++ [template.etext] ++ template.before ++ rodataBlock ++ template.after ++
    [template.data] ++ template.rest

/-- The first loop for any value of `aslr`: only without it does the line of the
initialisers get an address. -/
def UkManager.splitMarksAt (manager : UkManager) (aslr : Bool) (split : Split) (l : String) :
  Except PyError Split :=
  if occursIn "_data = .;" l then
    .ok { split with
      filteredLines := split.filteredLines ++ [" . = ALIGN((1 << 12));\n"]
      done := false }
  else if isMarker l then manager.markLine (markerName l) split
  else if aslr = false ∧ l = " .init_array : \x7b" then manager.markLine ".init_array" split
  else .ok split

def UkManager.splitLineAt (manager : UkManager) (aslr : Bool) (split : Split) (l : String) :
  Except PyError Split :=
  if occursIn "_etext = .;" l then .ok { split with done := true }
  else do
    let split ← manager.splitMarksAt aslr split l
    pure (UkManager.keepLine split l)

section

variable {manager : UkManager}

theorem splitLine_eq : manager.splitLine = manager.splitLineAt false := by
  funext split l
  simp [UkManager.splitLine, UkManager.splitLineAt, UkManager.splitMarks, UkManager.splitMarksAt]

theorem splitLine_plain (manager : UkManager) (aslr : Bool) (plain : Plain l) :
  manager.splitLineAt aslr split l = .ok (UkManager.keepLine split l) := by
  obtain ⟨etext, data, marker, array⟩ := plain
  simp [UkManager.splitLineAt, UkManager.splitMarksAt, etext, data, marker, array, bind,
    Except.bind, pure, Except.pure]

def keepLines (split : Split) (lines : List String) : Split :=
  if split.done then { split with strSb := split.strSb ++ lines }
  else { split with filteredLines := split.filteredLines ++ lines }

theorem splitLines_plain (manager : UkManager) (aslr : Bool) (lines : List String)
  (plain : ∀ l ∈ lines, Plain l) (split : Split) :
  lines.foldlM (manager.splitLineAt aslr) split = .ok (keepLines split lines) := by
  induction lines generalizing split with
  | nil => simp [keepLines, pure, Except.pure]
  | cons l rest ih =>
    rw [foldlM_cons, bind_of_ok (splitLine_plain manager aslr (plain l (by simp))),
      ih fun other member => plain other (mem_cons_of_mem _ member)]
    cases mode : split.done <;> simp [keepLines, UkManager.keepLine, mode]

def Harmless (l : String) : Prop := Quiet l ∧ occursIn " _rodata = .;" l = false

theorem not_occursIn_of_char (wanted : char ∈ needle.toList) (missing : char ∉ text.toList) :
  occursIn needle text = false := by
  rw [Bool.eq_false_iff, Ne, occursIn_iff]
  exact fun inside => missing (inside.subset wanted)

theorem toList_addressLine : (addressLine addr).toList = " . = 0x".toList ++ hexChars addr ++ [';'] :=
  String.toList_ofList

theorem mem_addressLine (member : char ∈ (addressLine addr).toList) :
  char ∈ " . = 0x;".toList ∨ char ∈ "0123456789abcdef".toList := by
  have whole : " . = 0x;".toList = " . = 0x".toList ++ [';'] := by decide
  rw [toList_addressLine] at member
  rcases mem_append.mp member with front | last
  · rcases mem_append.mp front with start | digit
    · exact .inl (whole ▸ mem_append_left _ start)
    · exact .inr (mem_hexChars digit)
  · exact .inl (whole ▸ mem_append_right _ last)

theorem harmless_addressLine (addr : Nat) : Harmless (addressLine addr) := by
  have star : '*' ∉ (addressLine addr).toList := fun member => by
    have listed := mem_addressLine member
    revert listed
    decide
  have bar : '_' ∉ (addressLine addr).toList := fun member => by
    have listed := mem_addressLine member
    revert listed
    decide
  refine ⟨fun sect => not_occursIn_of_char ?_ star, not_occursIn_of_char ?_ bar⟩
  · cases sect <;> decide
  · decide

structure Marked (manager : UkManager) : Prop where
  ctors : manager.locSect.get? "_ctors" ≠ none
  initArray : manager.locSect.get? ".init_array" ≠ none
  ectors : manager.locSect.get? "_ectors" ≠ none

theorem markLine_ok (present : manager.locSect.get? name ≠ none) (split : Split) :
  ∃ addr, manager.markLine name split = .ok { split with strSb := split.strSb ++ [addressLine addr] } := by
  obtain ⟨addr, found⟩ := Option.ne_none_iff_exists'.mp present
  refine ⟨addr, ?_⟩
  simp [UkManager.markLine, UkManager.lookupLoc, found, bind, Except.bind, pure, Except.pure]

theorem splitMarks_middle (marked : Marked manager) (middle : Middle l)
  (strSb filteredLines : List String) :
  ∃ added, (∀ line ∈ added, Harmless line) ∧ manager.splitMarksAt aslr ⟨true, strSb, filteredLines⟩ l =
      .ok ⟨true, strSb ++ added, filteredLines⟩ := by
  obtain ⟨_, data, marker, _, _⟩ := middle
  have named : ∀ name, manager.locSect.get? name ≠ none → ∃ added, (∀ line ∈ added, Harmless line) ∧
      manager.markLine name ⟨true, strSb, filteredLines⟩ = .ok ⟨true, strSb ++ added, filteredLines⟩ := by
    intro name present
    obtain ⟨addr, placed⟩ := markLine_ok present ⟨true, strSb, filteredLines⟩
    exact ⟨[addressLine addr], by simpa using harmless_addressLine addr, placed⟩
  rw [UkManager.splitMarksAt, data, if_neg Bool.false_ne_true]
  split
  · rename_i isMarked
    rcases marker isMarked with name | name
    · rw [name]
      exact named _ marked.ctors
    rw [name]
    exact named _ marked.ectors
  split
  · exact named _ marked.initArray
  · exact ⟨[], by simp, by simp⟩

theorem splitLines_middle (marked : Marked manager) (lines : List String)
  (middle : ∀ l ∈ lines, Middle l) (strSb filteredLines : List String) :
  ∃ added, (∀ line ∈ added, Harmless line) ∧
    lines.foldlM (manager.splitLineAt aslr) ⟨true, strSb, filteredLines⟩ =
      .ok ⟨true, strSb ++ added, filteredLines⟩ := by
  induction lines generalizing strSb with
  | nil => exact ⟨[], by simp, by simp [pure, Except.pure]⟩
  | cons l rest ih =>
    have here := middle l (by simp)
    obtain ⟨marks, marksHarmless, marksRun⟩ := splitMarks_middle marked here strSb filteredLines
    obtain ⟨added, addedHarmless, run⟩ := ih
      (fun other member => middle other (mem_cons_of_mem _ member)) (strSb ++ marks ++ [l])
    have step : manager.splitLineAt aslr ⟨true, strSb, filteredLines⟩ l =
        .ok ⟨true, strSb ++ marks ++ [l], filteredLines⟩ := by
      rw [UkManager.splitLineAt, here.1, if_neg Bool.false_ne_true, bind_of_ok marksRun]
      rfl
    refine ⟨marks ++ [l] ++ added, ?_, ?_⟩
    · simp only [forall_mem_append, forall_mem_singleton]
      exact ⟨⟨marksHarmless, here.2.2.2⟩, addedHarmless⟩
    rw [foldlM_cons, bind_of_ok step, run]
    simp

theorem split_template (marked : Marked manager) (template : LinkTemplate) :
  ∃ before after more, (∀ line ∈ before, Harmless line) ∧ (∀ line ∈ after, Harmless line) ∧
    template.lines.foldlM (manager.splitLineAt aslr) {} =
      .ok ⟨false, before ++ rodataBlock ++ after, template.head ++ more⟩ := by
  obtain ⟨before, beforeHarmless, beforeRun⟩ := splitLines_middle marked template.before
    template.before_middle [] template.head
  obtain ⟨after, afterHarmless, afterRun⟩ := splitLines_middle marked template.after
    template.after_middle (before ++ rodataBlock) template.head
  have headRun := splitLines_plain manager aslr template.head template.head_plain {}
  have etextRun : manager.splitLineAt aslr ⟨false, [], template.head⟩ template.etext =
      .ok ⟨true, [], template.head⟩ := by
    rw [UkManager.splitLineAt, template.etext_mark]
    rfl
  have blockRun := splitLines_plain manager aslr rodataBlock (by decide) ⟨true, before, template.head⟩
  let closed := template.head ++ [" . = ALIGN((1 << 12));\n"] ++ [template.data]
  have dataRun : manager.splitLineAt aslr ⟨true, before ++ rodataBlock ++ after, template.head⟩
      template.data = .ok ⟨false, before ++ rodataBlock ++ after, closed⟩ := by
    rw [UkManager.splitLineAt, template.data_mark.1, if_neg Bool.false_ne_true,
      UkManager.splitMarksAt, template.data_mark.2]
    rfl
  have restRun := splitLines_plain manager aslr template.rest template.rest_plain
    ⟨false, before ++ rodataBlock ++ after, closed⟩
  refine ⟨before, after, [" . = ALIGN((1 << 12));\n"] ++ [template.data] ++ template.rest,
    beforeHarmless, afterHarmless, ?_⟩
  simp only [LinkTemplate.lines, append_assoc, foldlM_append, singleton_append,
    foldlM_cons, bind_assoc]
  rw [bind_of_ok headRun]
  change (manager.splitLineAt aslr ⟨false, [], template.head⟩ template.etext >>= _) = _
  rw [bind_of_ok etextRun, bind_of_ok beforeRun, nil_append, bind_of_ok blockRun]
  change (template.after.foldlM (manager.splitLineAt aslr) ⟨true, before ++ rodataBlock, template.head⟩
    >>= _) = _
  rw [bind_of_ok afterRun, bind_of_ok dataRun, restRun]
  simp [keepLines, closed]

end

theorem not_infix_of_harmless (harmless : ∀ line ∈ lines, Harmless line) (sect : SectName) :
  ¬(wildcardOf sect).toList <:+: renderLines lines := by
  intro inside
  have clean : '\n' ∉ (wildcardOf sect).toList := by cases sect <;> decide
  have filled : (wildcardOf sect).toList ≠ [] := by cases sect <;> decide
  obtain ⟨line, member, held⟩ := infix_renderLines clean filled lines inside
  have quiet := (harmless line member).1 sect
  rw [(occursIn_iff).mpr held] at quiet
  cases quiet

theorem quiet_keptText (beforeHarmless : ∀ line ∈ before, Harmless line)
  (afterHarmless : ∀ line ∈ after, Harmless line) :
  Quiet (replaceText (joinLines (before ++ rodataBlock ++ after)) rodataPattern "") := by
  obtain ⟨tail, pattern⟩ : ∃ tail, rodataPattern.toList =
      ' ' :: "_rodata = .;".toList ++ '\n' :: tail := ⟨rodataPattern.toList.drop 14, by decide⟩
  have block : renderLines rodataBlock = rodataPattern.toList ++ ['\n'] := by decide
  have first : (' ' :: "_rodata = .;".toList) = " _rodata = .;".toList := by decide
  have clean : '\n' ∉ ' ' :: "_rodata = .;".toList := by decide
  have absent : ∀ lines : List String, (∀ line ∈ lines, Harmless line) → ∀ line ∈ lines,
      ¬(' ' :: "_rodata = .;".toList) <:+: line.toList := by
    intro lines harmless line member inside
    rw [first, ← occursIn_iff, (harmless line member).2] at inside
    cases inside
  have notAfter : ¬(' ' :: "_rodata = .;".toList) <:+: '\n' :: renderLines after := by
    intro inside
    have split : ' ' :: "_rodata = .;".toList <:+: [] ++ '\n' :: renderLines after := inside
    rcases infix_of_infix_sep clean split with empty | later
    · exact absurd (infix_nil.mp empty) (by simp)
    obtain ⟨line, member, held⟩ := infix_renderLines clean (by simp) after later
    exact absent after afterHarmless line member held
  have cut : (replaceText (joinLines (before ++ rodataBlock ++ after)) rodataPattern "").toList =
      renderLines before ++ '\n' :: renderLines after := by
    have removed := replaceChars_block tail clean (absent before beforeHarmless) notAfter
    simp only [replaceText, joinLines, String.toList_ofList]
    rw [renderLines_append, renderLines_append, block, pattern, append_assoc, append_assoc]
    exact removed
  intro sect
  rw [Bool.eq_false_iff, Ne, occursIn_iff, cut]
  intro inside
  have noBreak : '\n' ∉ (wildcardOf sect).toList := by cases sect <;> decide
  rcases infix_of_infix_sep noBreak inside with early | late
  · exact not_infix_of_harmless beforeHarmless sect early
  · exact not_infix_of_harmless afterHarmless sect late

theorem quiet_ended (quiet : Quiet l) : Quiet (l ++ "\n") := by
  intro sect
  rw [Bool.eq_false_iff, Ne, occursIn_iff, String.toList_append]
  intro inside
  have noBreak : '\n' ∉ (wildcardOf sect).toList := by cases sect <;> decide
  rcases infix_of_infix_sep noBreak inside with here | empty
  · rw [← occursIn_iff, quiet sect] at here
    cases here
  have filled : (wildcardOf sect).toList ≠ [] := by cases sect <;> decide
  exact filled (infix_nil.mp empty)

def Idle (pieces : List Piece) : Prop :=
  ∀ piece ∈ pieces, ∀ lib sect, piece.places lib sect = false

theorem idle_text (quiet : Quiet l) : Idle [.text l] := by
  intro piece member lib sect
  rw [mem_singleton.mp member]
  exact quiet sect

theorem Idle.append (first : Idle left) (second : Idle right) : Idle (left ++ right) := by
  intro piece member
  rcases mem_append.mp member with early | late
  · exact first piece early
  · exact second piece late

variable (manager : UkManager)

theorem idle_textStart (quiet : Quiet l) : Idle (manager.textStart l) := by
  refine ((idle_text (by decide)).append ?_).append (idle_text (quiet_ended quiet))
  split
  · exact idle_text (by decide)
  · exact fun piece member => absurd member not_mem_nil

def emitWith {α : Type} (start : String → List α) (text : String → α)
  (library : Except PyError (List α)) : List String → Except PyError (Option (List α))
  | [] => .ok none
  | l :: rest =>
    if closesSection l then do
      let pieces ← emitWith start text library rest
      pure (pieces.map ([text "\x7d\n"] ++ ·))
    else if occursIn " .text :" l then do
      let pieces ← emitWith start text library rest
      pure (pieces.map (start l ++ ·))
    else if occursIn "*(COMMON)" l then emitWith start text library rest
    else if occursIn "*(.text.*)" l then do
      let pieces ← library
      pure (some pieces)
    else do
      let pieces ← emitWith start text library rest
      pure (pieces.map ([text (l ++ "\n")] ++ ·))

theorem emitLines_eq : manager.emitLines uk strSb lines =
    emitWith manager.textStart Piece.text (manager.libraryPieces uk strSb) lines := by
  induction lines with
  | nil => rfl
  | cons l rest ih => rw [UkManager.emitLines, emitWith, ih]

theorem emitWith_head {α : Type} {start : String → List α} {text : String → α}
  {harmless : α → Prop} (texts : ∀ l, Quiet l → harmless (text l))
  (starts : ∀ l, Quiet l → ∀ piece ∈ start l, harmless piece)
  (lines : List String) (reached : ∃ l ∈ lines, endsText l = true) :
  ∃ front, (∀ piece ∈ front, harmless piece) ∧ ∀ library pieces, library = .ok pieces →
    emitWith start text library lines = .ok (some (front ++ pieces)) := by
  induction lines with
  | nil => simp at reached
  | cons l rest ih =>
    by_cases here : endsText l = true
    · simp only [endsText, Bool.and_eq_true, Bool.not_eq_true'] at here
      obtain ⟨⟨⟨open', start⟩, common⟩, text⟩ := here
      refine ⟨[], fun piece member => absurd member not_mem_nil, ?_⟩
      intro library pieces part
      simp only [emitWith, open', start, common, text, Bool.false_eq_true, ↓reduceIte]
      rw [bind_of_ok part]
      rfl
    have later : ∃ other ∈ rest, endsText other = true := by
      obtain ⟨other, member, ends⟩ := reached
      rcases mem_cons.mp member with rfl | tail
      · exact absurd ends here
      · exact ⟨other, tail, ends⟩
    obtain ⟨front, idle, run⟩ := ih later
    have added {more : List α} (quiet : ∀ piece ∈ more, harmless piece) :
        ∀ piece ∈ more ++ front, harmless piece := by
      intro piece member
      rcases mem_append.mp member with early | late
      · exact quiet piece early
      · exact idle piece late
    have single {l : String} (quiet : Quiet l) : ∀ piece ∈ [text l], harmless piece := by
      intro piece member
      rw [mem_singleton.mp member]
      exact texts l quiet
    cases closes : closesSection l with
    | true =>
      refine ⟨[text "\x7d\n"] ++ front, added (single (by decide)), ?_⟩
      intro library pieces part
      rw [emitWith, closes, if_pos rfl, bind_of_ok (run library pieces part)]
      rfl
    | false =>
      have quiet : Quiet l := (quiet_iff l).mpr closes
      simp only [emitWith, closes, Bool.false_eq_true, ↓reduceIte]
      split
      · refine ⟨start l ++ front, added (starts l quiet), ?_⟩
        intro library pieces part
        rw [bind_of_ok (run library pieces part)]
        simp [pure, Except.pure]
      rename_i begins
      split
      · exact ⟨front, idle, run⟩
      rename_i common
      split
      · rename_i ends
        exact absurd (by simp [endsText, closes, begins, common, ends]) here
      refine ⟨[text (l ++ "\n")] ++ front, added (single (quiet_ended quiet)), ?_⟩
      intro library pieces part
      rw [bind_of_ok (run library pieces part)]
      rfl

theorem emitLines_head (uk : Unikernel) (strSb : String)
  (library : manager.libraryPieces uk strSb = .ok pieces) (lines : List String)
  (reached : ∃ l ∈ lines, endsText l = true) :
  ∃ texts, Idle texts ∧ manager.emitLines uk strSb lines = .ok (some (texts ++ pieces)) := by
  obtain ⟨texts, idle, run⟩ := @emitWith_head Piece manager.textStart Piece.text
    (fun piece => ∀ lib sect, piece.places lib sect = false) (fun l quiet lib sect => quiet sect)
    (fun l quiet => idle_textStart manager quiet) lines reached
  refine ⟨texts, idle, ?_⟩
  rw [emitLines_eq, run _ _ library]

end Spacer.Aligner
