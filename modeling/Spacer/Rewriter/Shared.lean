import Spacer.Rewriter.Images
import Spacer.Rewriter.Lockstep

/-!
The copies of one library's text section in a list of unikernels, before and after
`rewrite_uk_v`.
-/

namespace Spacer.Rewriter

open Lib
open List (Forall₂ find?_cons map_cons mem_cons sum_cons)

theorem getSection_setContent (elf : Elf) : (elf.setContent name content).getSection query =
    if query = name then (elf.getSection name).map (·.withContent content)
    else elf.getSection query := by
  have kept : ∀ sect : ElfSection,
      (if sect.name = name then sect.withContent content else sect).name = sect.name := by
    intro sect
    split <;> rfl
  simp only [Elf.getSection, Elf.setContent]
  induction elf.sections with
  | nil => split <;> rfl
  | cons sect rest ih =>
    rw [map_cons, find?_cons, find?_cons, kept, ih]
    by_cases same : sect.name = query
    · subst same
      by_cases chosen : sect.name = name
      · simp [chosen]
      · simp [chosen]
    by_cases chosen : query = name
    · subst chosen
      simp [same]
    · simp [same, chosen]

theorem getSection_name {elf : Elf} (found : elf.getSection name = some sect) : sect.name = name := by
  simpa using List.find?_some found

def ElfSection.bounds (sect : ElfSection) : Section :=
  ⟨sect.name, sect.virtualAddress, sect.virtualAddress + sect.size⟩

theorem dictSections_processFile (elf : Elf) (name : String) :
  (processFile elf).uk.dictSections name = (elf.getSection name).map ElfSection.bounds := by
  have unique : ∀ sections : List ElfSection, (sections.map ElfSection.name).Nodup →
      (sections.map ElfSection.bounds).reverse.find? (fun sect => sect.name = name) =
        (sections.find? fun sect => sect.name = name).map ElfSection.bounds := by
    intro sections distinct
    induction sections with
    | nil => rfl
    | cons sect rest ih =>
      rw [map_cons, List.nodup_cons] at distinct
      rw [map_cons, List.reverse_cons, List.find?_append, ih distinct.2, find?_cons]
      by_cases same : sect.name = name
      · have absent : rest.find? (fun sect => sect.name = name) = none := by
          refine List.find?_eq_none.mpr fun other member => ?_
          have different : other.name ≠ name := fun equal =>
            distinct.1 (same ▸ equal ▸ List.mem_map_of_mem member)
          simpa using different
        simp [absent, same, ElfSection.bounds]
      · simp [same, ElfSection.bounds]
  exact unique elf.sections elf.distinct

theorem dictSections_rebase (uk : Unikernel) (different : name ≠ other) :
  (uk.rebase other base).dictSections name = uk.dictSections name := by
  have moved : ∀ sections : List Section,
      (rebaseFirst other base sections).find? (fun sect => sect.name = name) =
        sections.find? fun sect => sect.name = name := by
    intro sections
    induction sections with
    | nil => rfl
    | cons sect rest ih =>
      rw [rebaseFirst]
      split
      · rename_i same
        have others : sect.name ≠ name := fun equal => different (equal.symm.trans same)
        simp [others]
      · rw [find?_cons, find?_cons, ih]
  rw [Unikernel.dictSections, Unikernel.rebase, List.reverse_reverse, moved]
  rfl

/-! What the rewriting of the other sections leaves alone. -/

structure Kept (name : String) (before after : Image) : Prop where
  source : after.source = before.source
  text : after.binary.getSection name = before.binary.getSection name
  place : ∀ query, (after.binary.getSection query).map ElfSection.virtualAddress =
    (before.binary.getSection query).map ElfSection.virtualAddress
  dict : after.uk.dictSections name = before.uk.dictSections name

theorem Kept.refl (name : String) (image : Image) : Kept name image image :=
  ⟨rfl, rfl, fun _ => rfl, rfl⟩

theorem Kept.trans (left : Kept name first second) (right : Kept name second third) :
  Kept name first third :=
  ⟨right.source.trans left.source, right.text.trans left.text,
    fun query => (right.place query).trans (left.place query), right.dict.trans left.dict⟩

theorem place_setContent (elf : Elf) :
  ((elf.setContent name content).getSection query).map ElfSection.virtualAddress =
    (elf.getSection query).map ElfSection.virtualAddress := by
  rw [getSection_setContent]
  split
  · rename_i same
    rw [same, Option.map_map]
    rfl
  · rfl

variable {content : List UInt8}

theorem disassemble_uk (ran : disassemble decode uk s content diffAddr = .ok (result, final, out)) :
  result = if s.sect.name = ".text" then uk.rebase ".text" (s.sect.virtualAddress + 0x9000) else uk := by
  unfold disassemble at ran
  obtain ⟨⟨_, _, marker⟩, _, ran⟩ := ok_of_bind ran
  have answer : result = if s.sect.name = ".text" then uk.rebase s.sect.name
      (s.sect.virtualAddress + if s.sect.name = ".text" then 0x9000 else 0) else uk := by
    dsimp only at ran
    split at ran <;> cases ran <;> rfl
  rw [answer]
  split
  · rename_i text
    rw [text]
  · rfl

theorem disassembleImage_cases
  (ran : disassembleImage decode sectName diffAddr image = .ok (result, table)) :
  (image.uk.dictSections sectName = none ∨ image.source.getSection sectName = none) ∧
    result = image ∨ ∃ sect source ind s bt, image.uk.dictSections sectName = some sect ∧
    image.source.getSection sectName = some source ∧
    image.binary.getSection (nameInd sectName) = some ind ∧
    disassemble decode image.uk (.fresh sect ind.virtualAddress) source.content diffAddr =
      .ok (result.uk, s, bt) ∧
    result.source = image.source ∧
    result.binary = (image.binary.setContent sectName bt).setContent (nameInd sectName)
      s.sectionInd.bt := by
  unfold disassembleImage at ran
  split at ran
  · rename_i sect source dict content
    split at ran
    · cases ran
    rename_i ind stubs
    obtain ⟨⟨uk, s, bt⟩, done, finished⟩ := ok_of_bind ran
    cases finished
    exact .inr ⟨sect, source, ind, s, bt, dict, content, stubs, done, rfl, rfl⟩
  rename_i missing
  cases ran
  refine .inl ⟨?_, rfl⟩
  cases dict : image.uk.dictSections sectName with
  | none => exact .inl rfl
  | some sect =>
    cases content : image.source.getSection sectName with
    | none => exact .inr rfl
    | some source => exact absurd content (missing sect source dict)

theorem disassembleImage_place
  (ran : disassembleImage decode sectName diffAddr image = .ok (result, table)) (query : String) :
  (result.binary.getSection query).map ElfSection.virtualAddress =
    (image.binary.getSection query).map ElfSection.virtualAddress := by
  rcases disassembleImage_cases ran with ⟨_, rfl⟩ | ⟨_, _, _, _, _, _, _, _, _, _, binary⟩
  · rfl
  · rw [binary, place_setContent, place_setContent]

theorem disassembleImage_kept (different : other ≠ name) (separate : nameInd other ≠ name)
  (library : name ≠ ".text") (ran : disassembleImage decode other diffAddr image = .ok (result, table)) :
  Kept name image result := by
  rcases disassembleImage_cases ran with
    ⟨_, rfl⟩ | ⟨sect, source, ind, s, bt, dict, _, _, done, sameSource, binary⟩
  · exact Kept.refl name result
  refine ⟨sameSource, ?_, disassembleImage_place ran, ?_⟩
  · rw [binary, getSection_setContent, if_neg separate.symm, getSection_setContent, if_neg different.symm]
  rw [disassemble_uk done]
  split
  · exact dictSections_rebase image.uk library
  · rfl

section

variable (library : name ≠ ".text")
include library

theorem rewriteSection_kept (different : other ≠ name) (separate : nameInd other ≠ name)
  (ran : rewriteSection decode state other = .ok next) :
  Forall₂ (Kept name) state.images next.images := by
  obtain ⟨diffAddr, _, ran⟩ := ok_of_bind ran
  unfold disassembleSect at ran
  split at ran
  · cases ran
    exact List.forall₂_same.mpr fun image _ => Kept.refl name image
  obtain ⟨rewritten, done, finished⟩ := ok_of_bind ran
  cases finished
  refine List.forall₂_map_right_iff.mpr ((forall₂_of_mapM done).imp ?_)
  exact fun _ _ done => disassembleImage_kept different separate library done

theorem rewriteSections_kept {names : List String} (absent : name ∉ names)
  (separate : ∀ other ∈ names, nameInd other ≠ name)
  (ran : names.foldlM (rewriteSection decode) state = .ok next) :
  Forall₂ (Kept name) state.images next.images := by
  induction names generalizing state with
  | nil =>
    cases ran
    exact List.forall₂_same.mpr fun image _ => Kept.refl name image
  | cons other rest ih =>
    rw [List.foldlM_cons] at ran
    obtain ⟨middle, first, ran⟩ := ok_of_bind ran
    rw [mem_cons, not_or] at absent
    have step := rewriteSection_kept library (Ne.symm absent.1) (separate other (by simp)) first
    have tail := ih absent.2 (fun later member => separate later (by simp [member])) ran
    refine forall₂_trans ?_ step tail
    exact fun _ _ _ => Kept.trans

end

structure Text where
  sect : Section
  start : Int
  content : List UInt8
  code : List Ins

def codeLength (code : List Ins) : Nat := (code.map fun ins => ins.bytes.length).sum

def Elf.text? (decode : List UInt8 → Nat → List Ins) (name : String) (elf : Elf) : Option Text :=
  (elf.getSection name).bind fun sect =>
    (elf.getSection (nameInd name)).map fun ind =>
      { sect := sect.bounds
        start := ind.virtualAddress
        content := sect.content
        code := untilMarker (decode sect.content sect.virtualAddress) }

def Walks : Nat → List UInt8 → List Ins → Prop
  | _, _, [] => True
  | base, content, ins :: rest =>
    ins.address = base ∧ ins.bytes <+: content ∧
      Walks (base + ins.bytes.length) (content.drop ins.bytes.length) rest

structure Capstone (decode : List UInt8 → Nat → List Ins) : Prop where
  walks : ∀ content base, Walks base content (decode content base)
  lea : ∀ content base, ∀ ins ∈ decode content base,
    [0x48, 0x8d, 0x88].isPrefixOf ins.bytes || [0x48, 0x8d, 0x90].isPrefixOf ins.bytes →
      ins.bytes.length = 7
  int1 : ∀ content base, ∀ ins ∈ decode content base, ins.isMarker = true → ins.bytes.length = 1

/-- Two copies of a section: the same size, the same distance to the stub table, and
the same instructions up to their operands. -/
structure Comparable (left right : Text) : Prop where
  size : left.content.length = right.content.length
  distance : right.start - left.start = (right.sect.virtualAddress : Int) - left.sect.virtualAddress
  code : Forall₂ Alike left.code right.code
  rest : left.content.drop (codeLength left.code) = right.content.drop (codeLength right.code)

theorem Walks.front (walks : Walks base content inss) (front : code <+: inss) :
  Walks base content code := by
  obtain ⟨rest, rfl⟩ := front
  induction code generalizing base content with
  | nil => trivial
  | cons ins code ih => exact ⟨walks.1, walks.2.1, ih walks.2.2⟩

theorem untilMarker_front : untilMarker inss <+: inss := by
  induction inss with
  | nil => exact List.nil_prefix
  | cons ins rest ih =>
    rw [untilMarker]
    split
    · exact ⟨rest, rfl⟩
    · exact (List.prefix_cons_inj ins).mpr ih

theorem find?_untilMarker : (untilMarker inss).find? Ins.isMarker = inss.find? Ins.isMarker := by
  induction inss with
  | nil => rfl
  | cons ins rest ih =>
    cases marked : ins.isMarker with
    | true => simp [untilMarker, marked]
    | false => simp [untilMarker, marked, ih]

theorem marker_address (walks : Walks base content inss)
  (found : inss.find? Ins.isMarker = some marker) (one : marker.bytes.length = 1) :
  base ≤ marker.address ∧ marker.address + 1 = base + codeLength (untilMarker inss) := by
  induction inss generalizing base content with
  | nil => cases found
  | cons ins rest ih =>
    obtain ⟨address, _, tail⟩ := walks
    cases marked : ins.isMarker with
    | true =>
      rw [find?_cons, marked] at found
      cases found
      simp [untilMarker, marked, codeLength, one, address]
    | false =>
      rw [find?_cons, marked] at found
      obtain ⟨behind, later⟩ := ih tail found
      simp only [untilMarker, marked, codeLength, Bool.false_eq_true, if_false, map_cons,
        sum_cons] at later ⊢
      omega

theorem walks_content (walks : Walks base content inss) :
  content = inss.flatMap Ins.bytes ++ content.drop (codeLength inss) := by
  induction inss generalizing base content with
  | nil => simp [codeLength]
  | cons ins rest ih =>
    obtain ⟨_, ⟨back, rfl⟩, tail⟩ := walks
    rw [List.drop_left] at tail
    have later := ih tail
    rw [List.flatMap_cons, List.append_assoc, codeLength, map_cons, sum_cons,
      ← List.drop_drop, List.drop_left]
    exact congrArg (ins.bytes ++ ·) later

def inDiff (base : Nat) (diffAddr : List Nat) (ins : Ins) : Bool :=
  (List.range ins.bytes.length).any fun offset => (ins.address + offset) ∈ diffAddr.map (· + base)

def behindMarker (text : Text) : List UInt8 :=
  if (text.code.find? Ins.isMarker).isSome then text.content.drop (codeLength text.code) else []

theorem disassemble_library (capstone : Capstone decode) (library : sect.name ≠ ".text")
  (long : 1 < sect.virtualAddress + codeLength (untilMarker (decode content sect.virtualAddress)))
  (ran : disassemble decode uk (.fresh sect start) content diffAddr = .ok (result, final, out)) :
  ∃ bt, visitAll uk (inDiff sect.virtualAddress diffAddr) (.fresh sect start)
      (untilMarker (decode content sect.virtualAddress)) = .ok (final, bt) ∧
    out = bt ++ behindMarker ⟨sect, start, content, untilMarker (decode content sect.virtualAddress)⟩ := by
  unfold disassemble at ran
  obtain ⟨⟨last, bt, marker⟩, loop, ran⟩ := ok_of_bind ran
  simp only [TextSection.fresh, library, ↓reduceIte, Nat.add_zero, List.drop_zero, List.take_zero,
    List.nil_append] at loop ran
  obtain ⟨visited, address⟩ := disassembleLoop_visitAll loop
  simp only [behindMarker, find?_untilMarker]
  cases found : (decode content sect.virtualAddress).find? Ins.isMarker with
  | none =>
    rw [found] at address
    subst address
    cases ran
    exact ⟨out, visited, by simp⟩
  | some ins =>
    have decoded := List.mem_of_find?_eq_some found
    obtain ⟨behind, place⟩ := marker_address (capstone.walks content sect.virtualAddress) found
      (capstone.int1 _ _ ins decoded (List.find?_some found))
    obtain ⟨before, position⟩ : ∃ before, ins.address = before + 1 :=
      Nat.exists_eq_add_one.mpr (by omega)
    rw [found, Option.map_some, position] at address
    subst address
    cases ran
    refine ⟨bt, visited, ?_⟩
    have skipped : before + 1 - sect.virtualAddress + 1 =
        codeLength (untilMarker (decode content sect.virtualAddress)) := by omega
    rw [skipped, Option.isSome_some, if_pos rfl]

theorem inDiff_iff (diffAddr : List Nat) (placed : ins.address = base + offset) :
  inDiff base diffAddr ins = true ↔ ∃ index < ins.bytes.length, offset + index ∈ diffAddr := by
  simp only [inDiff, List.any_eq_true, List.mem_range, List.mem_map, decide_eq_true_eq]
  refine exists_congr fun index => and_congr_right fun _ => ?_
  constructor
  · rintro ⟨other, member, same⟩
    have equal : other = offset + index := by omega
    exact equal ▸ member
  intro member
  exact ⟨offset + index, member, by omega⟩

theorem bytes_getElem? (within : bytes <+: content.drop offset) (inside : index < bytes.length) :
  bytes[index]? = content[offset + index]? := by
  obtain ⟨back, whole⟩ := within
  rw [← List.getElem?_drop, ← whole, List.getElem?_append_left inside]

theorem paired_of_walks {leftContent rightContent : List UInt8}
  (apart : (rightSect.virtualAddress : Int) = leftSect.virtualAddress + shift)
  (agree : ∀ offset, offset ∉ diffAddr → leftContent[offset]? = rightContent[offset]?)
  (alike : Forall₂ Alike lefts rights)
  (leftLengths : ∀ ins ∈ lefts, (unredirected leftSect ins).length = ins.bytes.length)
  (rightLengths : ∀ ins ∈ rights, (unredirected rightSect ins).length = ins.bytes.length)
  (offset : Nat)
  (leftWalks : Walks (leftSect.virtualAddress + offset) (leftContent.drop offset) lefts)
  (rightWalks : Walks (rightSect.virtualAddress + offset) (rightContent.drop offset) rights) :
  Forall₂ (Paired leftSect rightSect (inDiff leftSect.virtualAddress diffAddr)
    (inDiff rightSect.virtualAddress diffAddr) shift) lefts rights := by
  induction alike generalizing offset with
  | nil => exact Forall₂.nil
  | @cons left right lefts rights first rest ih =>
    obtain ⟨leftAddress, leftBytes, leftTail⟩ := leftWalks
    obtain ⟨rightAddress, rightBytes, rightTail⟩ := rightWalks
    have length := first.length
    have leftIn := inDiff_iff diffAddr leftAddress
    have rightIn := inDiff_iff diffAddr rightAddress
    refine Forall₂.cons ⟨first, by omega, ?_, fun untouched => ?_, leftLengths left (by simp),
      rightLengths right (by simp)⟩ ?_
    · rw [Bool.eq_iff_iff, leftIn, rightIn, length]
    · refine List.ext_getElem? fun index => ?_
      by_cases inside : index < left.bytes.length
      · have same : offset + index ∉ diffAddr := fun member =>
          Bool.false_ne_true (untouched.symm.trans (leftIn.mpr ⟨index, inside, member⟩))
        rw [bytes_getElem? leftBytes inside, bytes_getElem? rightBytes (length ▸ inside), agree _ same]
      · rw [List.getElem?_eq_none (by omega), List.getElem?_eq_none (by omega)]
    rw [List.drop_drop, Nat.add_assoc] at leftTail rightTail
    rw [← length] at rightTail
    exact ih (fun ins member => leftLengths ins (by simp [member]))
      (fun ins member => rightLengths ins (by simp [member])) _ leftTail rightTail

def Touched (differs : Nat → Prop) (text : Text) (ins : Ins) : Prop :=
  ∃ index < ins.bytes.length, differs (ins.address - text.sect.virtualAddress + index)

structure Settled (differs : Nat → Prop) (leftUk rightUk : Unikernel) (left right : Text) :
  Prop where
  decisions : ∀ pair ∈ left.code.zip right.code, Touched differs left pair.1 →
    redirects leftUk left.sect pair.1 = redirects rightUk right.sect pair.2 ∧
    (redirects leftUk left.sect pair.1 = false →
      unredirected left.sect pair.1 = unredirected right.sect pair.2)
  sharing : (left.code.zip right.code).Pairwise fun first second =>
    Touched differs left first.1 → redirects leftUk left.sect first.1 = true →
      Touched differs left second.1 → redirects leftUk left.sect second.1 = true →
        (first.1.text = second.1.text ↔ first.2.text = second.2.text)

theorem walks_address (walks : Walks base content inss) (member : ins ∈ inss) : base ≤ ins.address := by
  induction inss generalizing base content with
  | nil => cases member
  | cons first rest ih =>
    obtain ⟨address, _, tail⟩ := walks
    rcases mem_cons.mp member with same | later
    · exact Nat.le_of_eq (same ▸ address.symm)
    · exact Nat.le_trans (Nat.le_add_right _ _) (ih tail later)

theorem settled_iff_agreed (diffs : ∀ offset, offset ∈ diffAddr ↔ differs offset)
  (walks : Walks left.sect.virtualAddress left.content left.code) :
  Settled differs leftUk rightUk left right ↔
    Agreed leftUk rightUk left.sect right.sect (inDiff left.sect.virtualAddress diffAddr) []
      left.code right.code := by
  have touched : ∀ pair ∈ left.code.zip right.code,
      (inDiff left.sect.virtualAddress diffAddr pair.1 = true ↔ Touched differs left pair.1) := by
    intro pair member
    have behind := walks_address walks (List.of_mem_zip member).1
    rw [inDiff_iff diffAddr (Nat.add_sub_cancel' behind).symm]
    simp only [diffs]
    rfl
  rw [agreed_iff]
  constructor
  · rintro ⟨decisions, sharing⟩
    refine ⟨fun pair member differ => decisions pair member ((touched pair member).mp differ),
      by simp, sharing.imp_of_mem ?_⟩
    intro first second firstMem secondMem shared firstIn firstMoves secondIn
    exact shared ((touched first firstMem).mp firstIn) firstMoves ((touched second secondMem).mp secondIn)
  rintro ⟨decisions, _, sharing⟩
  refine ⟨fun pair member differ => decisions pair member ((touched pair member).mpr differ),
    sharing.imp_of_mem ?_⟩
  intro first second firstMem secondMem shared firstIn firstMoves secondIn
  exact shared ((touched first firstMem).mpr firstIn) firstMoves ((touched second secondMem).mpr secondIn)

theorem alike_markers (alike : Forall₂ Alike lefts rights) :
  (lefts.find? Ins.isMarker).isSome = (rights.find? Ins.isMarker).isSome := by
  induction alike with
  | nil => rfl
  | cons first _ ih =>
    rw [find?_cons, find?_cons, first.isMarker]
    split
    · rfl
    · exact ih

theorem Comparable.behindMarker (comparable : Comparable left right) :
  behindMarker left = behindMarker right := by
  simp only [Rewriter.behindMarker, alike_markers comparable.code, comparable.rest]

structure Copied (uk : Unikernel) (diffAddr : List Nat) (text : Text) (out : List UInt8) : Prop where
  walks : Walks text.sect.virtualAddress text.content text.code
  lengths : ∀ ins ∈ text.code, (unredirected text.sect ins).length = ins.bytes.length
  ran : ∃ final bt, visitAll uk (inDiff text.sect.virtualAddress diffAddr)
    (.fresh text.sect text.start) text.code = .ok (final, bt) ∧ out = bt ++ behindMarker text

theorem copies_lockstep (diffs : ∀ offset, offset ∈ diffAddr ↔ differs offset)
  (agree : ∀ offset, ¬differs offset → left.content[offset]? = right.content[offset]?)
  (comparable : Comparable left right) (leftCopy : Copied leftUk diffAddr left leftOut)
  (rightCopy : Copied rightUk diffAddr right rightOut) :
  (Settled differs leftUk rightUk left right → leftOut = rightOut) ∧
  ((∀ ins ∈ left.code, NoStubs left.sect left.start (stubRoom left.code) ins) →
    (∀ ins ∈ right.code, NoStubs right.sect right.start (stubRoom right.code) ins) →
      leftOut = rightOut → Settled differs leftUk rightUk left right) := by
  obtain ⟨leftWalks, leftLengths, _, leftBt, leftRan, rfl⟩ := leftCopy
  obtain ⟨rightWalks, rightLengths, _, rightBt, rightRan, rfl⟩ := rightCopy
  let shift : Int := right.sect.virtualAddress - left.sect.virtualAddress
  have starts : right.start = left.start + shift := by
    have distance := comparable.distance
    omega
  have apart : (right.sect.virtualAddress : Int) = left.sect.virtualAddress + shift := by omega
  have paired := paired_of_walks apart
    (fun offset absent => agree offset fun differ => absent ((diffs offset).mpr differ))
    comparable.code leftLengths rightLengths 0 leftWalks rightWalks
  have tables : Tables left.start shift [] (.fresh left.sect left.start)
      (.fresh right.sect right.start) := by
    refine ⟨starts, recorded_fresh left.sect left.start, ?_, by simp⟩
    rw [← starts]
    exact recorded_fresh right.sect right.start
  obtain ⟨enough, needed⟩ := visitAll_lockstep paired rfl rfl tables leftRan rightRan
    (Int.le_refl (left.start + stubRoom left.code))
  rw [comparable.behindMarker, List.append_left_inj, settled_iff_agreed diffs leftWalks]
  rw [← starts] at needed
  rw [← alike_stubRoom comparable.code]
  exact ⟨enough, needed⟩

end Spacer.Rewriter
