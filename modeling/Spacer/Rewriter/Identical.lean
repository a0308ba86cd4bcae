import Spacer.Rewriter.Shared

/-!
When the rewritten copies of a library's text section are the same bytes in all
unikernels.
-/

namespace Spacer.Rewriter

open Lib
open List (Forall₂ map_cons mem_cons mem_map mem_map_of_mem not_mem_nil range sum_cons)

/-! The differences that `diff_compare_bytes` finds. -/

theorem byteAt_ok (inside : index < bytes.length) : byteAt bytes index = .ok (bytes.getD index 0) := by
  simp [byteAt, List.getElem?_eq_getElem inside]

theorem diffOffsets_ok (filled : left.size = left.content.length)
  (sizes : left.content.length = right.content.length) :
  ∃ offsets, diffOffsets left right = .ok offsets ∧
    ∀ offset, offset ∈ offsets ↔ left.content[offset]? ≠ right.content[offset]? := by
  have read : (range left.size).mapM (fun offset => do
      let first ← byteAt left.content offset
      let second ← byteAt right.content offset
      pure (offset, first, second)) = Except.ok ((range left.size).map fun offset =>
        (offset, left.content.getD offset 0, right.content.getD offset 0)) := by
    refine mapM_ok fun offset member => ?_
    have inside := filled ▸ List.mem_range.mp member
    rw [bind_of_ok (byteAt_ok inside), bind_of_ok (byteAt_ok (sizes ▸ inside))]
    rfl
  refine ⟨_, by rw [diffOffsets, bind_of_ok read]; rfl, fun offset => ?_⟩
  by_cases inside : offset < left.content.length
  · have other := sizes ▸ inside
    simp [filled, inside, other]
  rw [List.getElem?_eq_none (by omega), List.getElem?_eq_none (by omega)]
  simp [filled, inside]

theorem diffCompareBytes_iff
  (filled : ∀ sect ∈ sameSects images name, sect.size = size ∧ sect.content.length = size)
  (ran : diffCompareBytes images name = .ok diffAddr) (offset : Nat) :
  offset ∈ diffAddr ↔ ∃ left ∈ sameSects images name, ∃ right ∈ sameSects images name,
    left.content[offset]? ≠ right.content[offset]? := by
  obtain ⟨offsets, compared, finished⟩ := ok_of_bind ran
  cases finished
  have each := forall₂_of_mapM compared
  have known : ∀ pair ∈ (sameSects images name).zip (sameSects images name).tail, ∀ found,
      diffOffsets pair.1 pair.2 = .ok found →
        (offset ∈ found ↔ pair.1.content[offset]? ≠ pair.2.content[offset]?) := by
    intro pair member found done
    obtain ⟨leftMem, rightMem⟩ := List.of_mem_zip member
    have leftFilled := filled _ leftMem
    have rightFilled := filled _ (List.mem_of_mem_tail rightMem)
    obtain ⟨other, same, differ⟩ := diffOffsets_ok (leftFilled.1.trans leftFilled.2.symm)
      (leftFilled.2.trans rightFilled.2.symm)
    rw [same] at done
    cases done
    exact differ offset
  rw [List.mem_flatten]
  constructor
  · rintro ⟨found, member, inside⟩
    obtain ⟨pair, pairMem, done⟩ := forall₂_mem_right each member
    obtain ⟨leftMem, rightMem⟩ := List.of_mem_zip pairMem
    exact ⟨_, leftMem, _, List.mem_of_mem_tail rightMem, (known pair pairMem found done).mp inside⟩
  rintro ⟨left, leftMem, right, rightMem, differ⟩
  by_contra none
  refine differ (eq_of_adjacent_eq (fun sect : ElfSection => sect.content[offset]?) ?_
    left leftMem right rightMem)
  intro pair pairMem
  by_contra apart
  obtain ⟨found, foundMem, done⟩ := forall₂_mem_left each pairMem
  exact none ⟨found, foundMem, (known pair pairMem found done).mpr apart⟩

/-! A library's text section in the unikernels that contain it. -/

def Differs (elfs : List Elf) (name : String) (offset : Nat) : Prop :=
  ∃ left ∈ elfs, ∃ right ∈ elfs, ∃ leftSect rightSect, left.getSection name = some leftSect ∧
    right.getSection name = some rightSect ∧ leftSect.content[offset]? ≠ rightSect.content[offset]?

/-- A library section that is linked with a stub table of its own, and alike in all
unikernels up to the operands of its instructions. -/
structure SharedText (decode : List UInt8 → Nat → List Ins) (rewriteAll : Bool)
  (elfs : List Elf) (name : String) : Prop where
  library : name ≠ ".text"
  separate : ∀ other ∈ name :: sectionNames rewriteAll elfs, nameInd other ≠ name
  linked : ∀ elf ∈ elfs, ∀ sect, elf.getSection name = some sect →
    sect.size = sect.content.length ∧ ∃ ind, elf.getSection (nameInd name) = some ind
  comparable : ∀ left ∈ elfs, ∀ right ∈ elfs, ∀ leftText rightText,
    left.text? decode name = some leftText → right.text? decode name = some rightText →
      Comparable leftText rightText

def Identical (name : String) (images : List Image) : Prop :=
  ∀ left ∈ images, ∀ right ∈ images, ∀ leftSect rightSect,
    left.binary.getSection name = some leftSect → right.binary.getSection name = some rightSect →
      leftSect.content = rightSect.content

def rewriteBefore (decode : List UInt8 → Nat → List Ins) (rewriteAll : Bool)
  (mapsSizeLibs : Dict String Nat) (elfs : List Elf) (name : String) :
  Except PyError Rewriting :=
  ((sectionNames rewriteAll elfs).takeWhile (· ≠ name)).foldlM (rewriteSection decode)
    ⟨elfs.map processFile, mapsSizeLibs⟩

def PairsSettled (decode : List UInt8 → Nat → List Ins) (elfs : List Elf) (name : String)
  (images : List Image) : Prop :=
  ∀ left ∈ images, ∀ right ∈ images, ∀ leftText rightText,
    left.source.text? decode name = some leftText →
      right.source.text? decode name = some rightText →
        Settled (Differs elfs name) left.uk right.uk leftText rightText

/-- If the section is not the same everywhere, it is rewritten, and every two
unikernels decide alike on the instructions that differ. -/
def AllSettled (decode : List UInt8 → Nat → List Ins) (rewriteAll : Bool) (elfs : List Elf)
  (name : String) (before : Rewriting) : Prop :=
  (∃ offset, Differs elfs name offset) →
    name ∈ sectionNames rewriteAll elfs ∧ PairsSettled decode elfs name before.images

def Unwritten (decode : List UInt8 → Nat → List Ins) (elfs : List Elf) (name : String) : Prop :=
  ∀ elf ∈ elfs, ∀ text, elf.text? decode name = some text →
    ∀ ins ∈ text.code, NoStubs text.sect text.start (stubRoom text.code) ins

section

variable {elf : Elf}

theorem text?_eq_some (found : elf.text? decode name = some text) :
  ∃ sect ind, elf.getSection name = some sect ∧ elf.getSection (nameInd name) = some ind ∧
    text = ⟨sect.bounds, ind.virtualAddress, sect.content,
      untilMarker (decode sect.content sect.virtualAddress)⟩ := by
  simp only [Elf.text?, Option.bind_eq_some_iff, Option.map_eq_some_iff] at found
  obtain ⟨sect, hasSect, ind, hasInd, rfl⟩ := found
  exact ⟨sect, ind, hasSect, hasInd, rfl⟩

theorem text?_of_sections (found : elf.getSection name = some sect)
  (hasInd : elf.getSection (nameInd name) = some ind) :
  elf.text? decode name = some ⟨sect.bounds, ind.virtualAddress, sect.content,
    untilMarker (decode sect.content sect.virtualAddress)⟩ := by
  simp only [Elf.text?, found, hasInd, Option.bind_some, Option.map_some]

theorem text_walks (capstone : Capstone decode) (found : elf.text? decode name = some text) :
  Walks text.sect.virtualAddress text.content text.code := by
  obtain ⟨sect, ind, _, _, rfl⟩ := text?_eq_some found
  exact (capstone.walks _ _).front (untilMarker_front)

theorem text_lengths (capstone : Capstone decode) (found : elf.text? decode name = some text) :
  ∀ ins ∈ text.code, (unredirected text.sect ins).length = ins.bytes.length := by
  obtain ⟨sect, ind, _, _, rfl⟩ := text?_eq_some found
  intro ins member
  unfold unredirected
  split
  · rename_i lea
    obtain ⟨_, lea⟩ := lea
    simp only [isVfscoreLea, Bool.and_eq_true] at lea
    rw [capstone.lea _ _ ins ((untilMarker_front).mem member) lea.1.2]
    rfl
  · rfl

theorem alike_codeLength (alike : Forall₂ Alike lefts rights) :
  codeLength lefts = codeLength rights := by
  unfold codeLength
  induction alike with
  | nil => rfl
  | cons first _ ih => rw [map_cons, map_cons, sum_cons, sum_cons, ih,
      first.length]

theorem alike_short (alike : Forall₂ Alike lefts rights) (short : codeLength lefts < 5) :
  lefts.flatMap Ins.bytes = rights.flatMap Ins.bytes := by
  induction alike with
  | nil => rfl
  | @cons left right lefts rights first _ ih =>
    simp only [codeLength, map_cons, sum_cons] at short ih
    rw [List.flatMap_cons, List.flatMap_cons, ih (by omega)]
    rcases first.field with same | ⟨front, leftOperand, _, back, opcode, four, _, bytes, _⟩
    · rw [same]
    have one := List.length_pos_iff.mpr opcode
    simp only [bytes, List.length_append] at short
    omega

end

theorem sameSects_kept (kept : Forall₂ (Kept name) before after) :
  sameSects after name = sameSects before name := by
  unfold sameSects
  induction kept with
  | nil => rfl
  | cons first _ ih => rw [List.filterMap_cons, List.filterMap_cons, first.text, ih]

theorem identical_kept (kept : Forall₂ (Kept name) before after) :
  Identical name after ↔ Identical name before := by
  have same : after.map (·.binary.getSection name) = before.map (·.binary.getSection name) := by
    induction kept with
    | nil => rfl
    | cons first _ ih => rw [map_cons, map_cons, first.text, ih]
  have listed (images : List Image) : Identical name images ↔
      ∀ left ∈ images.map (·.binary.getSection name), ∀ right ∈ images.map (·.binary.getSection name),
        ∀ leftSect rightSect, left = some leftSect → right = some rightSect →
          leftSect.content = rightSect.content := by
    simp only [Identical, List.forall_mem_map]
  rw [listed, listed, same]

theorem identical_processFile (elfs : List Elf) (name : String) :
  Identical name (elfs.map processFile) ↔ ¬∃ offset, Differs elfs name offset := by
  constructor
  · rintro identical
      ⟨offset, left, leftMem, right, rightMem, leftSect, rightSect, leftFound, rightFound, differ⟩
    refine differ (congrArg (·[offset]?) ?_)
    exact identical _ (mem_map_of_mem leftMem) _ (mem_map_of_mem rightMem) _ _ leftFound
      rightFound
  intro same left leftMem right rightMem leftSect rightSect leftFound rightFound
  obtain ⟨leftElf, leftIn, rfl⟩ := mem_map.mp leftMem
  obtain ⟨rightElf, rightIn, rfl⟩ := mem_map.mp rightMem
  refine List.ext_getElem? fun offset => ?_
  by_contra differ
  exact same ⟨offset, leftElf, leftIn, rightElf, rightIn, leftSect, rightSect, leftFound,
    rightFound, differ⟩

theorem rewritten_found (kept : Kept name (processFile elf) image)
  (ran : disassembleImage decode name diffAddr image = .ok (result, table))
  (found : elf.text? decode name = some text) : ∃ sect, result.binary.getSection name = some sect := by
  obtain ⟨sect, _, hasSect, _, _⟩ := text?_eq_some found
  have parsed : (processFile elf).binary.getSection name = some sect := hasSect
  have place := disassembleImage_place ran name
  rw [kept.text, parsed, Option.map_some, Option.map_eq_some_iff] at place
  exact ⟨place.choose, place.choose_spec.1⟩

section

variable (shared : SharedText decode rewriteAll elfs name)
include shared

theorem SharedText.text (member : elf ∈ elfs) (found : elf.getSection name = some sect) :
  ∃ text, elf.text? decode name = some text ∧ text.content = sect.content := by
  obtain ⟨_, ind, hasInd⟩ := shared.linked elf member sect found
  exact ⟨_, text?_of_sections found hasInd, rfl⟩

theorem SharedText.sizes (leftMem : left ∈ elfs) (rightMem : right ∈ elfs)
  (leftFound : left.getSection name = some leftSect) (rightFound : right.getSection name = some rightSect) :
  leftSect.content.length = rightSect.content.length := by
  obtain ⟨leftText, leftIs, leftContent⟩ := shared.text leftMem leftFound
  obtain ⟨rightText, rightIs, rightContent⟩ := shared.text rightMem rightFound
  rw [← leftContent, ← rightContent]
  exact (shared.comparable left leftMem right rightMem leftText rightText leftIs rightIs).size

variable (capstone : Capstone decode)
include capstone

variable (differ : ∃ offset, Differs elfs name offset)
include differ

theorem SharedText.codeLong (member : elf ∈ elfs) {text : Text}
  (found : elf.text? decode name = some text) : 5 ≤ codeLength text.code := by
  obtain ⟨offset, left, leftMem, right, rightMem, leftSect, rightSect, leftFound, rightFound,
    differ⟩ := differ
  obtain ⟨leftText, leftIs, leftContent⟩ := shared.text leftMem leftFound
  obtain ⟨rightText, rightIs, rightContent⟩ := shared.text rightMem rightFound
  have comparable := shared.comparable left leftMem right rightMem leftText rightText leftIs rightIs
  have same := shared.comparable elf member left leftMem text leftText found leftIs
  rw [alike_codeLength same.code]
  by_contra short
  refine differ (congrArg (·[offset]?) ?_)
  rw [← leftContent, ← rightContent, walks_content (text_walks capstone leftIs),
    walks_content (text_walks capstone rightIs), comparable.rest,
    alike_short comparable.code (by omega)]

theorem SharedText.long (member : elf ∈ elfs) (found : elf.getSection name = some sect) : 1 < sect.content.length := by
  obtain ⟨text, known, content⟩ := shared.text member found
  have long := shared.codeLong capstone differ member known
  have whole := congrArg List.length (walks_content (text_walks capstone known))
  rw [List.length_append, List.length_flatMap, ← codeLength, content] at whole
  omega

theorem SharedText.mem_sameSects (member : elf ∈ elfs)
  (found : elf.getSection name = some sect) : sect ∈ sameSects (elfs.map processFile) name := by
  have long := shared.long capstone differ member found
  have filled := (shared.linked elf member sect found).1
  refine List.mem_filterMap.mpr ⟨processFile elf, mem_map_of_mem member, ?_⟩
  have parsed : (processFile elf).binary.getSection name = some sect := found
  rw [parsed, Option.filter_some, if_pos (by rw [filled]; exact decide_eq_true long)]

omit differ

theorem SharedText.mem_diff_iff (kept : Forall₂ (Kept name) (elfs.map processFile) images)
  (ran : diffCompareBytes images name = .ok diffAddr) (offset : Nat) :
  offset ∈ diffAddr ↔ Differs elfs name offset := by
  have same := sameSects_kept kept
  have origin : ∀ sect ∈ sameSects (elfs.map processFile) name,
      ∃ elf ∈ elfs, elf.getSection name = some sect := by
    intro sect member
    obtain ⟨image, imageMem, found⟩ := List.mem_filterMap.mp member
    obtain ⟨elf, elfMem, rfl⟩ := mem_map.mp imageMem
    exact ⟨elf, elfMem, (Option.filter_eq_some_iff.mp found).1⟩
  have filled : ∃ size, ∀ sect ∈ sameSects images name, sect.size = size ∧ sect.content.length = size := by
    rw [same]
    cases sects : sameSects (elfs.map processFile) name with
    | nil => exact ⟨0, by simp⟩
    | cons first rest =>
      obtain ⟨firstElf, firstMem, firstFound⟩ := origin first (by rw [sects]; simp)
      refine ⟨first.content.length, fun sect member => ?_⟩
      obtain ⟨elf, elfMem, found⟩ := origin sect (sects ▸ member)
      have size := shared.sizes elfMem firstMem found firstFound
      exact ⟨(shared.linked elf elfMem sect found).1.trans size, size⟩
  obtain ⟨size, filled⟩ := filled
  rw [diffCompareBytes_iff filled ran offset, same]
  constructor
  · rintro ⟨left, leftMem, right, rightMem, differ⟩
    obtain ⟨leftElf, leftIn, leftFound⟩ := origin left leftMem
    obtain ⟨rightElf, rightIn, rightFound⟩ := origin right rightMem
    exact ⟨leftElf, leftIn, rightElf, rightIn, left, right, leftFound, rightFound, differ⟩
  rintro ⟨leftElf, leftIn, rightElf, rightIn, left, right, leftFound, rightFound, differ⟩
  have somewhere : ∃ offset, Differs elfs name offset :=
    ⟨offset, leftElf, leftIn, rightElf, rightIn, left, right, leftFound, rightFound, differ⟩
  exact ⟨left, shared.mem_sameSects capstone somewhere leftIn leftFound, right,
    shared.mem_sameSects capstone somewhere rightIn rightFound, differ⟩

theorem SharedText.rewritten (differ : ∃ offset, Differs elfs name offset) (member : elf ∈ elfs)
  {image result : Image} (kept : Kept name (processFile elf) image)
  (ran : disassembleImage decode name diffAddr image = .ok (result, table))
  (found : result.binary.getSection name = some sect) :
  ∃ text, elf.text? decode name = some text ∧ Copied image.uk diffAddr text sect.content := by
  have parsed : (processFile elf).binary.getSection name = elf.getSection name := rfl
  have dict := kept.dict.trans (dictSections_processFile elf name)
  have source : image.source.getSection name = elf.getSection name := by rw [kept.source]; rfl
  have separate := shared.separate name (by simp)
  rcases disassembleImage_cases ran with
    ⟨missing, rfl⟩ | ⟨bounds, text, ind, s, bt, known, content, stubs, done, _, binary⟩
  · rw [dict, source, Option.map_eq_none_iff, or_self] at missing
    rw [kept.text, parsed, missing] at found
    cases found
  rw [source] at content
  rw [dict, content] at known
  cases known
  obtain ⟨_, elfInd, hasInd⟩ := shared.linked elf member text content
  have place := kept.place (nameInd name)
  have parsedInd : (processFile elf).binary.getSection (nameInd name) = some elfInd := hasInd
  rw [stubs, parsedInd, Option.map_some, Option.map_some, Option.some_inj] at place
  have own : elf.text? decode name = some _ := text?_of_sections content hasInd
  have long : 5 ≤ codeLength (untilMarker (decode text.content text.bounds.virtualAddress)) :=
    shared.codeLong capstone differ member own
  obtain ⟨out, visited, result⟩ := disassemble_library capstone
    (by rw [ElfSection.bounds, getSection_name content]; exact shared.library) (by omega) done
  rw [place] at visited result
  refine ⟨_, own, text_walks capstone own, text_lengths capstone own, s, out, visited, ?_⟩
  rw [binary, getSection_setContent, if_neg separate.symm, getSection_setContent, if_pos rfl,
    kept.text, parsed, content, Option.map_some, Option.some_inj] at found
  rw [← found]
  exact result

theorem SharedText.rewritten_lockstep (differ : ∃ offset, Differs elfs name offset)
  (diffs : ∀ offset, offset ∈ diffAddr ↔ Differs elfs name offset) (leftMem : leftElf ∈ elfs)
  (rightMem : rightElf ∈ elfs) (leftKept : Kept name (processFile leftElf) left)
  (rightKept : Kept name (processFile rightElf) right)
  (leftRan : disassembleImage decode name diffAddr left = .ok (newLeft, leftTable))
  (rightRan : disassembleImage decode name diffAddr right = .ok (newRight, rightTable))
  (leftFound : newLeft.binary.getSection name = some leftSect)
  (rightFound : newRight.binary.getSection name = some rightSect) :
  ∃ leftText rightText, leftElf.text? decode name = some leftText ∧
    rightElf.text? decode name = some rightText ∧
    (Settled (Differs elfs name) left.uk right.uk leftText rightText →
      leftSect.content = rightSect.content) ∧
    (Unwritten decode elfs name → leftSect.content = rightSect.content →
      Settled (Differs elfs name) left.uk right.uk leftText rightText) := by
  obtain ⟨leftText, leftIs, leftOut⟩ :=
    shared.rewritten capstone differ leftMem leftKept leftRan leftFound
  obtain ⟨rightText, rightIs, rightOut⟩ :=
    shared.rewritten capstone differ rightMem rightKept rightRan rightFound
  have agree : ∀ offset, ¬Differs elfs name offset →
      leftText.content[offset]? = rightText.content[offset]? := by
    intro offset same
    obtain ⟨leftCopy, _, hasLeft, _, rfl⟩ := text?_eq_some leftIs
    obtain ⟨rightCopy, _, hasRight, _, rfl⟩ := text?_eq_some rightIs
    by_contra apart
    exact same ⟨leftElf, leftMem, rightElf, rightMem, leftCopy, rightCopy, hasLeft, hasRight, apart⟩
  obtain ⟨enough, needed⟩ := copies_lockstep diffs agree
    (shared.comparable leftElf leftMem rightElf rightMem leftText rightText leftIs rightIs) leftOut rightOut
  refine ⟨leftText, rightText, leftIs, rightIs, enough, fun unwritten => needed ?_ ?_⟩
  · exact unwritten leftElf leftMem leftText leftIs
  · exact unwritten rightElf rightMem rightText rightIs

theorem SharedText.rewriteSection_identical (kept : Forall₂ (Kept name) (elfs.map processFile) state.images)
  (ran : rewriteSection decode state name = .ok next) :
  (((∃ offset, Differs elfs name offset) → PairsSettled decode elfs name state.images) →
    Identical name next.images) ∧
  (Unwritten decode elfs name → Identical name next.images →
    (∃ offset, Differs elfs name offset) → PairsSettled decode elfs name state.images) := by
  obtain ⟨diffAddr, compared, ran⟩ := ok_of_bind ran
  have diffs := shared.mem_diff_iff capstone kept compared
  have origin : ∀ image ∈ state.images, ∃ elf ∈ elfs, Kept name (processFile elf) image := by
    intro image member
    obtain ⟨parsed, parsedMem, keeps⟩ := forall₂_mem_right kept member
    obtain ⟨elf, elfMem, rfl⟩ := mem_map.mp parsedMem
    exact ⟨elf, elfMem, keeps⟩
  unfold disassembleSect at ran
  split at ran
  · rename_i empty
    cases ran
    have same : ¬∃ offset, Differs elfs name offset := by
      rintro ⟨offset, differ⟩
      have member := (diffs offset).mpr differ
      rw [List.isEmpty_iff.mp empty] at member
      cases member
    refine ⟨fun _ => ?_, fun _ _ differ => absurd differ same⟩
    exact (identical_kept kept).mpr ((identical_processFile elfs name).mpr same)
  rename_i some
  obtain ⟨rewritten, done, finished⟩ := ok_of_bind ran
  cases finished
  have each := forall₂_of_mapM done
  obtain ⟨offset, member⟩ := List.exists_mem_of_ne_nil diffAddr (by simpa using some)
  have differ : ∃ offset, Differs elfs name offset := ⟨offset, (diffs offset).mp member⟩
  constructor
  · intro settled left leftMem right rightMem leftSect rightSect leftFound rightFound
    obtain ⟨⟨_, leftTable⟩, leftIn, rfl⟩ := mem_map.mp leftMem
    obtain ⟨⟨_, rightTable⟩, rightIn, rfl⟩ := mem_map.mp rightMem
    obtain ⟨oldLeft, oldLeftMem, leftRan⟩ := forall₂_mem_right each leftIn
    obtain ⟨oldRight, oldRightMem, rightRan⟩ := forall₂_mem_right each rightIn
    obtain ⟨leftElf, leftElfMem, leftKept⟩ := origin oldLeft oldLeftMem
    obtain ⟨rightElf, rightElfMem, rightKept⟩ := origin oldRight oldRightMem
    obtain ⟨leftText, rightText, leftIs, rightIs, enough, _⟩ := shared.rewritten_lockstep capstone
      differ diffs leftElfMem rightElfMem leftKept rightKept leftRan rightRan leftFound rightFound
    refine enough (settled differ oldLeft oldLeftMem oldRight oldRightMem leftText rightText ?_ ?_)
    · rw [leftKept.source]
      exact leftIs
    rw [rightKept.source]
    exact rightIs
  intro unwritten identical _ left leftMem right rightMem leftText rightText leftIs rightIs
  obtain ⟨⟨newLeft, leftTable⟩, leftIn, leftRan⟩ := forall₂_mem_left each leftMem
  obtain ⟨⟨newRight, rightTable⟩, rightIn, rightRan⟩ := forall₂_mem_left each rightMem
  obtain ⟨leftElf, leftElfMem, leftKept⟩ := origin left leftMem
  obtain ⟨rightElf, rightElfMem, rightKept⟩ := origin right rightMem
  rw [leftKept.source] at leftIs
  rw [rightKept.source] at rightIs
  obtain ⟨leftSect, leftFound⟩ := rewritten_found leftKept leftRan leftIs
  obtain ⟨rightSect, rightFound⟩ := rewritten_found rightKept rightRan rightIs
  obtain ⟨ownLeft, ownRight, leftOwn, rightOwn, _, needed⟩ := shared.rewritten_lockstep
    capstone differ diffs leftElfMem rightElfMem leftKept rightKept leftRan rightRan leftFound
    rightFound
  have sameLeft : ownLeft = leftText := Option.some.inj (leftOwn.symm.trans leftIs)
  have sameRight : ownRight = rightText := Option.some.inj (rightOwn.symm.trans rightIs)
  rw [sameLeft, sameRight] at needed
  refine needed unwritten (identical newLeft ?_ newRight ?_ leftSect rightSect leftFound rightFound)
  · exact mem_map_of_mem leftIn
  · exact mem_map_of_mem rightIn

omit capstone

theorem SharedText.kept (front : List String)
  (others : ∀ other ∈ front, other ∈ sectionNames rewriteAll elfs) (absent : name ∉ front)
  (ran : front.foldlM (rewriteSection decode) state = .ok next) :
  Forall₂ (Kept name) state.images next.images :=
  rewriteSections_kept shared.library absent
    (fun other member => shared.separate other (List.mem_cons_of_mem _ (others other member))) ran

end

/-- Under the premises, the copies come out identical when every two unikernels decide
alike; and only then, unless a copy already jumps to its stub table. -/
theorem shared_text_identical (decode : List UInt8 → Nat → List Ins) (rewriteAll : Bool)
  (mapsSizeLibs : Dict String Nat) (elfs : List Elf) (name : String)
  (capstone : Capstone decode) (shared : SharedText decode rewriteAll elfs name)
  (before after : Rewriting)
  (reached : rewriteBefore decode rewriteAll mapsSizeLibs elfs name = .ok before)
  (run : rewriteUkV decode rewriteAll mapsSizeLibs elfs = .ok after) :
  (AllSettled decode rewriteAll elfs name before → Identical name after.images) ∧
  (Unwritten decode elfs name → Identical name after.images →
    AllSettled decode rewriteAll elfs name before) := by
  unfold rewriteBefore at reached
  have absent : name ∉ (sectionNames rewriteAll elfs).takeWhile (· ≠ name) := by
    intro member
    simpa using List.mem_takeWhile_imp member
  have front := shared.kept _ (fun other => (List.takeWhile_subset _ ·)) absent reached
  by_cases processed : name ∈ sectionNames rewriteAll elfs
  · obtain ⟨back, split⟩ := eq_takeWhile_append_of_mem processed
    have distinct : (sectionNames rewriteAll elfs).Nodup := Dict.distinct _
    rw [split, List.nodup_append, List.nodup_cons] at distinct
    have run : ((sectionNames rewriteAll elfs).takeWhile (· ≠ name) ++ name :: back).foldlM
        (rewriteSection decode) ⟨elfs.map processFile, mapsSizeLibs⟩ = .ok after := by
      rw [← split]
      exact run
    rw [List.foldlM_append, bind_of_ok reached] at run
    obtain ⟨middle, step, rest⟩ := ok_of_bind run
    have tail := shared.kept back (fun other member => by rw [split]; simp [member])
      distinct.2.1.1 rest
    rw [identical_kept tail]
    obtain ⟨enough, needed⟩ := shared.rewriteSection_identical capstone front step
    exact ⟨fun settled => enough fun differ => (settled differ).2,
      fun unwritten identical differ => ⟨processed, needed unwritten identical differ⟩⟩
  have all : (sectionNames rewriteAll elfs).takeWhile (· ≠ name) = sectionNames rewriteAll elfs := by
    refine List.takeWhile_eq_self_iff.mpr fun other member => ?_
    have different : other ≠ name := fun same => processed (same ▸ member)
    simpa using different
  rw [all] at reached
  cases reached.symm.trans run
  rw [identical_kept front, identical_processFile]
  exact ⟨fun settled differ => processed (settled differ).1, fun _ same differ => absurd differ same⟩

/-! A decoder of five-byte calls, and unikernels in which a library's one call leads to
the given place. -/

def decodeCalls : List UInt8 → Nat → List Ins
  | op :: b₀ :: b₁ :: b₂ :: b₃ :: rest, base =>
    if op = 0xe8 then
      let target := (base : Int) + 5 + ofSignedBytes [b₀, b₁, b₂, b₃]
      ⟨base, "call", "0x" ++ hexText target.toNat, [op, b₀, b₁, b₂, b₃]⟩ :: decodeCalls rest (base + 5)
    else []
  | _, _ => []

theorem decodeCalls_ins (member : ins ∈ decodeCalls content base) :
  ins.mnemonic = "call" ∧ ins.bytes.head? = some 0xe8 := by
  induction content, base using decodeCalls.induct with
  | case1 b₀ b₁ b₂ b₃ rest base ih =>
    rcases mem_cons.mp member with rfl | later
    · exact ⟨rfl, rfl⟩
    · exact ih later
  | case2 op b₀ b₁ b₂ b₃ rest base other =>
    rw [decodeCalls, if_neg other] at member
    cases member
  | case3 content base short =>
    rw [decodeCalls] at member
    · cases member
    · exact short

theorem capstone_decodeCalls : Capstone decodeCalls where
  walks content base := by
    induction content, base using decodeCalls.induct with
    | case1 b₀ b₁ b₂ b₃ rest base ih => exact ⟨rfl, ⟨rest, rfl⟩, ih⟩
    | case2 op b₀ b₁ b₂ b₃ rest base other =>
      rw [decodeCalls, if_neg other]
      trivial
    | case3 content base short =>
      rw [decodeCalls]
      · trivial
      · exact short
  lea content base ins member lea := by
    obtain ⟨_, opcode⟩ := decodeCalls_ins member
    obtain ⟨rest, bytes⟩ := List.head?_eq_some_iff.mp opcode
    simp [bytes] at lea
  int1 content base ins member marker := by
    obtain ⟨mnemonic, _⟩ := decodeCalls_ins member
    simp [Ins.isMarker, mnemonic] at marker

def callingElf (callee : Nat) : Elf where
  sections := [ ⟨".text.libnet", 0x106000, 5, 0xe8 :: signedBytes (callee - 0x106005)⟩,
    ⟨".ind.libnet", 0x107000, 0, []⟩,
    ⟨".text.libc", callee, 1, [0xc3]⟩]
  distinct := by simp

def callingText (operand : List UInt8) (opStr : String) : Text where
  sect := ⟨".text.libnet", 0x106000, 0x106005⟩
  start := 0x107000
  content := 0xe8 :: operand
  code := [⟨0x106000, "call", opStr, 0xe8 :: operand⟩]

theorem comparable_callingText (leftFour : leftOperand.length = 4) (rightFour : rightOperand.length = 4)
  (leftRip : occursIn "rip" leftOp = false) (rightRip : occursIn "rip" rightOp = false) :
  Comparable (callingText leftOperand leftOp) (callingText rightOperand rightOp) := by
  refine ⟨by simp [callingText, leftFour, rightFour], by simp [callingText], ?_, ?_⟩
  · refine Forall₂.cons ⟨rfl, leftRip.trans rightRip.symm, rfl, .inr ?_⟩ Forall₂.nil
    exact ⟨[0xe8], leftOperand, rightOperand, [], by simp, leftFour, rightFour, by simp, by simp⟩
  have rightEmpty : rightOperand.drop 4 = [] := List.drop_eq_nil_of_le (by omega)
  simp [callingText, codeLength]

theorem text?_callingElf (member : elf ∈ [callingElf 0x108000, callingElf 0x109000, callingElf 0x1000000]) :
  ∃ operand opStr, operand.length = 4 ∧ occursIn "rip" opStr = false ∧
    elf.text? decodeCalls ".text.libnet" = some (callingText operand opStr) := by
  simp only [mem_cons, not_mem_nil, or_false] at member
  rcases member with rfl | rfl | rfl
  · exact ⟨[0xfb, 0x1f, 0, 0], "0x108000", rfl, by decide, rfl⟩
  · exact ⟨[0xfb, 0x2f, 0, 0], "0x109000", rfl, by decide, rfl⟩
  · exact ⟨[0xfb, 0x9f, 0xef, 0], "0x1000000", rfl, by decide, rfl⟩

theorem shared_callingElf
  (members : ∀ elf ∈ elfs, elf ∈ [callingElf 0x108000, callingElf 0x109000, callingElf 0x1000000])
  (separate : ∀ other ∈ ".text.libnet" :: sectionNames false elfs, nameInd other ≠ ".text.libnet") :
  SharedText decodeCalls false elfs ".text.libnet" := by
  refine ⟨by decide, separate, ?_, ?_⟩
  · intro elf member sect found
    have known := members elf member
    simp only [mem_cons, not_mem_nil, or_false] at known
    rcases known with rfl | rfl | rfl <;>
      exact ⟨by cases found; rfl, _, rfl⟩
  intro left leftMem right rightMem leftText rightText leftIs rightIs
  obtain ⟨_, _, leftFour, leftRip, leftFound⟩ := text?_callingElf (members left leftMem)
  obtain ⟨_, _, rightFour, rightRip, rightFound⟩ := text?_callingElf (members right rightMem)
  rw [leftFound] at leftIs
  rw [rightFound] at rightIs
  cases leftIs
  cases rightIs
  exact comparable_callingText leftFour rightFour leftRip rightRip

theorem redirects_callingElf (member : elf ∈ [callingElf 0x108000, callingElf 0x109000]) :
  ∃ operand opStr, elf.text? decodeCalls ".text.libnet" = some (callingText operand opStr) ∧
    redirects (processFile elf).uk ⟨".text.libnet", 0x106000, 0x106005⟩
      ⟨0x106000, "call", opStr, 0xe8 :: operand⟩ = true := by
  simp only [mem_cons, not_mem_nil, or_false] at member
  rcases member with rfl | rfl
  · exact ⟨[0xfb, 0x1f, 0, 0], "0x108000", rfl, by decide⟩
  · exact ⟨[0xfb, 0x2f, 0, 0], "0x109000", rfl, by decide⟩

theorem settled_callingElf :
  PairsSettled decodeCalls [callingElf 0x108000, callingElf 0x109000] ".text.libnet"
    ([callingElf 0x108000, callingElf 0x109000].map processFile) := by
  intro left leftMem right rightMem leftText rightText leftIs rightIs
  obtain ⟨leftElf, leftIn, rfl⟩ := mem_map.mp leftMem
  obtain ⟨rightElf, rightIn, rfl⟩ := mem_map.mp rightMem
  obtain ⟨_, _, leftFound, leftMoves⟩ := redirects_callingElf leftIn
  obtain ⟨_, _, rightFound, rightMoves⟩ := redirects_callingElf rightIn
  cases leftFound.symm.trans leftIs
  cases rightFound.symm.trans rightIs
  refine ⟨fun pair member _ => ?_, List.pairwise_singleton _ _⟩
  cases List.mem_singleton.mp member
  refine ⟨leftMoves.trans rightMoves.symm, fun stays => ?_⟩
  exact absurd (leftMoves.symm.trans stays) (by decide)

/-- Both unikernels redirect the call, and the copies come out the same. -/
theorem shared_text_identical_sample : ∃ before after, rewriteBefore decodeCalls false .empty
      [callingElf 0x108000, callingElf 0x109000] ".text.libnet" = .ok before ∧
    rewriteUkV decodeCalls false .empty [callingElf 0x108000, callingElf 0x109000] = .ok after ∧
    AllSettled decodeCalls false [callingElf 0x108000, callingElf 0x109000] ".text.libnet" before ∧
    Identical ".text.libnet" after.images := by
  obtain ⟨before, reached⟩ : ∃ before, rewriteBefore decodeCalls false .empty
      [callingElf 0x108000, callingElf 0x109000] ".text.libnet" = .ok before := ⟨_, rfl⟩
  obtain ⟨after, run⟩ : ∃ after, rewriteUkV decodeCalls false .empty
      [callingElf 0x108000, callingElf 0x109000] = .ok after := ⟨_, rfl⟩
  have shared : SharedText decodeCalls false [callingElf 0x108000, callingElf 0x109000]
      ".text.libnet" := shared_callingElf (by simp) (by decide)
  have settled : AllSettled decodeCalls false [callingElf 0x108000, callingElf 0x109000]
      ".text.libnet" before := by
    cases reached
    exact fun _ => ⟨by decide, settled_callingElf⟩
  refine ⟨before, after, reached, run, settled, ?_⟩
  exact (shared_text_identical decodeCalls false .empty _ ".text.libnet" capstone_decodeCalls shared
    before after reached run).1 settled

/-- A call to an address of seven digits is left alone, so the copies stay different. -/
theorem long_target_not_shared :
  SharedText decodeCalls false [callingElf 0x108000, callingElf 0x1000000] ".text.libnet" ∧
    ∃ after, rewriteUkV decodeCalls false .empty [callingElf 0x108000, callingElf 0x1000000] = .ok after ∧
        ¬Identical ".text.libnet" after.images := by
  refine ⟨shared_callingElf (by simp) (by decide), ?_⟩
  have contents : ∃ maps left right, rewriteUkV decodeCalls false .empty
      [callingElf 0x108000, callingElf 0x1000000] = .ok ⟨[left, right], maps⟩ ∧
      (left.binary.getSection ".text.libnet").map ElfSection.content =
        some [0xe8, 0xfb, 0x0f, 0, 0] ∧
      (right.binary.getSection ".text.libnet").map ElfSection.content =
        some [0xe8, 0xfb, 0x9f, 0xef, 0] := ⟨_, _, _, rfl, rfl, rfl⟩
  obtain ⟨maps, left, right, run, leftContent, rightContent⟩ := contents
  refine ⟨_, run, fun identical => ?_⟩
  obtain ⟨leftSect, leftFound, leftBytes⟩ := Option.map_eq_some_iff.mp leftContent
  obtain ⟨rightSect, rightFound, rightBytes⟩ := Option.map_eq_some_iff.mp rightContent
  have same := identical left (by simp) right (by simp) leftSect rightSect leftFound rightFound
  rw [leftBytes, rightBytes] at same
  exact absurd same (by decide)

end Spacer.Rewriter
