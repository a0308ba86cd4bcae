import Spacer.Aligner.Aslr
import Spacer.Rewriter.Identical

/-!
The sizes that `update_map` records for the next link, against the stub tables that
`rewrite_uk_v` generates.
-/

namespace Spacer.Rewriter

open Lib

def Ins.emittedSize (ins : Ins) : Nat :=
  if ins.shape = .ripRelative then
    match ripDisplacement ins.opStr.toList with
    | some displacement =>
      (relocate ins.bytes (signedBytes displacement) (signedBytes 0)).length + 1
    | none => 0
  else ins.stubSize

/-- The bytes of the stubs for the instructions that are `wanted`; `seen` are the texts that
have one. -/
def stubBytes (wanted : Ins → Bool) : List String → List Ins → Nat
  | _, [] => 0
  | seen, ins :: rest =>
    if wanted ins ∧ ins.text ∉ seen then ins.emittedSize + stubBytes wanted (ins.text :: seen) rest
    else stubBytes wanted seen rest

theorem relocate_length_eq (bytes previous : List UInt8) (same : offset.length = other.length) :
  (relocate bytes previous offset).length = (relocate bytes previous other).length := by
  unfold relocate
  split <;> simp [same]

theorem emission_length (found : usedAddr ins = some used) (added : emission uk ins s used = .ok result) :
  result.bt.length = s.sectionInd.bt.length + ins.emittedSize := by
  by_cases five : ins.bytes.length = 5
  · have absolute : ins.shape ≠ .ripRelative := by
      unfold Ins.shape
      split_ifs <;> simp
    rw [emission, if_pos five] at added
    obtain ⟨stub, emits, rfl⟩ := addIndBytes_emits five (by simp [Ins.operand, found]) added
    simp [SectionInd.extend, Ins.emittedSize, absolute, emits.length absolute]
  rw [emission, if_neg five] at added
  have emitted := addBigger_emitBigger added
  by_cases rip : occursIn "rip" ins.opStr = true
  · have shape : ins.shape = .ripRelative := by simp [Ins.shape, five, rip]
    rw [emitBigger, if_pos rip] at emitted
    simp only [SectionInd.addIndBytesBiggerRip, SectionInd.optimize] at emitted
    cases displaced : ripDisplacement ins.opStr.toList with
    | none => simp [displaced] at emitted
    | some displacement =>
      simp only [displaced] at emitted
      obtain ⟨previous, first, emitted⟩ := ok_of_bind emitted
      obtain ⟨offset, second, finished⟩ := ok_of_bind emitted
      obtain ⟨_, rfl⟩ := toSignedBytes_eq_ok first
      obtain ⟨_, rfl⟩ := toSignedBytes_eq_ok second
      cases finished
      have same := relocate_length_eq ins.bytes (signedBytes displacement)
        (show (signedBytes (ins.address + displacement - s.sectionInd.addr)).length =
          (signedBytes 0).length by simp)
      simp [SectionInd.addInsBytesRet, SectionInd.extend, Ins.emittedSize, shape, displaced, same]
  have absolute : ins.shape ≠ .ripRelative := fun shape => rip (ripRelative_text shape)
  obtain ⟨stub, emits, rfl⟩ := emitBigger_emits five (fun noted => absurd noted rip) emitted
  simp [SectionInd.extend, Ins.emittedSize, absolute, emits.length absolute]

def Listed (seen : List String) (s : TextSection) : Prop :=
  ∀ text, s.dataTarget.get? text = none ↔ text ∉ seen

theorem listed_fresh : Listed [] (.fresh sect start) := by
  intro text
  simp [TextSection.fresh]

theorem visitIns_stubs (listed : Listed seen s) (ran : visitIns uk problematic s ins = .ok (result, out)) :
  result.sect = s.sect ∧
    if (problematic ins && redirects uk s.sect ins) = true ∧ ins.text ∉ seen then
      Listed (ins.text :: seen) result ∧
        result.sectionInd.bt.length = s.sectionInd.bt.length + ins.emittedSize
    else Listed seen result ∧ result.sectionInd.bt.length = s.sectionInd.bt.length := by
  unfold visitIns at ran
  cases differs : problematic ins with
  | false =>
    simp only [differs] at ran
    cases ran
    simpa using listed
  | true =>
    simp only [differs] at ran
    have spec := rewriteIns_spec ran
    split at spec
    · rename_i moves
      obtain ⟨used, addr, found, chosen, _, _⟩ := spec
      rcases target_cases chosen with ⟨fresh, _, ind, added, rfl⟩ | ⟨uses, known, rfl⟩
      · have new := (listed ins.text).mp fresh
        rw [if_pos ⟨by simp [moves], new⟩]
        refine ⟨rfl, fun text => ?_, emission_length found added⟩
        by_cases same : text = ins.text
        · simp [same]
        · simp [same, listed text]
      have old : ins.text ∈ seen := by
        by_contra new
        rw [(listed ins.text).mpr new] at known
        cases known
      rw [if_neg fun both => both.2 old]
      refine ⟨rfl, fun text => ?_, rfl⟩
      by_cases same : text = ins.text
      · simp [same, old]
      · simp [same, listed text]
    rename_i stays
    obtain ⟨rfl, _⟩ := spec
    rw [if_neg fun both => stays (by simpa using both.1)]
    exact ⟨rfl, listed, rfl⟩

theorem visitAll_stubs (listed : Listed seen s) (ran : visitAll uk problematic s inss = .ok (result, out)) :
  result.sectionInd.bt.length = s.sectionInd.bt.length +
    stubBytes (fun ins => problematic ins && redirects uk s.sect ins) seen inss := by
  induction inss generalizing s seen out with
  | nil =>
    cases ran
    rfl
  | cons ins rest ih =>
    obtain ⟨⟨middle, first⟩, visited, ran⟩ := ok_of_bind ran
    obtain ⟨⟨last, tail⟩, later, finished⟩ := ok_of_bind ran
    cases finished
    obtain ⟨sect, grown⟩ := visitIns_stubs listed visited
    rw [stubBytes]
    split at grown
    · rename_i added
      rw [if_pos added, ih grown.1 later, grown.2, sect, Nat.add_assoc]
    rename_i kept
    rw [if_neg kept, ih grown.1 later, grown.2, sect]

def stubNeed (decode : List UInt8 → Nat → List Ins) (sectName : String) (diffAddr : List Nat)
  (image : Image) : Nat :=
  match image.uk.dictSections sectName, image.source.getSection sectName with
  | some sect, some source =>
    let skipped := if sect.name = ".text" then 0x9000 else 0
    let base := sect.virtualAddress + skipped
    let uk := if sect.name = ".text" then image.uk.rebase sect.name base else image.uk
    let touched := fun ins : Ins => (List.range ins.bytes.length).any fun offset =>
      (ins.address + offset) ∈ diffAddr.map (· + sect.virtualAddress)
    stubBytes (fun ins => touched ins && redirects uk { sect with virtualAddress := base } ins) []
      (untilMarker (decode (source.content.drop skipped) base))
  | _, _ => 0

theorem disassembleImage_length
  (ran : disassembleImage decode sectName diffAddr image = .ok (result, table)) :
  table.length = stubNeed decode sectName diffAddr image := by
  unfold disassembleImage at ran
  split at ran
  · rename_i sect source dict content
    split at ran
    · cases ran
    obtain ⟨⟨uk, s, bt⟩, done, finished⟩ := ok_of_bind ran
    cases finished
    obtain ⟨⟨last, out, marker⟩, looped, done⟩ := ok_of_bind done
    have same : s = last := by
      dsimp only at done
      split at done <;> cases done <;> rfl
    obtain ⟨visited, _⟩ := disassembleLoop_visitAll looped
    have length := visitAll_stubs (listed_fresh) visited
    simp only [same, stubNeed, dict, content]
    exact length.trans (Nat.zero_add _)
  rename_i missing
  cases ran
  unfold stubNeed
  split
  · rename_i dict content
    exact absurd content (missing _ _ dict)
  · rfl

def generatedTables (decode : List UInt8 → Nat → List Ins) (state : Rewriting)
  (sectName : String) : Except PyError (List (List UInt8)) := do
  let diffAddr ← diffCompareBytes state.images sectName
  if diffAddr.isEmpty then pure []
  else do
    let rewritten ← state.images.mapM (disassembleImage decode sectName diffAddr)
    pure (rewritten.map Prod.snd)

theorem rewriteSection_map (ran : rewriteSection decode state sectName = .ok next) :
  ∃ tables, generatedTables decode state sectName = .ok tables ∧
    next.mapsSizeLibs = tables.foldl (updateMap sectName) state.mapsSizeLibs := by
  obtain ⟨diffAddr, compared, ran⟩ := ok_of_bind ran
  rw [generatedTables, bind_of_ok compared]
  unfold disassembleSect at ran
  split at ran
  · rename_i empty
    cases ran
    exact ⟨[], by rw [if_pos empty]; rfl, rfl⟩
  rename_i filled
  obtain ⟨rewritten, done, finished⟩ := ok_of_bind ran
  cases finished
  refine ⟨rewritten.map Prod.snd, ?_, rfl⟩
  rw [if_neg filled, bind_of_ok done]
  rfl

theorem updateMap_other (different : name ≠ sectName) (tables : List (List UInt8)) :
  (tables.foldl (updateMap sectName) mapsSizeLibs).get? name = mapsSizeLibs.get? name := by
  induction tables generalizing mapsSizeLibs with
  | nil => rfl
  | cons table rest ih =>
    rw [List.foldl_cons, ih, updateMap]
    split
    · simp [different]
    · rfl

theorem rewriteSections_map {names : List String} (absent : name ∉ names)
  (ran : names.foldlM (rewriteSection decode) state = .ok next) :
  next.mapsSizeLibs.get? name = state.mapsSizeLibs.get? name := by
  induction names generalizing state with
  | nil =>
    cases ran
    rfl
  | cons other rest ih =>
    obtain ⟨middle, first, ran⟩ := ok_of_bind ran
    rw [List.mem_cons, not_or] at absent
    obtain ⟨tables, _, map⟩ := rewriteSection_map first
    rw [ih absent.2 ran, map, updateMap_other absent.1]

def lastSize (sizes : List Nat) : Nat := (sizes.filter (0 < ·)).getLastD 0

theorem updateMap_last (tables : List (List UInt8)) :
  (tables.foldl (updateMap sectName) mapsSizeLibs).get? sectName =
    if tables.all List.isEmpty then mapsSizeLibs.get? sectName
    else some (lastSize (tables.map List.length)) := by
  induction tables using List.reverseRecOn with
  | nil => rfl
  | append_singleton front table ih =>
    rw [List.foldl_append, List.foldl_cons, updateMap]
    cases table with
    | nil => simpa [lastSize] using ih
    | cons byte rest => simp [lastSize]

section

variable (decode : List UInt8 → Nat → List Ins) (rewriteAll : Bool)
  (mapsSizeLibs : Dict String Nat) (elfs : List Elf)

/-- Every table generated for a section fits in the size recorded for the section, and in what
the next link reserves for the library from it. -/
def SizesSufficient (after : Rewriting) : Prop :=
  ∀ name ∈ sectionNames rewriteAll elfs, ∀ before tables,
    rewriteBefore decode rewriteAll mapsSizeLibs elfs name = .ok before →
    generatedTables decode before name = .ok tables → ∀ table ∈ tables,
      table.length ≤ (after.mapsSizeLibs.get? name).getD 0 ∧
      ∀ lib, name = ".text." ++ lib ∨
          name = ".text.rodata." ++ lib ∧ after.mapsSizeLibs.get? (".text." ++ lib) = none →
        table.length ≤ Aligner.sizeIndOf after.mapsSizeLibs lib

def LastNeedsMost : Prop :=
  ∀ name ∈ sectionNames rewriteAll elfs, ∀ before diffAddr,
    rewriteBefore decode rewriteAll mapsSizeLibs elfs name = .ok before →
    diffCompareBytes before.images name = .ok diffAddr → diffAddr ≠ [] →
      ∀ image ∈ before.images, stubNeed decode name diffAddr image ≤
        lastSize (before.images.map (stubNeed decode name diffAddr))

def lastNeedsMostAt (name : String) : Bool :=
  match rewriteBefore decode rewriteAll mapsSizeLibs elfs name with
  | .error _ => true
  | .ok before =>
    match diffCompareBytes before.images name with
    | .error _ => true
    | .ok diffAddr => diffAddr.isEmpty || before.images.all fun image =>
      stubNeed decode name diffAddr image ≤ lastSize (before.images.map (stubNeed decode name diffAddr))

theorem lastNeedsMost_iff : (∀ name ∈ sectionNames rewriteAll elfs,
    lastNeedsMostAt decode rewriteAll mapsSizeLibs elfs name = true) ↔
    LastNeedsMost decode rewriteAll mapsSizeLibs elfs := by
  refine forall₂_congr fun name _ => ?_
  unfold lastNeedsMostAt
  split
  · rename_i failed
    simp [failed]
  rename_i before reached
  split
  · rename_i failed
    refine iff_of_true rfl fun other diffAddr same compared => ?_
    cases reached.symm.trans same
    cases failed.symm.trans compared
  rename_i diffAddr compared
  rw [Bool.or_eq_true, List.isEmpty_iff, or_iff_not_imp_left]
  simp only [List.all_eq_true, decide_eq_true_eq]
  constructor
  · intro most other offsets same again differ
    cases reached.symm.trans same
    cases compared.symm.trans again
    exact most differ
  intro most differ
  exact most before diffAddr reached compared differ

instance : Decidable (LastNeedsMost decode rewriteAll mapsSizeLibs elfs) :=
  decidable_of_iff _ (lastNeedsMost_iff decode rewriteAll mapsSizeLibs elfs)

variable {decode rewriteAll mapsSizeLibs elfs}

theorem reserved_of_recorded (recorded : length ≤ (sizes.get? name).getD 0)
  (read : name = ".text." ++ lib ∨ name = ".text.rodata." ++ lib ∧ sizes.get? (".text." ++ lib) = none) :
  length ≤ Aligner.sizeIndOf sizes lib := by
  cases found : sizes.get? name with
  | none =>
    rw [found] at recorded
    exact Nat.le_trans recorded (Nat.zero_le _)
  | some size =>
    rcases read with rfl | ⟨rfl, unshadowed⟩
    · simpa [Aligner.sizeIndOf, found] using recorded
    · simpa [Aligner.sizeIndOf, found, unshadowed] using recorded

theorem tables_fit_iff (sectName : String) (tables : List (List UInt8)) (sizes : Dict String Nat) :
  (∀ table ∈ tables, table.length ≤ ((tables.foldl (updateMap sectName) sizes).get? sectName).getD 0) ↔
    ∀ table ∈ tables, table.length ≤ lastSize (tables.map List.length) := by
  rw [updateMap_last]
  split
  · rename_i empty
    have zero : ∀ table ∈ tables, table.length = 0 := by simpa using empty
    constructor
    · intro _ table member
      rw [zero table member]
      exact Nat.zero_le _
    intro _ table member
    rw [zero table member]
    exact Nat.zero_le _
  · exact Iff.rfl

theorem generatedTables_cases (generated : generatedTables decode state name = .ok tables) :
  ∃ diffAddr, diffCompareBytes state.images name = .ok diffAddr ∧
    (diffAddr = [] ∧ tables = [] ∨ diffAddr ≠ [] ∧
      tables.map List.length = state.images.map (stubNeed decode name diffAddr)) := by
  obtain ⟨diffAddr, compared, generated⟩ := ok_of_bind generated
  refine ⟨diffAddr, compared, ?_⟩
  split at generated
  · rename_i empty
    cases generated
    exact .inl ⟨List.isEmpty_iff.mp empty, rfl⟩
  rename_i filled
  obtain ⟨rewritten, done, finished⟩ := ok_of_bind generated
  cases finished
  refine .inr ⟨fun empty => filled (List.isEmpty_iff.mpr empty), ?_⟩
  rw [List.map_map]
  refine (List.forall₂_eq_eq_eq ▸ List.forall₂_map_left_iff.mpr (List.forall₂_map_right_iff.mpr ?_) : _ = _)
  exact ((forall₂_of_mapM done).imp fun image pair ran => disassembleImage_length ran).flip

theorem recorded_eq {after before : Rewriting}
  (run : rewriteUkV decode rewriteAll mapsSizeLibs elfs = .ok after)
  (processed : name ∈ sectionNames rewriteAll elfs)
  (reached : rewriteBefore decode rewriteAll mapsSizeLibs elfs name = .ok before) :
  ∃ tables, generatedTables decode before name = .ok tables ∧ after.mapsSizeLibs.get? name =
      (tables.foldl (updateMap name) before.mapsSizeLibs).get? name := by
  obtain ⟨back, split⟩ := eq_takeWhile_append_of_mem processed
  have distinct : (sectionNames rewriteAll elfs).Nodup := Dict.distinct _
  rw [split, List.nodup_append, List.nodup_cons] at distinct
  rw [rewriteUkV, split, List.foldlM_append] at run
  unfold rewriteBefore at reached
  rw [bind_of_ok reached] at run
  obtain ⟨next, step, rest⟩ := ok_of_bind run
  obtain ⟨tables, generated, map⟩ := rewriteSection_map step
  exact ⟨tables, generated, by rw [rewriteSections_map distinct.2.1.1 rest, map]⟩

end

/-- The recorded sizes suffice exactly when no unikernel needs more stubs for a section than the
last one that needs any. -/
theorem recorded_sizes_sufficient_iff (decode : List UInt8 → Nat → List Ins) (rewriteAll : Bool)
  (mapsSizeLibs : Dict String Nat) (elfs : List Elf) (after : Rewriting)
  (run : rewriteUkV decode rewriteAll mapsSizeLibs elfs = .ok after) :
  SizesSufficient decode rewriteAll mapsSizeLibs elfs after ↔
    LastNeedsMost decode rewriteAll mapsSizeLibs elfs := by
  constructor
  · intro sufficient name processed before diffAddr reached compared differ image member
    obtain ⟨tables, generated, recorded⟩ := recorded_eq run processed reached
    have fit := fun table inside =>
      (sufficient name processed before tables reached generated table inside).1
    rw [recorded, tables_fit_iff] at fit
    obtain ⟨offsets, same, ⟨empty, _⟩ | ⟨_, lengths⟩⟩ := generatedTables_cases generated
    · rw [compared] at same
      cases same
      exact absurd empty differ
    rw [compared] at same
    cases same
    rw [lengths] at fit
    have needed : stubNeed decode name diffAddr image ∈ tables.map List.length :=
      lengths ▸ List.mem_map_of_mem member
    obtain ⟨table, inside, length⟩ := List.mem_map.mp needed
    exact length ▸ fit table inside
  intro most name processed before tables reached generated table inside
  obtain ⟨others, again, recorded⟩ := recorded_eq run processed reached
  rw [generated] at again
  cases again
  have fit : ∀ table ∈ tables, table.length ≤ lastSize (tables.map List.length) := by
    obtain ⟨diffAddr, compared, ⟨_, rfl⟩ | ⟨differ, lengths⟩⟩ := generatedTables_cases generated
    · intro table member
      cases member
    intro table member
    rw [lengths]
    have needed : table.length ∈ before.images.map (stubNeed decode name diffAddr) :=
      lengths ▸ List.mem_map_of_mem member
    obtain ⟨image, held, length⟩ := List.mem_map.mp needed
    exact length ▸ most name processed before diffAddr reached compared differ image held
  have stored := (tables_fit_iff name tables before.mapsSizeLibs).mpr fit table inside
  rw [← recorded] at stored
  exact ⟨stored, fun lib read => reserved_of_recorded stored read⟩

def twoCallsElf (first second : Nat) : Elf where
  sections := [ ⟨".text.libnet", 0x106000, 10, 0xe8 :: signedBytes (first - 0x106005) ++
      0xe8 :: signedBytes (second - 0x10600a)⟩,
    ⟨".ind.libnet", 0x107000, 0, []⟩,
    ⟨".text.libc", 0x108000, 1, [0xc3]⟩,
    ⟨".text.libm", 0x109000, 1, [0xc3]⟩,
    ⟨".text.libz", 0x10a000, 1, [0xc3]⟩]
  distinct := by simp

theorem recorded_sizes_sufficient_calls : ∃ after, rewriteUkV decodeCalls false .empty
      [twoCallsElf 0x10a000 0x10a000, twoCallsElf 0x108000 0x109000] = .ok after ∧
    SizesSufficient decodeCalls false .empty
      [twoCallsElf 0x10a000 0x10a000, twoCallsElf 0x108000 0x109000] after := by
  obtain ⟨after, run⟩ : ∃ after, rewriteUkV decodeCalls false .empty
      [twoCallsElf 0x10a000 0x10a000, twoCallsElf 0x108000 0x109000] = .ok after := ⟨_, rfl⟩
  refine ⟨after, run, (recorded_sizes_sufficient_iff decodeCalls false .empty _ after run).mpr ?_⟩
  decide +kernel

/-- The second unikernel calls one function twice and needs one stub; its table is recorded,
and the first one's two stubs do not fit. -/
theorem recorded_size_too_small : ∃ after, rewriteUkV decodeCalls false .empty
      [twoCallsElf 0x108000 0x109000, twoCallsElf 0x10a000 0x10a000] = .ok after ∧
    after.mapsSizeLibs.get? ".text.libnet" = some 5 ∧
    ¬SizesSufficient decodeCalls false .empty
      [twoCallsElf 0x108000 0x109000, twoCallsElf 0x10a000 0x10a000] after := by
  obtain ⟨before, first, second, reached, generated, length⟩ : ∃ before first second,
      rewriteBefore decodeCalls false .empty
        [twoCallsElf 0x108000 0x109000, twoCallsElf 0x10a000 0x10a000] ".text.libnet" = .ok before ∧
      generatedTables decodeCalls before ".text.libnet" = .ok [first, second] ∧
      first.length = 10 := ⟨_, _, _, rfl, rfl, rfl⟩
  obtain ⟨after, run, recorded⟩ : ∃ after, rewriteUkV decodeCalls false .empty
        [twoCallsElf 0x108000 0x109000, twoCallsElf 0x10a000 0x10a000] = .ok after ∧
      after.mapsSizeLibs.get? ".text.libnet" = some 5 := ⟨_, rfl, rfl⟩
  refine ⟨after, run, recorded, fun sufficient => ?_⟩
  have fits := (sufficient ".text.libnet" (by decide +kernel) before _ reached generated first
    List.mem_cons_self).1
  rw [recorded, length] at fits
  exact absurd fits (by decide)

end Spacer.Rewriter
