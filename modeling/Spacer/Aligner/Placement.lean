import Spacer.Aligner.Core
import Spacer.Lib.Ranges

/-! What the placement passes write in compact mode without snapshot and grouping. -/

namespace Spacer.Aligner

open Lib List

variable (ukLib : UkLib)

def compactSize : Nat := ukLib.totalSize.text + ukLib.totalSize.rodata

def compactPages : Nat := roundToN (compactSize ukLib) pageSize

theorem dvd_roundToN (x : Nat) : pageSize ∣ roundToN x pageSize := dvd_roundUp x pageSize

theorem roundToN_of_dvd (aligned : pageSize ∣ x) : roundToN x pageSize = x :=
  roundUp_of_dvd (by decide) aligned

theorem roundToN_add (aligned : pageSize ∣ start) :
  roundToN (start + size) pageSize = start + roundToN size pageSize :=
  roundUp_add_of_dvd (by decide) aligned size

def compactItems (dce : Bool) (objects : List String) : Nat → List UkLib → List ScriptItem
  | _, [] => []
  | loc, ukLib :: rest =>
    if ukLib.name ∈ objects then
      Unikernel.textItem (roundToN loc pageSize) dce true ukLib ::
        compactItems dce objects (roundToN loc pageSize + compactSize ukLib) rest
    else compactItems dce objects loc rest

def compactEnd (objects : List String) : Nat → List UkLib → Nat
  | loc, [] => loc
  | loc, ukLib :: rest =>
    if ukLib.name ∈ objects then
      compactEnd objects (roundToN loc pageSize + compactSize ukLib) rest
    else compactEnd objects loc rest

theorem Unikernel.link_appendLink (uk : Unikernel) (typeMaps query : String) (items : List ScriptItem) :
  (uk.appendLink typeMaps items).link query =
    if query = typeMaps then uk.link typeMaps ++ items else uk.link query := by
  simp only [Unikernel.link, Unikernel.appendLink, Dict.get?_alter]
  split <;> rfl

structure Unikernel.SameOutside (typeMaps : String) (before after : Unikernel) : Prop where
  name : after.name = before.name
  objects : after.objects = before.objects
  totalSize : after.totalSize = before.totalSize
  links : ∀ query, query ≠ typeMaps → after.link query = before.link query

theorem Unikernel.SameOutside.refl (typeMaps : String) (uk : Unikernel) : uk.SameOutside typeMaps uk :=
  ⟨rfl, rfl, rfl, fun _ _ => rfl⟩

theorem Unikernel.SameOutside.trans {first second third : Unikernel}
  (left : first.SameOutside typeMaps second) (right : second.SameOutside typeMaps third) :
  first.SameOutside typeMaps third :=
  ⟨right.name.trans left.name, right.objects.trans left.objects,
    right.totalSize.trans left.totalSize,
    fun query other => (right.links query other).trans (left.links query other)⟩

variable (typeMaps : String) (uk : Unikernel)

theorem Unikernel.sameOutside_appendLink (items : List ScriptItem) : uk.SameOutside typeMaps (uk.appendLink typeMaps items) := by
  refine ⟨rfl, rfl, rfl, ?_⟩
  intro query other
  rw [link_appendLink, if_neg other]

theorem placeLib_compact (dce : Bool) (uk : Unikernel) (ukLib : UkLib) (member : ukLib.name ∈ uk.objects) :
  Unikernel.placeLib typeMaps dce false true uk ukLib = { uk.appendLink typeMaps
        [Unikernel.textItem (roundToN uk.locCounter pageSize) dce true ukLib] with
      locCounter := roundToN uk.locCounter pageSize + compactSize ukLib } := by
  simp [Unikernel.placeLib, member, Unikernel.arraySect, Unikernel.placeSect,
    Unikernel.appendLink, Unikernel.roundLoc, compactSize, SectSizes.get, Nat.add_assoc]

theorem placeLibs_compact (dce : Bool) (libs : List UkLib) (uk : Unikernel) :
  let placed := libs.foldl (Unikernel.placeLib typeMaps dce false true) uk
  uk.SameOutside typeMaps placed ∧ placed.link typeMaps =
      uk.link typeMaps ++ compactItems dce uk.objects uk.locCounter libs ∧
    placed.locCounter = compactEnd uk.objects uk.locCounter libs := by
  induction libs generalizing uk with
  | nil => exact ⟨Unikernel.SameOutside.refl typeMaps uk, by simp [compactItems], rfl⟩
  | cons ukLib rest ih =>
    by_cases member : ukLib.name ∈ uk.objects
    · rw [foldl_cons, placeLib_compact typeMaps dce uk ukLib member]
      generalize after : ({ uk.appendLink typeMaps
          [Unikernel.textItem (roundToN uk.locCounter pageSize) dce true ukLib] with
        locCounter := roundToN uk.locCounter pageSize + compactSize ukLib } : Unikernel) = next
      have same : uk.SameOutside typeMaps next := by
        have written := Unikernel.sameOutside_appendLink typeMaps uk
          [Unikernel.textItem (roundToN uk.locCounter pageSize) dce true ukLib]
        subst after
        exact { written with }
      have link : next.link typeMaps = uk.link typeMaps ++
          [Unikernel.textItem (roundToN uk.locCounter pageSize) dce true ukLib] := by
        have written := Unikernel.link_appendLink uk typeMaps typeMaps
          [Unikernel.textItem (roundToN uk.locCounter pageSize) dce true ukLib]
        rw [if_pos rfl] at written
        subst after
        exact written
      have counter : next.locCounter = roundToN uk.locCounter pageSize + compactSize ukLib := by
        subst after
        rfl
      obtain ⟨outside, text, last⟩ := ih next
      refine ⟨same.trans outside, ?_, ?_⟩
      · rw [text, link, same.objects, counter, compactItems, if_pos member]
        simp
      · rw [last, same.objects, counter, compactEnd, if_pos member]
    have skipped : Unikernel.placeLib typeMaps dce false true uk ukLib = uk := by
      simp [Unikernel.placeLib, member]
    rw [foldl_cons, skipped, compactItems, compactEnd, if_neg member, if_neg member]
    exact ih uk

variable (loc : Nat)

theorem start?_textItem (ukLib : UkLib) :
  (Unikernel.textItem loc dce true ukLib).start? lib = if ukLib.name = lib then some loc else none := by
  simp only [Unikernel.textItem, if_true]
  split <;> simp [ScriptItem.start?]

theorem startAddress_append :
  startAddress (left ++ right) lib = (startAddress left lib).or (startAddress right lib) := by
  simp [startAddress, findSome?_append]

def pagesWithin (objects : List String) (libs : List UkLib) : Nat :=
  ((libs.filter fun ukLib => ukLib.name ∈ objects).map compactPages).sum

theorem startAddress_compactItems (dce : Bool) (lib : String) (present : ∃ ukLib ∈ libs, ukLib.name = lib) (contained : lib ∈ objects)
  (loc : Nat) :
  startAddress (compactItems dce objects loc libs) lib =
    some (roundToN loc pageSize + pagesWithin objects (libs.takeWhile fun ukLib => ukLib.name ≠ lib)) := by
  induction libs generalizing loc with
  | nil => simp at present
  | cons ukLib rest ih =>
    by_cases same : ukLib.name = lib
    · subst same
      rw [compactItems, if_pos contained, startAddress, findSome?_cons, start?_textItem, if_pos rfl]
      simp [pagesWithin]
    have later : ∃ other ∈ rest, other.name = lib := by
      obtain ⟨other, member, named⟩ := present
      rcases mem_cons.mp member with first | last
      · subst other
        exact absurd named same
      · exact ⟨other, last, named⟩
    have taken : (ukLib :: rest).takeWhile (fun ukLib => ukLib.name ≠ lib) =
        ukLib :: rest.takeWhile fun ukLib => ukLib.name ≠ lib := by
      simp [same]
    rw [taken, compactItems]
    by_cases member : ukLib.name ∈ objects
    · rw [if_pos member, startAddress, findSome?_cons, start?_textItem, if_neg same]
      have tail := ih later (roundToN loc pageSize + compactSize ukLib)
      rw [startAddress] at tail
      simp only [tail, roundToN_add (dvd_roundToN loc)]
      simp [pagesWithin, member, compactPages, Nat.add_assoc]
    rw [if_neg member, ih later loc]
    simp [pagesWithin, member]

structure Flags.CompactOnly (flags : Flags) : Prop where
  compact : flags.compact = true
  snapshot : flags.snapshot = false
  groupCommon : flags.groupCommon = false

def commonEntry (ukLib : UkLib) : ScriptItem :=
  .output (".text.rodata" ++ "." ++ ukLib.name) loc [⟨ukLib.name, ".text"⟩, ⟨ukLib.name, ".rodata"⟩]

def commonItems : Nat → List UkLib → List ScriptItem
  | _, [] => []
  | loc, ukLib :: rest =>
    commonEntry loc ukLib :: commonItems (roundToN (loc + compactSize ukLib) pageSize) rest

def commonEnd : Nat → List UkLib → Nat
  | loc, [] => loc
  | loc, ukLib :: rest => commonEnd (roundToN (loc + compactSize ukLib) pageSize) rest

@[simp] theorem advanceLoc_eq (loc : Nat) (sect : SectName) :
  UkManager.advanceLoc ukLib loc sect = loc + ukLib.totalSize.get sect := by
  simp only [UkManager.advanceLoc]
  split <;> omega

variable (manager : UkManager)

theorem commonLib_compact (sb : List ScriptItem) (ukLib : UkLib) (mode : manager.flags.CompactOnly) :
  UkManager.commonLib (manager, sb) ukLib = .ok ({ manager with
      locCounter := roundToN (manager.locCounter + compactSize ukLib) pageSize },
      sb ++ [commonEntry manager.locCounter ukLib]) := by
  obtain ⟨compact, snapshot, groupCommon⟩ := mode
  simp [UkManager.commonLib, UkManager.computeCommonLoc, UkManager.commonItem, compact, snapshot,
    groupCommon, UkManager.arrayItem, commonEntry, compactSize, SectSizes.get, SectName.label,
    bind, Except.bind, pure, Except.pure, Nat.add_assoc, String.join]

variable (libs : List UkLib)

theorem commonLibs_compact (manager : UkManager) (sb : List ScriptItem) (mode : manager.flags.CompactOnly) :
  libs.foldlM UkManager.commonLib (manager, sb) =
    .ok ({ manager with locCounter := commonEnd manager.locCounter libs },
      sb ++ commonItems manager.locCounter libs) := by
  induction libs generalizing manager sb with
  | nil => simp [commonItems, commonEnd, pure, Except.pure]
  | cons ukLib rest ih =>
    rw [foldlM_cons, commonLib_compact manager sb ukLib mode]
    simp only [bind, Except.bind]
    rw [ih]
    · simp [commonItems, commonEnd]
    · exact mode

theorem processCommonToAll_compact (mode : manager.flags.CompactOnly) :
  manager.processCommonToAll = .ok ({ manager with
      locCounter := commonEnd manager.locCounter manager.commonToAll.values },
      commonItems manager.locCounter manager.commonToAll.values) := by
  have pass := commonLibs_compact manager.commonToAll.values manager [] mode
  simp only [UkManager.processCommonToAll, mode.groupCommon, Bool.false_eq_true, ↓reduceIte,
    pure_bind, pass]
  simp [bind, Except.bind, pure, Except.pure, mode.groupCommon]

theorem startAddress_commonItems_none (absent : ∀ ukLib ∈ libs, ukLib.name ≠ lib) :
  startAddress (commonItems loc libs) lib = none := by
  induction libs generalizing loc with
  | nil => rfl
  | cons ukLib rest ih =>
    have first : (commonEntry loc ukLib).start? lib = none := by
      simp [commonEntry, ScriptItem.start?, absent ukLib]
    rw [commonItems, startAddress, findSome?_cons, first]
    exact ih _ fun other member => absent other (mem_cons_of_mem _ member)

theorem startAddress_commonItems_some (lib : String) (present : ∃ ukLib ∈ libs, ukLib.name = lib) :
  ∃ addr, startAddress (commonItems loc libs) lib = some addr := by
  induction libs generalizing loc with
  | nil => simp at present
  | cons ukLib rest ih =>
    by_cases same : ukLib.name = lib
    · refine ⟨loc, ?_⟩
      simp [commonItems, startAddress, commonEntry, ScriptItem.start?, same]
    have first : (commonEntry loc ukLib).start? lib = none := by
      simp [commonEntry, ScriptItem.start?, same]
    rw [commonItems, startAddress, findSome?_cons, first]
    refine ih _ ?_
    obtain ⟨other, member, named⟩ := present
    rcases mem_cons.mp member with head | later
    · subst other
      exact absurd named same
    · exact ⟨other, later, named⟩

theorem maxOf_eq (sizes : List Nat) (nonempty : sizes ≠ []) :
  UkManager.maxOf sizes = .ok (largest sizes) := by
  cases sizes with
  | nil => exact absurd rfl nonempty
  | cons first rest => simp [UkManager.maxOf, largest]

def passEnd (objects : List (List String)) (loc : Nat) (libs : List UkLib) : Nat :=
  if libs = [] then loc
  else largest (objects.map fun names => compactEnd names (roundToN loc pageSize) libs)

/-- One subset or individual pass: every unikernel gets its own items, all
starting from the same rounded counter. -/
theorem computeLoc_compact (subset : Dict String UkLib)
  (typeMaps : String) (mode : manager.flags.CompactOnly) (nonempty : manager.uks ≠ []) :
  ∃ place : Unikernel → Unikernel, manager.computeLoc subset typeMaps = .ok { manager with
        uks := manager.uks.map place
        locCounter := passEnd (manager.uks.map Unikernel.objects) manager.locCounter subset.values } ∧
    ∀ uk, uk.SameOutside typeMaps (place uk) ∧
      (place uk).link typeMaps = uk.link typeMaps ++ compactItems manager.flags.dce uk.objects
        (roundToN manager.locCounter pageSize) subset.values := by
  cases absent : subset.entries with
  | nil =>
    refine ⟨id, ?_, ?_⟩
    · simp [UkManager.computeLoc, absent, Dict.values, passEnd, pure, Except.pure]
    intro uk
    exact ⟨Unikernel.SameOutside.refl typeMaps uk, by simp [Dict.values, absent, compactItems]⟩
  | cons entry rest =>
    let place := fun uk : Unikernel =>
      Unikernel.updateLocCounter { uk with locCounter := roundToN manager.locCounter pageSize }
        subset typeMaps manager.flags.dce manager.flags.snapshot manager.flags.compact
    have placed : ∀ uk : Unikernel, uk.SameOutside typeMaps (place uk) ∧
        (place uk).link typeMaps = uk.link typeMaps ++ compactItems manager.flags.dce uk.objects
          (roundToN manager.locCounter pageSize) subset.values ∧
        (place uk).locCounter = compactEnd uk.objects (roundToN manager.locCounter pageSize)
          subset.values := by
      intro uk
      let started := Unikernel.appendLink
        { uk with locCounter := roundToN manager.locCounter pageSize } typeMaps []
      have begun : uk.SameOutside typeMaps started :=
        ⟨rfl, rfl, rfl, (Unikernel.sameOutside_appendLink typeMaps uk []).links⟩
      have link : started.link typeMaps = uk.link typeMaps := by
        have written := Unikernel.link_appendLink uk typeMaps typeMaps []
        rw [if_pos rfl, append_nil] at written
        exact written
      obtain ⟨outside, text, last⟩ :=
        placeLibs_compact typeMaps manager.flags.dce subset.values started
      have unfolded : place uk = subset.values.foldl
          (Unikernel.placeLib typeMaps manager.flags.dce false true) started := by
        simp only [place, Unikernel.updateLocCounter, mode.snapshot, mode.compact]
        rfl
      rw [unfolded]
      refine ⟨begun.trans outside, ?_, last⟩
      rw [text, link]
      rfl
    refine ⟨place, ?_, fun uk => ⟨(placed uk).1, (placed uk).2.1⟩⟩
    have counters : (manager.uks.map place).map Unikernel.locCounter =
        (manager.uks.map Unikernel.objects).map fun names =>
          compactEnd names (roundToN manager.locCounter pageSize) subset.values := by
      simp only [map_map]
      exact map_congr_left fun uk _ => (placed uk).2.2
    have filled : subset.values ≠ [] := by simp [Dict.values, absent]
    simp only [UkManager.computeLoc, absent, isEmpty_cons, Bool.false_eq_true, ↓reduceIte]
    rw [maxOf_eq _ (by simpa using nonempty), counters, passEnd, if_neg filled]
    rfl

variable (sect : SectName)

def Unikernel.sizeOf : Nat :=
  (uk.totalSize.map fun sizes => sizes.get sect).getD 0

theorem sectTotal_ok_iff (size : Nat) :
  uk.sectTotal sect = .ok size ↔ uk.totalSize ≠ none ∧ size = uk.sizeOf sect := by
  cases total : uk.totalSize with
  | none => simp [Unikernel.sectTotal, total]
  | some sizes => simp [Unikernel.sectTotal, Unikernel.sizeOf, total, eq_comm]

theorem dvd_windowGap (flags : Flags) (sect : SectName) : pageSize ∣ UkManager.windowGap flags sect := by
  rw [UkManager.windowGap]
  split
  · exact Nat.dvd_refl pageSize
  · exact Nat.dvd_zero pageSize

def UkManager.windowSize : Nat :=
  roundToN (largest (manager.uks.map fun uk => uk.sizeOf sect)) pageSize

def UkManager.withWindow : UkManager :=
  UkManager.reserve
    { manager with locCounter := manager.locCounter + UkManager.windowGap manager.flags sect }
    sect.label (manager.windowSize sect)

def UkManager.withWindows : UkManager :=
  ((manager.withWindow .data).withWindow .bss).roundLoc

def UkManager.bssLoc : Nat :=
  manager.locCounter + manager.windowSize .data + UkManager.windowGap manager.flags .bss

theorem locSect_withWindows : manager.withWindows.placeIntrstack.locSect =
    ((manager.locSect.set ".data" manager.locCounter).set ".bss" manager.bssLoc).set
      ".intrstack" (roundToN (manager.bssLoc + manager.windowSize .bss) pageSize) := by
  have noGap : UkManager.windowGap manager.flags .data = 0 := by simp [UkManager.windowGap]
  simp only [UkManager.withWindows, UkManager.withWindow, UkManager.placeIntrstack,
    UkManager.roundLoc, UkManager.reserve, noGap, UkManager.bssLoc, Nat.add_zero]
  rfl

theorem placeWindow_ok_iff (after : UkManager) (nonempty : manager.uks ≠ []) :
  manager.placeWindow sect = .ok after ↔
    (∀ uk ∈ manager.uks, uk.totalSize ≠ none) ∧ after = manager.withWindow sect := by
  have totals := mapM_eq_ok_iff (fun uk size => sectTotal_ok_iff uk sect size) manager.uks
  have found := maxOf_eq (manager.uks.map fun uk => uk.sizeOf sect) (by simpa using nonempty)
  constructor
  · intro placed
    obtain ⟨sizes, summed, rest⟩ := ok_of_bind placed
    obtain ⟨sized, same⟩ := (totals sizes).mp summed
    subst same
    rw [bind_of_ok found] at rest
    exact ⟨sized, (Except.ok.inj rest).symm⟩
  rintro ⟨sized, rfl⟩
  have summed := (totals _).mpr ⟨sized, rfl⟩
  change (manager.uks.mapM (fun uk => uk.sectTotal sect) >>= _) = _
  rw [bind_of_ok summed, bind_of_ok found]
  rfl

theorem placeWindows_ok_iff (mode : manager.flags.CompactOnly)
  (nonempty : manager.uks ≠ []) (after : UkManager) :
  manager.placeWindows = .ok after ↔
    (∀ uk ∈ manager.uks, uk.totalSize ≠ none) ∧ after = manager.withWindows := by
  have data := placeWindow_ok_iff manager .data
  have bss := placeWindow_ok_iff (manager.withWindow .data) .bss
  have unfolded : manager.placeWindows = (manager.placeWindow .data >>= fun first =>
      first.placeWindow .bss >>= fun second => pure second.roundLoc) := by
    simp [UkManager.placeWindows, mode.compact, mode.snapshot]
  rw [unfolded]
  constructor
  · intro placed
    obtain ⟨first, firstRun, rest⟩ := ok_of_bind placed
    obtain ⟨sized, rfl⟩ := (data first nonempty).mp firstRun
    obtain ⟨second, secondRun, done⟩ := ok_of_bind rest
    obtain ⟨_, rfl⟩ := (bss second nonempty).mp secondRun
    exact ⟨sized, (Except.ok.inj done).symm⟩
  rintro ⟨sized, rfl⟩
  rw [bind_of_ok ((data _ nonempty).mpr ⟨sized, rfl⟩), bind_of_ok ((bss _ nonempty).mpr ⟨sized, rfl⟩)]
  rfl

end Spacer.Aligner
