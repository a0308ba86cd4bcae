import Spacer.Aligner.Visits
import Spacer.Aligner.Sharing
import Spacer.Aligner.Layout

/-! Two runs over the same unikernels in different visiting orders. -/

namespace Spacer.Aligner

open Lib List

section

theorem roundToN_mono : Monotone fun size => roundToN size pageSize :=
  fun _ _ below => roundUp_mono (by decide) below

theorem roundToN_compactEnd :
  roundToN (compactEnd objects loc libs) pageSize = roundToN loc pageSize + pagesWithin objects libs := by
  induction libs generalizing loc with
  | nil => simp [compactEnd, pagesWithin]
  | cons ukLib rest ih =>
    by_cases member : ukLib.name ∈ objects
    · rw [compactEnd, if_pos member, ih, roundToN_add (dvd_roundToN loc)]
      simp [pagesWithin, member, compactPages, Nat.add_assoc]
    rw [compactEnd, if_neg member, ih]
    simp [pagesWithin, member]

theorem roundToN_passEnd (nonempty : objects ≠ []) : roundToN (passEnd objects loc libs) pageSize =
    roundToN loc pageSize + largest (objects.map fun names => pagesWithin names libs) := by
  by_cases none : libs = []
  · have zeros : largest (objects.map fun names => pagesWithin names libs) = 0 := by
      refine Nat.le_zero.mp ((largest_le_iff _).mpr ?_)
      simp [none, pagesWithin]
    rw [passEnd, if_pos none, zeros, Nat.add_zero]
  have ends : (objects.map fun names => compactEnd names (roundToN loc pageSize) libs).map
      (fun size => roundToN size pageSize) =
      (objects.map fun names => pagesWithin names libs).map (roundToN loc pageSize + ·) := by
    rw [map_map, map_map]
    refine map_congr_left fun names _ => ?_
    change roundToN (compactEnd names (roundToN loc pageSize) libs) pageSize = _
    rw [roundToN_compactEnd, roundToN_of_dvd (dvd_roundToN loc)]
    rfl
  rw [passEnd, if_neg none, ← largest_map roundToN_mono rfl, ends,
    largest_map_add (map_eq_nil_iff.not.mpr nonempty)]

variable {builds others : List UkBuild} (visits : builds.Perm others)
include visits

theorem subsetStart_perm (loc : Nat) : subsetStart loc builds = subsetStart loc others := by
  rw [subsetStart, subsetStart, commonLibs_perm visits]

theorem largest_pages_perm (perm : left.Perm right) :
  largest ((objectNames builds).map fun names => pagesWithin names left) =
    largest ((objectNames others).map fun names => pagesWithin names right) := by
  have pages : (fun names => pagesWithin names left) = fun names => pagesWithin names right :=
    funext fun names => ((perm.filter _).map compactPages).sum_eq
  rw [pages]
  exact largest_perm ((visits.map _).map _)

theorem individualStart_perm (nonempty : builds ≠ []) (loc : Nat) :
  individualStart loc builds = individualStart loc others := by
  have left : objectNames builds ≠ [] := map_eq_nil_iff.not.mpr nonempty
  have right : objectNames others ≠ [] :=
    map_eq_nil_iff.not.mpr fun empty => nonempty (empty ▸ visits).eq_nil
  rw [individualStart, individualStart, subsetEnd, subsetEnd, roundToN_passEnd left,
    roundToN_passEnd right, commonLibs_perm visits,
    largest_pages_perm visits (subsetLibs_perm visits)]

theorem dataStart_perm (nonempty : builds ≠ []) (loc : Nat) :
  dataStart loc builds = dataStart loc others := by
  have left : objectNames builds ≠ [] := map_eq_nil_iff.not.mpr nonempty
  have right : objectNames others ≠ [] :=
    map_eq_nil_iff.not.mpr fun empty => nonempty (empty ▸ visits).eq_nil
  have started := individualStart_perm visits nonempty loc
  rw [individualStart, individualStart] at started
  rw [dataStart, dataStart, individualEnd, individualEnd, roundToN_passEnd left,
    roundToN_passEnd right, started, individualLibs_perm visits,
    largest_pages_perm visits (List.Perm.refl _)]

theorem windowOf_perm (sect : SectName) : windowOf builds sect = windowOf others sect :=
  congrArg (roundToN · pageSize) (largest_perm (visits.map _))

theorem bssStart_perm (flags : Flags) (nonempty : builds ≠ []) (loc : Nat) :
  bssStart flags loc builds = bssStart flags loc others := by
  rw [bssStart, bssStart, dataStart_perm visits nonempty, windowOf_perm visits]

theorem intrstackStart_perm (flags : Flags) (nonempty : builds ≠ []) (loc : Nat) :
  intrstackStart flags loc builds = intrstackStart flags loc others := by
  rw [intrstackStart, intrstackStart, bssStart_perm visits flags nonempty, windowOf_perm visits]

end

section

structure Tied (builds : List UkBuild) (left right : String) : Prop where
  different : left ≠ right
  even : sharers builds left = sharers builds right
  shared : 1 < sharers builds left
  partly : sharers builds left < builds.length
  together : ∃ build ∈ builds, build.contains left = true ∧ build.contains right = true

variable (builds : List UkBuild) (lib : String)

def NoCode : Prop :=
  ∀ build ∈ builds, ∀ sizes, build.libs.get? lib = some sizes → sizes.text = 0 ∧ sizes.rodata = 0

def TiesSettled : Prop :=
  ∀ left right, Tied builds left right →
    SameSharers builds left right ∨ NoCode builds left ∧ NoCode builds right

theorem noCode_append (lib : String) : NoCode (builds ++ [build]) lib ↔ NoCode builds lib ∧
    ∀ sizes, build.listing.get? lib = some sizes → sizes.text = 0 ∧ sizes.rodata = 0 := by
  have sameTable : build.listing.get? lib = build.libs.get? lib := Dict.get?_sortBy _ _ lib
  rw [NoCode, forall_mem_append, forall_mem_singleton, sameTable]
  rfl

theorem noCode_iff_stored : NoCode builds lib ↔ ∀ ukLib, (globalMapsOf builds).get? lib = some ukLib →
    ukLib.totalSize.text = 0 ∧ ukLib.totalSize.rodata = 0 := by
  induction builds using List.reverseRecOn with
  | nil => simp [NoCode, globalMapsOf]
  | append_singleton builds build ih =>
    have table : (globalMapsOf (builds ++ [build])).get? lib = ((build.listing.get? lib).map fun sizes =>
          mergeLib lib sizes ((globalMapsOf builds).get? lib)).or ((globalMapsOf builds).get? lib) := by
      rw [← get?_registerAll, globalMapsOf, foldl_append]
      rfl
    rw [noCode_append, ih, table]
    cases listed : build.listing.get? lib with
    | none => simp
    | some sizes =>
      cases stored : (globalMapsOf builds).get? lib with
      | none => simp [mergeLib]
      | some ukLib =>
        simp only [Option.some.injEq, forall_eq', Option.map_some, Option.some_or, mergeLib,
          UkLib.update, SectSizes.zipWith]
        split <;> split <;> omega

theorem compactPages_eq_zero_iff (ukLib : UkLib) :
  compactPages ukLib = 0 ↔ ukLib.totalSize.text = 0 ∧ ukLib.totalSize.rodata = 0 := by
  have above : compactSize ukLib ≤ compactPages ukLib := le_roundToN (compactSize ukLib)
  have total : compactSize ukLib = ukLib.totalSize.text + ukLib.totalSize.rodata := rfl
  constructor
  · omega
  rintro ⟨noText, noRodata⟩
  simp [compactPages, total, noText, noRodata, roundToN, pageSize, roundUp]

variable {builds}

theorem subsetLib_spec (visits : visited.Perm builds) (member : ukLib ∈ subsetLibs visited) :
  (globalMapsOf builds).get? ukLib.name = some ukLib ∧
    ukLib.occurence = sharers builds ukLib.name ∧ 1 < sharers builds ukLib.name ∧
      sharers builds ukLib.name < builds.length := by
  have moved := (subsetLibs_perm visits).mem_iff.mp member
  obtain ⟨found, partly, several⟩ := (mem_subsetLibs_iff builds ukLib).mp moved
  have counted := (counted_globalMapsOf builds).counted _ ukLib found
  have bound : sharers builds ukLib.name ≤ builds.length := countP_le_length
  exact ⟨found, counted, by omega, by omega⟩

theorem nodup_subset_names (builds : List UkBuild) : ((subsetLibs builds).map UkLib.name).Nodup := by
  have names := nodup_names_passes builds
  simp only [map_append, nodup_append] at names
  exact names.2.1.1

theorem placedBefore_of_split (split : subsetLibs builds = left ++ ukLib :: right) :
  placedBefore builds ukLib.name = left := by
  have names := nodup_subset_names builds
  have ahead : ∀ other ∈ left, other.name ≠ ukLib.name := by
    rw [split, map_append, nodup_append] at names
    exact fun other inside => names.2.2 _ (mem_map_of_mem inside) _ (by simp)
  rw [placedBefore, split, takeWhile_append_of_pos (by simpa using ahead)]
  simp

theorem split_placedBefore (member : ukLib ∈ subsetLibs builds) :
  ∃ right, subsetLibs builds = placedBefore builds ukLib.name ++ ukLib :: right := by
  obtain ⟨left, right, split⟩ := append_of_mem member
  exact ⟨right, by rw [placedBefore_of_split split, split]⟩

theorem pagesWithin_eq_sum : pagesWithin objects libs =
    (libs.map fun ukLib => if ukLib.name ∈ objects then compactPages ukLib else 0).sum := by
  induction libs with
  | nil => rfl
  | cons ukLib rest ih =>
    by_cases member : ukLib.name ∈ objects
    · simpa [pagesWithin, member] using ih
    · simpa [pagesWithin, member] using ih

section

variable {builds first second : List UkBuild} (firstVisits : first.Perm builds)
  (secondVisits : second.Perm builds)

include firstVisits secondVisits in
theorem stays_ahead (settled : TiesSettled builds) (member : build ∈ builds)
  (inFirst : ukLib ∈ subsetLibs first) (contained : build.contains ukLib.name = true)
  (held : build.contains other.name = true) (weighs : compactPages other ≠ 0)
  (ahead : other ∈ placedBefore first ukLib.name) : other ∈ placedBefore second ukLib.name := by
  have moved := subsetLibs_perm (firstVisits.trans secondVisits.symm)
  obtain ⟨firstRest, firstSplit⟩ := split_placedBefore inFirst
  obtain ⟨secondRest, secondSplit⟩ := split_placedBefore (moved.mem_iff.mp inFirst)
  have otherIn : other ∈ subsetLibs first := by
    rw [firstSplit]
    exact mem_append_left _ ahead
  have different : other.name ≠ ukLib.name := by simpa using mem_takeWhile_imp ahead
  have behind := moved.mem_iff.mp otherIn
  rw [secondSplit, mem_append, mem_cons] at behind
  rcases behind with stays | same | later
  · exact stays
  · exact absurd (congrArg UkLib.name same) different
  -- both orders put the other library first, so the files' names must agree
  have firstOrder := subsetLibs_pairwise (keys_pairwise_sharers first)
  rw [firstSplit, pairwise_append] at firstOrder
  have forward := firstOrder.2.2 other ahead ukLib mem_cons_self
  have secondOrder := subsetLibs_pairwise (keys_pairwise_sharers second)
  rw [secondSplit, pairwise_append, pairwise_cons] at secondOrder
  have backward := secondOrder.2.1.1 other later
  obtain ⟨_, counted, shared, partly⟩ := subsetLib_spec firstVisits inFirst
  obtain ⟨otherFound, otherCounted, _, _⟩ := subsetLib_spec firstVisits otherIn
  have tied : Tied builds other.name ukLib.name :=
    ⟨different, by omega, by omega, by omega, build, member, held, contained⟩
  rcases settled _ _ tied with same | ⟨noCode, _⟩
  · have fileOrder := String.le_antisymm
      (forward.2 backward.1 fun visited inside => same visited (firstVisits.mem_iff.mp inside))
      (backward.2 forward.1 fun visited inside =>
        (same visited (secondVisits.mem_iff.mp inside)).symm)
    exact absurd ((String.append_left_inj ".o").mp fileOrder) different
  have empty := (noCode_iff_stored builds other.name).mp noCode other otherFound
  exact absurd ((compactPages_eq_zero_iff other).mpr empty) weighs

include firstVisits secondVisits in
theorem pages_before_eq (settled : TiesSettled builds) (member : build ∈ builds)
  (inFirst : ukLib ∈ subsetLibs first) (contained : build.contains ukLib.name = true) :
  pagesWithin build.listing.keys (placedBefore first ukLib.name) =
    pagesWithin build.listing.keys (placedBefore second ukLib.name) := by
  have inSecond := (subsetLibs_perm (firstVisits.trans secondVisits.symm)).mem_iff.mp inFirst
  have distinct : ∀ visited, (placedBefore visited ukLib.name).Nodup := fun visited =>
    (nodup_subset_names visited).of_map.sublist (takeWhile_sublist _)
  rw [pagesWithin_eq_sum, pagesWithin_eq_sum]
  refine sum_map_eq_of_mem_iff (distinct first) (distinct second) fun other weighs => ?_
  have held : build.contains other.name = true := by
    rw [build.contains_iff]
    by_contra missing
    exact weighs (if_neg missing)
  have heavy : compactPages other ≠ 0 := by
    rw [if_pos ((build.contains_iff _).mp held)] at weighs
    exact weighs
  exact ⟨stays_ahead firstVisits secondVisits settled member inFirst contained held heavy,
    stays_ahead secondVisits firstVisits settled member inSecond contained held heavy⟩

end

theorem pages_of_first (build : UkBuild) (rest : List UkBuild)
  (leftMem : left ∈ subsetLibs (build :: rest)) (rightMem : right ∈ subsetLibs (build :: rest))
  (even : left.occurence = right.occurence) (has : build.contains left.name = true)
  (lacks : build.contains right.name = false) (contained : left.name ∈ objects) :
  pagesWithin objects (placedBefore (build :: rest) left.name) + compactPages left ≤
    pagesWithin objects (placedBefore (build :: rest) right.name) := by
  obtain ⟨rightRest, rightSplit⟩ := split_placedBefore rightMem
  have ordered := subsetLibs_pairwise (keys_pairwise_first build rest)
  have ahead : left ∈ placedBefore (build :: rest) right.name := by
    have found := leftMem
    rw [rightSplit, mem_append, mem_cons] at found
    rcases found with before | same | after
    · exact before
    · rw [same, lacks] at has
      cases has
    rw [rightSplit, pairwise_append, pairwise_cons] at ordered
    have first := (ordered.2.1.1 left after).2 (Nat.le_of_eq even.symm) has
    rw [lacks] at first
    cases first
  obtain ⟨front, back, split⟩ := append_of_mem ahead
  have whole : subsetLibs (build :: rest) = front ++ left :: (back ++ right :: rightRest) := by
    rw [rightSplit, split]
    simp
  rw [placedBefore_of_split whole, split]
  simp only [pagesWithin, filter_append, filter_cons, contained, decide_true, if_true,
    map_append, map_cons, sum_append, sum_cons]
  omega

end

def UkManager.SameAddresses (left right : UkManager) : Prop :=
  (∀ uk ∈ left.uks, ∀ other ∈ right.uks, uk.name = other.name → ∀ lib ∈ uk.objects,
    startAddress (left.libraryItems uk) lib = startAddress (right.libraryItems other) lib) ∧
  ∀ sect ∈ [".data", ".bss", ".intrstack"], left.locSect.get? sect = right.locSect.get? sect

def Deterministic (flags : Flags) (loc : Nat) (builds : List UkBuild) : Prop :=
  ∀ first second, first.Perm builds → second.Perm builds →
    ∀ left right, align flags loc first = .ok left → align flags loc second = .ok right →
      left.SameAddresses right

theorem startAddress_perm (firstVisits : first.Perm builds) (secondVisits : second.Perm builds)
  (settled : TiesSettled builds) (dce : Bool) (loc : Nat) (member : build ∈ builds)
  (contained : lib ∈ build.listing.keys) :
  startAddress (commonItems (ctorsEnd loc) (commonLibs first) ++
      compactItems dce build.listing.keys (subsetStart loc first) (subsetLibs first) ++
      compactItems dce build.listing.keys (individualStart loc first) (individualLibs first)) lib =
    startAddress (commonItems (ctorsEnd loc) (commonLibs second) ++
      compactItems dce build.listing.keys (subsetStart loc second) (subsetLibs second) ++
      compactItems dce build.listing.keys (individualStart loc second) (individualLibs second)) lib := by
  have moved := firstVisits.trans secondVisits.symm
  have nonempty : first ≠ [] := ne_nil_of_mem (firstVisits.mem_iff.mpr member)
  have aligned : ∀ visited, roundToN (subsetStart loc visited) pageSize =
      subsetStart loc visited := fun _ => roundToN_of_dvd (dvd_roundToN _)
  have subset : startAddress (compactItems dce build.listing.keys (subsetStart loc first)
      (subsetLibs first)) lib = startAddress (compactItems dce build.listing.keys
        (subsetStart loc second) (subsetLibs second)) lib := by
    by_cases present : ∃ ukLib ∈ subsetLibs first, ukLib.name = lib
    · obtain ⟨ukLib, inFirst, rfl⟩ := present
      have inSecond := (subsetLibs_perm moved).mem_iff.mp inFirst
      have pages := pages_before_eq firstVisits secondVisits settled member inFirst
        ((build.contains_iff _).mpr contained)
      rw [startAddress_compactItems dce _ ⟨ukLib, inFirst, rfl⟩ contained,
        startAddress_compactItems dce _ ⟨ukLib, inSecond, rfl⟩ contained, aligned, aligned,
        subsetStart_perm moved]
      exact congrArg (fun pages => some (subsetStart loc second + pages)) pages
    have absent : ∀ ukLib ∈ subsetLibs first, ukLib.name ≠ lib := fun ukLib inside named =>
      present ⟨ukLib, inside, named⟩
    rw [startAddress_compactItems_none dce _ absent,
      startAddress_compactItems_none dce _ fun ukLib inside =>
        absent ukLib ((subsetLibs_perm moved).mem_iff.mpr inside)]
  rw [startAddress_append, startAddress_append, startAddress_append, startAddress_append, subset,
    commonLibs_perm moved, individualStart_perm moved nonempty, individualLibs_perm moved]

theorem CompactRun.subset_address (spec : CompactRun flags loc visited manager place)
  (member : ukLib ∈ subsetLibs visited) (contained : build.contains ukLib.name = true) :
  startAddress (manager.libraryItems (place build)) ukLib.name =
    some (subsetStart loc visited + pagesWithin build.listing.keys (placedBefore visited ukLib.name)) := by
  obtain ⟨_, _, shared, partly⟩ := subsetLib_spec (List.Perm.refl visited) member
  rw [spec.scripts]
  exact startAddress_subset visited _ loc flags.dce shared (Nat.ne_of_lt partly)
    ((build.contains_iff _).mp contained) _

theorem Tied.exists_apart (tied : Tied builds left right) (apart : ¬SameSharers builds left right) :
  ∃ build ∈ builds, build.contains left = true ∧ build.contains right = false := by
  by_contra none
  refine apart (eq_of_countP_eq (fun build member has => ?_) tied.even)
  by_contra lacks
  exact none ⟨build, member, has, by simpa using lacks⟩

theorem Tied.symm (tied : Tied builds left right) : Tied builds right left where
  different := tied.different.symm
  even := tied.even.symm
  shared := tied.even ▸ tied.shared
  partly := tied.even ▸ tied.partly
  together := by
    obtain ⟨build, member, hasLeft, hasRight⟩ := tied.together
    exact ⟨build, member, hasRight, hasLeft⟩

theorem exists_run_from (mode : flags.CompactOnly) (loc : Nat)
  (filled : ∀ build ∈ builds, build.libs.entries ≠ []) (member : build ∈ builds) :
  ∃ rest manager place, (build :: rest).Perm builds ∧ align flags loc (build :: rest) = .ok manager ∧
      CompactRun flags loc (build :: rest) manager place := by
  obtain ⟨front, back, rfl⟩ := append_of_mem member
  have visits : (build :: (front ++ back)).Perm (front ++ build :: back) :=
    perm_middle.symm
  obtain ⟨finishes, spec⟩ := align_compact flags mode loc (build :: (front ++ back)) (by simp)
  obtain ⟨manager, run⟩ := finishes.mpr fun other inside => filled other (visits.mem_iff.mp inside)
  obtain ⟨place, placed⟩ := spec manager run
  exact ⟨front ++ back, manager, place, visits, run, placed⟩

theorem Deterministic.tiesSettled (deterministic : Deterministic flags loc builds)
  (mode : flags.CompactOnly) (filled : ∀ build ∈ builds, build.libs.entries ≠ []) : TiesSettled builds := by
  intro left right tied
  refine Classical.or_iff_not_imp_left.mpr fun apart => ?_
  obtain ⟨build, member, hasLeft, hasRight⟩ := tied.together
  obtain ⟨leftOnly, leftOnlyMem, leftHas, leftLacks⟩ := tied.exists_apart apart
  obtain ⟨rightOnly, rightOnlyMem, rightHas, rightLacks⟩ := tied.symm.exists_apart
    fun same => apart fun build member => (same build member).symm
  obtain ⟨first, firstManager, firstPlace, firstVisits, firstRun, firstSpec⟩ :=
    exists_run_from mode loc filled leftOnlyMem
  obtain ⟨second, secondManager, secondPlace, secondVisits, secondRun, secondSpec⟩ :=
    exists_run_from mode loc filled rightOnlyMem
  have moved := firstVisits.trans secondVisits.symm
  have same := deterministic _ _ firstVisits secondVisits _ _ firstRun secondRun
  have agree : ∀ ukLib ∈ subsetLibs (leftOnly :: first), build.contains ukLib.name = true →
      pagesWithin build.listing.keys (placedBefore (leftOnly :: first) ukLib.name) =
        pagesWithin build.listing.keys (placedBefore (rightOnly :: second) ukLib.name) := by
    intro ukLib inFirst contained
    have inSecond := (subsetLibs_perm moved).mem_iff.mp inFirst
    have equal := same.1 (firstPlace build)
      (firstSpec.uks ▸ mem_map_of_mem (firstVisits.mem_iff.mpr member))
      (secondPlace build) (secondSpec.uks ▸ mem_map_of_mem (secondVisits.mem_iff.mpr member))
      ((firstSpec.name build).trans (secondSpec.name build).symm) ukLib.name
      (firstSpec.objects build ▸ (build.contains_iff _).mp contained)
    rw [firstSpec.subset_address inFirst contained, secondSpec.subset_address inSecond contained,
      subsetStart_perm moved, Option.some.injEq] at equal
    omega
  have stored : ∀ lib, 1 < sharers builds lib → sharers builds lib < builds.length →
      ∃ ukLib ∈ subsetLibs (leftOnly :: first), ukLib.name = lib := by
    intro lib shared partly
    rw [← sharers_perm firstVisits] at shared partly
    exact exists_subsetLib _ lib shared (firstVisits.length_eq ▸ Nat.ne_of_lt partly)
  obtain ⟨leftLib, leftIn, rfl⟩ := stored left tied.shared tied.partly
  obtain ⟨rightLib, rightIn, rfl⟩ := stored right tied.symm.shared tied.symm.partly
  obtain ⟨leftFound, leftCount, _, _⟩ := subsetLib_spec firstVisits leftIn
  obtain ⟨rightFound, rightCount, _, _⟩ := subsetLib_spec firstVisits rightIn
  have even : leftLib.occurence = rightLib.occurence := by rw [leftCount, rightCount, tied.even]
  have forward := pages_of_first leftOnly first leftIn rightIn even leftHas leftLacks
    ((build.contains_iff _).mp hasLeft)
  have backward := pages_of_first rightOnly second ((subsetLibs_perm moved).mem_iff.mp rightIn)
    ((subsetLibs_perm moved).mem_iff.mp leftIn) even.symm rightHas rightLacks
    ((build.contains_iff _).mp hasRight)
  have leftAgree := agree leftLib leftIn hasLeft
  have rightAgree := agree rightLib rightIn hasRight
  have noCode : ∀ ukLib : UkLib, (globalMapsOf builds).get? ukLib.name = some ukLib →
      compactPages ukLib = 0 → NoCode builds ukLib.name := by
    intro ukLib found empty
    rw [noCode_iff_stored, found]
    rintro _ ⟨⟩
    exact (compactPages_eq_zero_iff ukLib).mp empty
  exact ⟨noCode leftLib leftFound (by omega), noCode rightLib rightFound (by omega)⟩

theorem deterministic_of_settled (mode : flags.CompactOnly) (loc : Nat)
  (distinct : (builds.map UkBuild.name).Nodup)
  (settled : (∀ build ∈ builds, build.libs.entries ≠ []) → TiesSettled builds) :
  Deterministic flags loc builds := by
  intro first second firstVisits secondVisits left right leftRun rightRun
  have moved := firstVisits.trans secondVisits.symm
  have nonempty := align_nonempty mode leftRun
  obtain ⟨finishes, leftSpecs⟩ := align_compact flags mode loc first nonempty
  obtain ⟨leftPlace, leftSpec⟩ := leftSpecs left leftRun
  obtain ⟨rightPlace, rightSpec⟩ :=
    (align_compact flags mode loc second (align_nonempty mode rightRun)).2 right rightRun
  have filled := finishes.mp ⟨left, leftRun⟩
  have ties := settled fun build member => filled build (firstVisits.mem_iff.mpr member)
  constructor
  · rw [leftSpec.uks, rightSpec.uks]
    simp only [forall_mem_map]
    intro build member other otherMem names lib contained
    rw [leftSpec.name, rightSpec.name] at names
    have member := firstVisits.mem_iff.mp member
    have same : build = other :=
      inj_on_of_nodup_map distinct member (secondVisits.mem_iff.mp otherMem) names
    subst same
    rw [leftSpec.objects] at contained
    rw [leftSpec.scripts, rightSpec.scripts]
    exact startAddress_perm firstVisits secondVisits ties flags.dce loc member contained
  intro sect listed
  simp only [mem_cons, not_mem_nil, or_false] at listed
  rcases listed with rfl | rfl | rfl
  · rw [leftSpec.data, rightSpec.data, dataStart_perm moved nonempty]
  · rw [leftSpec.bss, rightSpec.bss, bssStart_perm moved flags nonempty]
  · rw [leftSpec.intrstack, rightSpec.intrstack, intrstackStart_perm moved flags nonempty]

end Spacer.Aligner
