import Spacer.Lib.Stable
import Spacer.Aligner.Run

/-!
The library table under another visiting order: the entries stay, and what can
change is the order of libraries that different unikernels share.
-/

namespace Spacer.Aligner

open Lib List

def SameSharers (builds : List UkBuild) (left right : String) : Prop :=
  ∀ build ∈ builds, build.contains left = build.contains right

theorem mem_keys_globalMapsOf (builds : List UkBuild) (lib : String) :
  lib ∈ (globalMapsOf builds).keys ↔ ∃ build ∈ builds, build.contains lib = true := by
  have known := counted_globalMapsOf builds
  rw [Dict.mem_keys_iff, ← countP_pos_iff]
  change _ ↔ 0 < sharers builds lib
  cases found : (globalMapsOf builds).get? lib with
  | none => simp [known.missing lib found]
  | some ukLib =>
    rw [← known.counted lib ukLib found]
    simp [known.positive lib ukLib found]

theorem keys_globalMapsOf_append (builds : List UkBuild) (build : UkBuild) :
  (globalMapsOf (builds ++ [build])).keys = (globalMapsOf builds).keys ++
    build.listing.keys.filter (· ∉ (globalMapsOf builds).keys) := by
  rw [globalMapsOf, foldl_append]
  exact Dict.keys_foldl_alter mergeLib build.listing.entries build.listing.distinct _

theorem listing_pairwise (build : UkBuild) :
  build.listing.keys.Pairwise fun left right => left ++ ".o" ≤ right ++ ".o" := by
  have sorted := pairwise_insertionSort
    (fun left right : String × SectSizes => left.1 ++ ".o" ≤ right.1 ++ ".o") (fun _ _ => True)
    (fun _ _ => String.le_total _ _) (fun _ _ _ => String.le_trans) build.libs.entries
    (pairwise_of_forall fun _ _ => trivial)
  exact pairwise_map.mpr (sorted.imp fun ordered => ordered.1)

theorem keys_pairwise_sharers (builds : List UkBuild) :
  (globalMapsOf builds).keys.Pairwise fun left right =>
    SameSharers builds left right → left ++ ".o" ≤ right ++ ".o" := by
  induction builds using List.reverseRecOn with
  | nil => exact List.Pairwise.nil
  | append_singleton builds build ih =>
    rw [keys_globalMapsOf_append, pairwise_append]
    refine ⟨?_, ?_, ?_⟩
    · refine ih.imp fun ordered same => ordered fun other member => ?_
      exact same other (mem_append_left _ member)
    · refine List.Pairwise.imp ?_ ((listing_pairwise build).filter _)
      exact fun ordered _ => ordered
    intro left old right added same
    obtain ⟨other, member, contained⟩ := (mem_keys_globalMapsOf builds left).mp old
    have fresh : right ∉ (globalMapsOf builds).keys := by simpa using (mem_filter.mp added).2
    refine absurd ((mem_keys_globalMapsOf builds right).mpr ⟨other, member, ?_⟩) fresh
    rw [← same other (mem_append_left _ member), contained]

theorem keys_pairwise_first (build : UkBuild) (rest : List UkBuild) :
  (globalMapsOf (build :: rest)).keys.Pairwise fun left right =>
    build.contains right = true → build.contains left = true := by
  induction rest using List.reverseRecOn with
  | nil =>
    have keys : (globalMapsOf [build]).keys = build.listing.keys := by
      have single := keys_globalMapsOf_append [] build
      simpa [globalMapsOf, Dict.empty, Dict.keys] using single
    rw [keys]
    exact pairwise_of_forall_mem_list fun left member _ _ _ => (build.contains_iff left).mpr member
  | append_singleton rest other ih =>
    rw [← cons_append, keys_globalMapsOf_append, pairwise_append]
    have absent : ∀ right ∈ other.listing.keys.filter (· ∉ (globalMapsOf (build :: rest)).keys),
        build.contains right ≠ true := by
      intro right added contained
      have fresh : right ∉ (globalMapsOf (build :: rest)).keys := by
        simpa using (mem_filter.mp added).2
      exact fresh ((mem_keys_globalMapsOf _ right).mpr ⟨build, mem_cons_self, contained⟩)
    refine ⟨ih, ?_, fun left _ right added contained => absurd contained (absent right added)⟩
    exact pairwise_of_forall_mem_list fun _ _ right added contained =>
      absurd contained (absent right added)

section

variable (ordered : (globalMapsOf builds).keys.Pairwise kept)
include ordered

theorem entries_pairwise :
  (globalMapsOf builds).entries.Pairwise fun left right => kept left.2.name right.2.name := by
  refine List.Pairwise.imp_of_mem ?_ (pairwise_map.mp ordered)
  intro left right leftMem rightMem before
  have named := (counted_globalMapsOf builds).named
  rw [named _ _ ((Dict.get?_eq_some_iff _ _ _).mpr leftMem),
    named _ _ ((Dict.get?_eq_some_iff _ _ _).mpr rightMem)]
  exact before

theorem commonLibs_pairwise : (commonLibs builds).Pairwise fun left right => kept left.name right.name :=
  pairwise_map.mpr ((entries_pairwise ordered).filter _)

theorem subsetLibs_pairwise :
  (subsetLibs builds).Pairwise fun left right => right.occurence ≤ left.occurence ∧
    (left.occurence ≤ right.occurence → kept left.name right.name) :=
  pairwise_map.mpr (pairwise_insertionSort UkManager.byOccurence _
    (fun _ _ => Nat.le_total _ _) (fun _ _ _ first second => Nat.le_trans second first) _
    ((entries_pairwise ordered).filter _))

omit ordered

theorem customSortLe_total (left right : String × UkLib) :
  UkManager.customSortLe left right ∨ UkManager.customSortLe right left := by
  rcases Nat.lt_trichotomy (UkManager.sortRank left.1) (UkManager.sortRank right.1) with
    smaller | same | larger
  · exact .inl (.inl smaller)
  · rcases String.le_total left.1 right.1 with forward | backward
    · exact .inl (.inr ⟨same, forward⟩)
    · exact .inr (.inr ⟨same.symm, backward⟩)
  · exact .inr (.inl larger)

theorem customSortLe_trans (first second third : String × UkLib)
  (left : UkManager.customSortLe first second) (right : UkManager.customSortLe second third) :
  UkManager.customSortLe first third := by
  rcases left with leftRank | ⟨leftSame, leftName⟩ <;>
    rcases right with rightRank | ⟨rightSame, rightName⟩
  · exact .inl (Nat.lt_trans leftRank rightRank)
  · exact .inl (rightSame ▸ leftRank)
  · exact .inl (leftSame ▸ rightRank)
  · exact .inr ⟨leftSame.trans rightSame, String.le_trans leftName rightName⟩

theorem customSortLe_antisymm (forward : UkManager.customSortLe left right)
  (backward : UkManager.customSortLe right left) : left.1 = right.1 := by
  rcases forward with leftRank | ⟨_, leftName⟩ <;> rcases backward with rightRank | ⟨_, rightName⟩
  · omega
  · omega
  · omega
  · exact String.le_antisymm leftName rightName

end

theorem update_comm (ukLib : UkLib) (name : String) (left right : SectSizes) :
  (ukLib.update { name, totalSize := left }).update { name, totalSize := right } =
    (ukLib.update { name, totalSize := right }).update { name, totalSize := left } := by
  simp only [UkLib.update, SectSizes.zipWith, UkLib.mk.injEq, SectSizes.mk.injEq, true_and, and_true]
  refine ⟨?_, ?_, ?_, ?_⟩ <;> grind

theorem mergeLib_comm (name : String) (left right : SectSizes) (stored : Option UkLib) :
  mergeLib name right (some (mergeLib name left stored)) =
    mergeLib name left (some (mergeLib name right stored)) := by
  cases stored with
  | none =>
    simp only [mergeLib, UkLib.update, SectSizes.zipWith, UkLib.mk.injEq, SectSizes.mk.injEq,
      true_and, and_true]
    refine ⟨?_, ?_, ?_, ?_⟩ <;> grind
  | some ukLib => exact update_comm ukLib name left right

theorem contains_of_common (common : ukLib ∈ commonLibs builds) (member : build ∈ builds) :
  build.contains ukLib.name = true := by
  obtain ⟨found, everywhere⟩ := (mem_commonLibs_iff builds ukLib).mp common
  rw [(counted_globalMapsOf builds).counted _ ukLib found] at everywhere
  exact countP_eq_length.mp everywhere build member

theorem commonLibs_sorted (builds : List UkBuild) :
  (commonLibs builds).Pairwise fun left right => left.name ++ ".o" ≤ right.name ++ ".o" := by
  refine List.Pairwise.imp_of_mem ?_ (commonLibs_pairwise (keys_pairwise_sharers builds))
  intro left right leftMem rightMem ordered
  refine ordered fun build member => ?_
  rw [contains_of_common leftMem member, contains_of_common rightMem member]

section

variable {builds others : List UkBuild} (visits : builds.Perm others)
include visits

theorem sharers_perm (lib : String) : sharers builds lib = sharers others lib :=
  visits.countP_eq _

theorem get?_globalMapsOf_perm (lib : String) :
  (globalMapsOf builds).get? lib = (globalMapsOf others).get? lib := by
  let merge := fun (stored : Option UkLib) (build : UkBuild) =>
    ((build.listing.get? lib).map fun sizes => mergeLib lib sizes stored).or stored
  have folded : ∀ (rest : List UkBuild) (maps : Dict String UkLib),
      (rest.foldl (fun maps build => build.listing.entries.foldl registerLib maps) maps).get? lib =
        rest.foldl merge (maps.get? lib) := by
    intro rest
    induction rest with
    | nil => intro maps; rfl
    | cons build rest ih =>
      intro maps
      rw [foldl_cons, foldl_cons, ih, get?_registerAll]
  have commutes : ∀ stored first second,
      merge (merge stored first) second = merge (merge stored second) first := by
    intro stored first second
    cases left : first.listing.get? lib <;> cases right : second.listing.get? lib
    case some.some leftSizes rightSizes =>
      simpa [merge, left, right] using mergeLib_comm lib leftSizes rightSizes stored
    all_goals simp [merge, left, right]
  rw [globalMapsOf, globalMapsOf, folded, folded]
  exact visits.foldl_eq' (fun first _ second _ stored => commutes stored first second) _

theorem entries_perm : (globalMapsOf builds).entries.Perm (globalMapsOf others).entries :=
  Dict.perm_entries (get?_globalMapsOf_perm visits)

theorem commonLibs_perm : commonLibs builds = commonLibs others := by
  have perm : (commonLibs builds).Perm (commonLibs others) := by
    rw [commonLibs, commonLibs, visits.length_eq]
    exact ((entries_perm visits).filter _).map _
  refine perm.eq_of_pairwise ?_ (commonLibs_sorted builds) (commonLibs_sorted others)
  intro left right leftMem rightMem forward backward
  have names : left.name = right.name :=
    (String.append_left_inj ".o").mp (String.le_antisymm forward backward)
  have found := ((mem_commonLibs_iff others left).mp (perm.mem_iff.mp leftMem)).1
  rw [names, ((mem_commonLibs_iff others right).mp rightMem).1] at found
  exact (Option.some.inj found).symm

theorem subsetLibs_perm : (subsetLibs builds).Perm (subsetLibs others) := by
  rw [subsetLibs, subsetLibs, visits.length_eq]
  refine List.Perm.map _ ((perm_insertionSort _ _).trans ?_)
  exact ((entries_perm visits).filter _).trans (perm_insertionSort _ _).symm

theorem individualLibs_perm : individualLibs builds = individualLibs others := by
  let single := fun entry : String × UkLib =>
    decide (entry.2.occurence ≠ others.length ∧ ¬1 < entry.2.occurence)
  have sorted : ∀ maps : Dict String UkLib,
      ((maps.filter single).sortBy UkManager.customSortLe).entries.Pairwise
        UkManager.customSortLe := by
    intro maps
    have ordered := pairwise_insertionSort UkManager.customSortLe (fun _ _ => True)
      customSortLe_total customSortLe_trans (maps.filter single).entries
      (pairwise_of_forall fun _ _ => trivial)
    exact ordered.imp fun both => both.1
  have perm : (((globalMapsOf builds).filter single).sortBy UkManager.customSortLe).entries.Perm
      (((globalMapsOf others).filter single).sortBy UkManager.customSortLe).entries := by
    refine (perm_insertionSort _ _).trans ?_
    exact ((entries_perm visits).filter _).trans (perm_insertionSort _ _).symm
  have same : (((globalMapsOf builds).filter single).sortBy UkManager.customSortLe).entries =
      (((globalMapsOf others).filter single).sortBy UkManager.customSortLe).entries := by
    refine perm.eq_of_pairwise ?_ (sorted _) (sorted _)
    intro left right leftMem rightMem forward backward
    exact inj_on_of_nodup_map (Dict.distinct _) (perm.mem_iff.mp leftMem) rightMem
      (customSortLe_antisymm forward backward)
  rw [individualLibs, individualLibs, visits.length_eq]
  exact congrArg (List.map Prod.snd) same

end

end Spacer.Aligner
