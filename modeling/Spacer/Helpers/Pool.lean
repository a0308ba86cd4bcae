import Spacer.Helpers.Delivery

/-! The pool against the `.sec` files that name its entries. -/

namespace Spacer.Helpers

open Lib List

def offered (elf : ElfFile) : List Section :=
  elf.iterSections.filter (poolTakes poolExcluded)

def firstOffered (elf : ElfFile) (name : String) : Option Section :=
  (offered elf).find? fun s => s.name = name

theorem get?_poolWrite_fold (sections : List Section) (pool : Pool) (name : String) :
  (sections.foldl (poolWrite poolExcluded) pool).get? name =
    (pool.get? name).or (((sections.filter (poolTakes poolExcluded)).find?
      fun s => s.name = name).map Section.data) := by
  induction sections generalizing pool with
  | nil => simp
  | cons s rest ih =>
    rw [foldl_cons, ih]
    by_cases taken : poolTakes poolExcluded s = true
    · rw [filter_cons_of_pos taken]
      by_cases same : s.name = name
      · subst name
        cases stored : pool.get? s.name <;> simp [poolWrite, taken, stored]
      have reverse : ¬name = s.name := fun equal => same equal.symm
      cases stored : pool.get? s.name <;> simp [poolWrite, taken, stored, same, reverse]
    rw [filter_cons_of_neg taken]
    simp [poolWrite, taken]

theorem get?_poolProcessFile : (poolProcessFile poolExcluded pool elf).get? name =
    (pool.get? name).or ((firstOffered elf name).map Section.data) :=
  get?_poolWrite_fold elf.iterSections pool name

variable (order : List ElfFile)

theorem get?_fill_fold : (order.foldl (poolProcessFile poolExcluded) pool).get? name =
    (pool.get? name).or ((order.findSome? fun elf => firstOffered elf name).map
      Section.data) := by
  induction order generalizing pool with
  | nil => simp
  | cons elf rest ih =>
    rw [foldl_cons, ih, get?_poolProcessFile, Option.or_assoc, findSome?_cons]
    cases firstOffered elf name <;> simp

theorem get?_fillPool : (fillPool poolExcluded order).get? name =
    (order.findSome? fun elf => firstOffered elf name).map Section.data := by
  rw [fillPool, get?_fill_fold]
  simp

theorem firstOffered_some (found : firstOffered elf name = some s) :
  s ∈ elf.iterSections ∧ poolTakes poolExcluded s = true ∧ s.name = name := by
  have member := mem_of_find?_eq_some found
  have named := find?_some found
  simp only [offered, mem_filter] at member
  exact ⟨member.1, member.2, by simpa using named⟩

theorem firstOffered_isSome (member : s ∈ elf.iterSections)
  (taken : poolTakes poolExcluded s = true) : ∃ first, firstOffered elf s.name = some first := by
  rw [← Option.isSome_iff_exists, firstOffered, find?_isSome]
  exact ⟨s, mem_filter.mpr ⟨member, taken⟩, by simp⟩

theorem findSome_of_mem {order : List ElfFile} (listed : elf ∈ order)
  (offer : firstOffered elf name = some s) :
  ∃ other ∈ order, ∃ first, firstOffered other name = some first ∧
    (order.findSome? fun elf => firstOffered elf name) = some first := by
  cases found : order.findSome? fun elf => firstOffered elf name with
  | none =>
    have missing := findSome?_eq_none_iff.mp found elf listed
    rw [offer] at missing
    contradiction
  | some first =>
    obtain ⟨other, member, value⟩ := exists_of_findSome?_eq_some found
    exact ⟨other, member, first, value, rfl⟩

theorem poolTakes_of_listed (listed : ListedInSec notCommon elf s) :
  poolTakes poolExcluded s = true ↔ occursIn ".data" s.name = false := by
  obtain ⟨kept, address, _⟩ := (mem_dumpSelect_iff _ _ elf s).mp listed.2
  obtain ⟨noInd, _, notExcluded, _⟩ := (dumpSkips_eq_false_iff _ _ s).mp kept
  have positive : 0 < s.shAddr := Nat.pos_of_ne_zero address
  cases inName : occursIn ".data" s.name with
  | true => simp [poolTakes, inName]
  | false =>
    have notData : s.name ≠ ".data" := by
      intro equal
      rw [equal] at inName
      revert inName
      decide
    have outside : s.name ∉ poolExcluded := by
      simp only [poolExcluded, mem_cons, notData, false_or]
      simpa [secExcluded] using notExcluded
    simp [poolTakes, noInd, inName, outside, positive]

variable (unikernels : List ElfFile)

def PoolFaithful : Prop :=
  ∀ uk ∈ unikernels, ∀ s, ListedInSec [] uk s → s.name ≠ ".data" →
    (fillPool poolExcluded order).get? s.name = some s.data

/-- The condition on the section lists: no other listed name mentions `.data`, and
all unikernels offer the same bytes under a listed name. -/
def SameOffers : Prop :=
  ∀ uk ∈ unikernels, ∀ s, ListedInSec [] uk s → s.name ≠ ".data" → occursIn ".data" s.name = false ∧
      ∀ other ∈ unikernels, ∀ offer, firstOffered other s.name = some offer → offer.data = s.data

variable {unikernels : List ElfFile}

theorem poolFaithful_of_sameOffers {order : List ElfFile} (perm : order.Perm unikernels)
  (same : SameOffers unikernels) : PoolFaithful order unikernels := by
  intro uk listed s inSec notData
  obtain ⟨noData, agree⟩ := same uk listed s inSec notData
  have taken := (poolTakes_of_listed inSec).mpr noData
  have member := mem_iterSections_of_dumpSelect _ _ inSec.2
  obtain ⟨own, ownOffer⟩ := firstOffered_isSome member taken
  obtain ⟨other, inOrder, first, offer, found⟩ :=
    findSome_of_mem (perm.symm.subset listed) ownOffer
  rw [get?_fillPool, found, Option.map_some, agree other (perm.subset inOrder) first offer]

theorem sameOffers_of_poolFaithful
  (faithful : ∀ order : List ElfFile, order.Perm unikernels → PoolFaithful order unikernels) :
  SameOffers unikernels := by
  intro uk listed s inSec notData
  constructor
  · have held := faithful unikernels (List.Perm.refl _) uk listed s inSec notData
    rw [get?_fillPool, Option.map_eq_some_iff] at held
    obtain ⟨stored, found, _⟩ := held
    obtain ⟨other, _, offer⟩ := exists_of_findSome?_eq_some found
    obtain ⟨_, taken, named⟩ := firstOffered_some offer
    simp only [poolTakes, Bool.and_eq_true, Bool.not_eq_eq_eq_not, Bool.not_true,
      Bool.or_eq_false_iff] at taken
    rw [← named]
    exact taken.1.2
  intro other otherListed offer offered
  -- Processing `other` first makes its offer the pool file.
  obtain ⟨before, after, split⟩ := append_of_mem otherListed
  have perm : (other :: (before ++ after)).Perm unikernels := by
    rw [split]
    exact perm_middle.symm
  have held := faithful _ perm uk listed s inSec notData
  rw [get?_fillPool, findSome?_cons, offered] at held
  simpa using held

/-- The pool reproduces every listed section in every processing order exactly
when the unikernels agree on what they offer under each listed name. -/
theorem poolFaithful_iff (unikernels : List ElfFile) :
  (∀ order : List ElfFile, order.Perm unikernels → PoolFaithful order unikernels) ↔ SameOffers unikernels :=
  ⟨sameOffers_of_poolFaithful, fun same _ perm => poolFaithful_of_sameOffers perm same⟩

def ctortabFirst : Section := byteSection ".uk_ctortab" 0x1000 1

def ctortabSecond : Section := byteSection ".uk_ctortab" 0x1000 2

theorem ctortab_not_faithful : ¬∀ order : List ElfFile, order.Perm [⟨[ctortabFirst]⟩, ⟨[ctortabSecond]⟩] →
    PoolFaithful order [⟨[ctortabFirst]⟩, ⟨[ctortabSecond]⟩] := by
  intro faithful
  have same := sameOffers_of_poolFaithful faithful
  have inSec : ListedInSec [] ⟨[ctortabSecond]⟩ ctortabSecond :=
    ⟨(dumpSections_ok_iff _ _ _).mpr ⟨by decide, by decide⟩, by decide⟩
  have agree := (same ⟨[ctortabSecond]⟩ (by simp) ctortabSecond inSec (by decide)).2
    ⟨[ctortabFirst]⟩ (by simp) ctortabFirst (by decide)
  revert agree
  decide

section

variable {Digest : Type} [DecidableEq Digest] (sha224 : List UInt8 → Digest)

theorem same_data_of_common (collisionFree : Function.Injective sha224) (classified : name ∉ unclassified)
  (common : name ∉ (processSpacerAslr sha224 unikernels).notCommon)
  (leftMem : left ∈ sectionsNamed unikernels name) (rightMem : right ∈ sectionsNamed unikernels name) :
  left.data = right.data := by
  rw [mem_notCommon_iff] at common
  have isCommonName : isCommon name ((sectionsNamed unikernels name).map fun s =>
      sha224 s.data) = true := by
    rw [← Bool.not_eq_false]
    exact fun differs => common ⟨classified, ne_nil_of_mem leftMem, differs⟩
  simp only [isCommon, Bool.and_eq_true, decide_eq_true_eq] at isCommonName
  exact collisionFree (eq_of_dedup_length_le_one isCommonName.1.1.1
    (mem_map_of_mem leftMem) (mem_map_of_mem rightMem))

/-- With the classification of exactly these unikernels the pool reproduces every
listed section, in every processing order, except under the names the classification
passes over. -/
theorem aslr_pool_faithful (unikernels order : List ElfFile)
  (collisionFree : Function.Injective sha224) (perm : order.Perm unikernels) :
  ∀ uk ∈ unikernels, ∀ s, ListedInSec (processSpacerAslr sha224 unikernels).notCommon uk s →
    s.name ∉ [" ", ".comment", ".shstrtab"] →
    (fillPool poolExcluded order).get? s.name = some s.data := by
  intro uk listed s inSec named
  obtain ⟨kept, _, _⟩ := (mem_dumpSelect_iff _ _ uk s).mp inSec.2
  obtain ⟨_, nonempty, _, common, _⟩ := (dumpSkips_eq_false_iff _ _ s).mp kept
  have member := mem_iterSections_of_dumpSelect _ _ inSec.2
  have noData : occursIn ".data" s.name = false := by
    rw [← Bool.not_eq_true]
    exact fun inName => common (data_mem_notCommon sha224 listed member inName)
  obtain ⟨own, ownOffer⟩ := firstOffered_isSome member ((poolTakes_of_listed inSec).mpr noData)
  obtain ⟨other, inOrder, first, offer, found⟩ :=
    findSome_of_mem (perm.symm.subset listed) ownOffer
  obtain ⟨firstMember, _, firstName⟩ := firstOffered_some offer
  have classified : s.name ∉ unclassified := by
    simp only [unclassified, mem_cons, nonempty, false_or]
    simpa using named
  have firstNamed : first ∈ sectionsNamed unikernels s.name := by
    rw [← firstName]
    exact mem_sectionsNamed (perm.subset inOrder) firstMember
  have sameData := same_data_of_common sha224 collisionFree classified common firstNamed
    (mem_sectionsNamed listed member)
  rw [get?_fillPool, found, Option.map_some, sameData]

end

def libraryText : Section := byteSection ".text.rodata.libukalloc" 0x2000 0xc3

def commentFirst : Section := byteSection ".comment" 0x1000 1

def commentSecond : Section := byteSection ".comment" 0x1000 2

theorem aslr_pool_holds_library :
  (fillPool poolExcluded [⟨[commentSecond, libraryText]⟩, ⟨[libraryText]⟩]).get?
    libraryText.name = some libraryText.data :=
  aslr_pool_faithful id [⟨[libraryText]⟩, ⟨[commentSecond, libraryText]⟩]
    [⟨[commentSecond, libraryText]⟩, ⟨[libraryText]⟩] Function.injective_id (List.Perm.swap _ _ _)
    ⟨[libraryText]⟩ (by simp) libraryText
    ⟨(dumpSections_ok_iff _ _ _).mpr ⟨by decide, by decide⟩, by decide⟩ (by decide)

theorem comment_not_faithful : Function.Injective (id : List UInt8 → List UInt8) ∧
    ListedInSec (processSpacerAslr id [⟨[commentFirst]⟩, ⟨[commentSecond]⟩]).notCommon
      ⟨[commentSecond]⟩ commentSecond ∧
    (fillPool poolExcluded [⟨[commentFirst]⟩, ⟨[commentSecond]⟩]).get? commentSecond.name ≠
      some commentSecond.data := by
  refine ⟨Function.injective_id, ⟨(dumpSections_ok_iff _ _ _).mpr ⟨by decide, by decide⟩,
    by decide⟩, ?_⟩
  rw [get?_fillPool]
  decide

end Spacer.Helpers
