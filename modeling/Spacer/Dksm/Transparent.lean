import Spacer.Dksm.Callback

/-! Merging is invisible to readers: it changes frames, never contents. -/

namespace Spacer.Dksm

structure Memory.SameReads (before after : Memory Page) : Prop where
  content : after.content = before.content
  read : ∀ slot, after.read slot = before.read slot

theorem Memory.SameReads.refl (mem : Memory Page) : mem.SameReads mem := ⟨rfl, fun _ => rfl⟩

theorem Memory.SameReads.trans {first second third : Memory Page}
  (left : first.SameReads second) (right : second.SameReads third) : first.SameReads third :=
  ⟨right.content.trans left.content, fun slot => (right.read slot).trans (left.read slot)⟩

theorem redirect_sameReads {mem : Memory Page} (page kpage : Nat)
  (mapped : mem.ptes slot = some pte) (identical : mem.content pte.pfn = mem.content newpte.pfn) :
  mem.SameReads (mem.redirect slot page kpage newpte) := by
  refine ⟨rfl, fun query => ?_⟩
  by_cases same : query = slot
  · subst same
    simp only [Memory.read, Memory.ptes_redirect, Function.update_self, mapped, Option.map_some]
    exact congrArg some identical.symm
  simp only [Memory.read, Memory.ptes_redirect, Function.update_of_ne same]
  rfl

theorem Merge.sameReads {kernel : Kernel Page}
  (merge : Merge kernel env vma pte checksum mem after iter) : mem.SameReads after := by
  obtain ⟨addr, _, mapped, rfl⟩ := replacePage_eq_some merge.replaced
  exact redirect_sameReads pte.pfn iter.pfn mapped merge.identical

variable [DecidableEq Page] (kernel : Kernel Page)

theorem pageCmpAndMerge_sameReads (env : Env) (vma : Vma) (addr : Nat) (mem : Memory Page)
  (pwd : PageWalkData) : mem.SameReads (pageCmpAndMerge kernel env vma addr mem pwd).1 := by
  rcases pageCmpAndMerge_memory kernel env vma addr mem pwd with same | ⟨pte, iter, _, _, merge⟩
  · rw [same]
    exact Memory.SameReads.refl mem
  · exact merge.sameReads

theorem walkPageRange_sameReads (vma : Vma) (pages : List (Nat × Env)) (mem : Memory Page)
  (pwd : PageWalkData) : mem.SameReads (walkPageRange kernel vma pages mem pwd).1 := by
  refine walkPageRange_induction kernel (fun after _ => mem.SameReads after) ?_ pages mem pwd
    (walkAll_true kernel vma pages mem pwd) (Memory.SameReads.refl mem)
  intro env addr after data _ same
  exact same.trans (pageCmpAndMerge_sameReads kernel env vma addr after data)

/-- Whatever the allocator, frame liveness and `replace_page` do, a call leaves the
contents read at every virtual address of every process unchanged. -/
theorem dksmMadvise_transparent (call : Madvise) (state : State Page) :
  state.mem.SameReads (dksmMadvise kernel call state).2.mem :=
  dksmMadvise_memory kernel (Memory.SameReads.refl state.mem) fun _ _ =>
    walkPageRange_sameReads kernel call.vma call.pages state.mem state.table

end Spacer.Dksm
