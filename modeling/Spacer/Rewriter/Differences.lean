import Spacer.Rewriter.Identical
import Spacer.Rewriter.Offsets

/-! Which instructions `disassemble` finds problematic. -/

namespace Spacer.Rewriter

open Lib

/-- Two of the unikernels' copies differ at the offset. -/
def Apart (sects : List ElfSection) (offset : Nat) : Prop :=
  ∃ left ∈ sects, ∃ right ∈ sects, left.content[offset]? ≠ right.content[offset]?

theorem diffCompareBytes_ok
  (filled : ∀ sect ∈ sameSects images name, sect.size = size ∧ sect.content.length = size) :
  ∃ diffAddr, diffCompareBytes images name = .ok diffAddr := by
  have compares : ∀ pair ∈ (sameSects images name).zip (sameSects images name).tail,
      ∃ offsets, diffOffsets pair.1 pair.2 = .ok offsets := by
    intro pair member
    obtain ⟨leftMem, rightMem⟩ := List.of_mem_zip member
    obtain ⟨leftSize, left⟩ := filled _ leftMem
    obtain ⟨_, right⟩ := filled _ (List.mem_of_mem_tail rightMem)
    obtain ⟨offsets, done, _⟩ := diffOffsets_ok (leftSize.trans left.symm) (left.trans right.symm)
    exact ⟨offsets, done⟩
  obtain ⟨offsets, compared⟩ := (mapM_ok_iff _ _).mpr compares
  exact ⟨offsets.flatten, bind_of_ok compared⟩

/-- `disassemble` looks up addresses, which are offsets from the unikernel's own section. -/
theorem difference_set_complete (images : List Image) (name : String) (size : Nat)
  (alike : ∀ sect ∈ sameSects images name, sect.size = size ∧ sect.content.length = size) :
  ∃ diffAddr, diffCompareBytes images name = .ok diffAddr ∧
    (∀ offset, offset ∈ diffAddr ↔ Apart (sameSects images name) offset) ∧
    ∀ decode uk s content, (∃ finish, disassemble decode uk s content diffAddr =
        disassembleLoop (uk.moved s.sect) (inDiff s.sect.virtualAddress diffAddr) s.moved
          (decoded decode s.sect content) >>= finish) ∧
      ∀ ins offset, ins.address = s.sect.virtualAddress + offset →
        (inDiff s.sect.virtualAddress diffAddr ins = true ↔
          ∃ index < ins.bytes.length, Apart (sameSects images name) (offset + index)) := by
  obtain ⟨diffAddr, ran⟩ := diffCompareBytes_ok alike
  have differ := diffCompareBytes_iff alike ran
  refine ⟨diffAddr, ran, differ, fun decode uk s content => ⟨⟨_, rfl⟩, ?_⟩⟩
  intro ins offset placed
  rw [inDiff_iff diffAddr placed]
  exact exists_congr fun index => and_congr_right fun _ => differ _

/-- The call of the first library: its operand differs, its opcode does not. -/
theorem difference_set_complete_call : ∃ diffAddr,
    diffCompareBytes ([callingElf 0x108000, callingElf 0x109000].map processFile) ".text.libnet" =
      .ok diffAddr ∧ 2 ∈ diffAddr ∧ 0 ∉ diffAddr := by
  obtain ⟨diffAddr, ran, differ, _⟩ := difference_set_complete
    ([callingElf 0x108000, callingElf 0x109000].map processFile) ".text.libnet" 5 (by decide)
  refine ⟨diffAddr, ran, (differ 2).mpr ?_, fun same => ?_⟩
  · exact ⟨_, List.mem_cons_self, _, List.mem_cons_of_mem _ List.mem_cons_self, by decide⟩
  obtain ⟨left, leftMem, right, rightMem, apart⟩ := (differ 0).mp same
  revert left right
  decide

end Spacer.Rewriter
