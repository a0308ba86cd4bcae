import Spacer.Seccomp.Conditions

/-!
The code of one rule.  It is built backwards, so at every moment there is a finished
piece of code and the `offset` that leads from its first instruction out of the rule.
-/

namespace Spacer.Seccomp.SeccompRule

open Lib Lib.Bpf

variable {data : SeccompData} {action : UInt32} {conditions : List SeccompCondition}

namespace Built

def code (built : Built) : List SockFilter := built.accumulator.reverse.flatten

@[simp] theorem code_push (built : Built) (offset : UInt8) :
  (built.push instructions offset).code = instructions ++ built.code := by
  simp [code, push]

@[simp] theorem offset_push (built : Built) (offset : UInt8) :
  (built.push instructions offset).offset = offset := rfl

/-- A jump of `offset` from the start of the code leads to the next rule, one instruction
more leads into its second instruction, and the kernel accepts every jump. -/
structure Jumpable (built : Built) : Prop where
  leaves : ∀ (load : UInt32 → UInt32) (rest : List SockFilter) (acc : UInt32) (extra : Nat),
    extra ≤ 1 → exec load (built.offset.toNat + extra) acc (built.code ++ rest) = exec load extra acc rest
  offsetInside : built.offset.toNat ≤ built.code.length
  checked : ∀ after, 2 ≤ after → insnsOk SeccompData.size after built.code = true
  room : built.offset.toNat + 1 < 256

def Returns (built : Built) (data : SeccompData) (action : UInt32) (verdict : Bool) : Prop :=
  ∀ (rest : List SockFilter) (fail : Option UInt32) (acc : UInt32),
    (∀ acc, exec data.load 0 acc rest = fail) →
    exec data.load 0 acc (built.code ++ rest) = if verdict = true then some action else fail

variable {built : Built}

theorem succ_offset_toNat (room : built.offset.toNat + 1 < 256) :
  (built.offset.toUInt32 + 1).toNat = built.offset.toNat + 1 := by
  rw [UInt32.toNat_add, UInt8.toNat_toUInt32]
  exact Nat.mod_eq_of_lt (by simpa using by omega)

theorem Jumpable.helperJumps (jumpable : built.Jumpable) :
  (built.push (helperJumps built.offset) 1).Jumpable := by
  have next := succ_offset_toNat jumpable.room
  have inside := jumpable.offsetInside
  refine ⟨?_, ?_, ?_, ?_⟩
  · intro load rest acc extra bound
    have leaves := jumpable.leaves load rest acc extra bound
    rcases Nat.le_one_iff_eq_zero_or_eq_one.mp bound with rfl | rfl
    · simpa [SeccompRule.helperJumps, next] using leaves
    · simpa [SeccompRule.helperJumps, next] using leaves
  · simp [SeccompRule.helperJumps]
  · intro after two
    have checked := jumpable.checked after two
    simpa [SeccompRule.helperJumps, insnsOk, next, checked] using by omega
  rw [offset_push]
  decide

theorem Returns.helperJumps (returns : built.Returns data action verdict) :
  (built.push (SeccompRule.helperJumps built.offset) 1).Returns data action verdict := by
  intro rest fail acc failed
  simpa [SeccompRule.helperJumps] using returns rest fail acc failed

theorem makeRoom_cases (built : Built) : (built.offset.toNat + 7 < 256 ∧ makeRoom built = built) ∨
    makeRoom built = built.push (SeccompRule.helperJumps built.offset) 1 := by
  have seven : (conditionMaxLen + 1).toNat = 7 := rfl
  unfold makeRoom checkedAdd
  rw [seven]
  by_cases small : built.offset.toNat + 7 < 256
  · left
    refine ⟨small, ?_⟩
    rw [if_pos small]
    rfl
  right
  rw [if_neg small]
  rfl

theorem makeRoom_room (built : Built) : (makeRoom built).offset.toNat + 7 < 256 := by
  rcases makeRoom_cases built with ⟨small, same⟩ | helped
  · rwa [same]
  rw [helped, offset_push]
  decide

theorem Jumpable.makeRoom (jumpable : built.Jumpable) : (makeRoom built).Jumpable := by
  rcases makeRoom_cases built with ⟨_, same⟩ | helped
  · rwa [same]
  rw [helped]
  exact jumpable.helperJumps

theorem Returns.makeRoom (returns : built.Returns data action verdict) :
  (makeRoom built).Returns data action verdict := by
  rcases makeRoom_cases built with ⟨_, same⟩ | helped
  · rwa [same]
  rw [helped]
  exact returns.helperJumps

theorem appendCondition_offset (built : Built) (condition : SeccompCondition) :
  (appendCondition built condition).offset.toNat = (SeccompRule.makeRoom built).offset.toNat +
      (condition.intoBpf (SeccompRule.makeRoom built).offset).length := by
  have room := makeRoom_room built
  have short : (condition.intoBpf (SeccompRule.makeRoom built).offset).length ≤ 6 :=
    condition.length_intoBpf _
  have length : (UInt8.ofNat (condition.intoBpf (SeccompRule.makeRoom built).offset).length).toNat =
      (condition.intoBpf (SeccompRule.makeRoom built).offset).length := by
    rw [UInt8.toNat_ofNat']
    exact Nat.mod_eq_of_lt (by omega)
  rw [appendCondition, offset_push, UInt8.toNat_add, length]
  exact Nat.mod_eq_of_lt (by omega)

theorem Jumpable.appendCondition (valid : condition.Valid) (jumpable : built.Jumpable) :
  (appendCondition built condition).Jumpable := by
  have offset := appendCondition_offset built condition
  have room := makeRoom_room built
  have short : (condition.intoBpf (SeccompRule.makeRoom built).offset).length ≤ 6 :=
    condition.length_intoBpf _
  have code : (SeccompRule.appendCondition built condition).code =
      condition.intoBpf (SeccompRule.makeRoom built).offset ++ (SeccompRule.makeRoom built).code :=
    code_push _ _
  have jumpable := jumpable.makeRoom
  refine ⟨?_, ?_, ?_, by omega⟩
  · intro load rest acc extra bound
    rw [offset, code, List.append_assoc, Nat.add_right_comm, exec_over]
    exact jumpable.leaves load rest acc extra bound
  · have inside := jumpable.offsetInside
    rw [offset, code, List.length_append]
    omega
  intro after two
  have inside := jumpable.offsetInside
  rw [code, insnsOk_append, jumpable.checked after two, Bool.and_true]
  exact SeccompCondition.insnsOk_intoBpf valid (by omega) (by omega)

theorem Returns.appendCondition (valid : condition.Valid) (jumpable : built.Jumpable)
  (returns : built.Returns data action verdict) :
  (appendCondition built condition).Returns data action (condition.holds data && verdict) := by
  intro rest fail acc failed
  have room := makeRoom_room built
  have decides : SeccompCondition.Decides data (condition.intoBpf (SeccompRule.makeRoom built).offset)
      (SeccompRule.makeRoom built).offset (condition.holds data) :=
    SeccompCondition.decides_intoBpf valid (by omega) data
  have leaves (acc : UInt32) := jumpable.makeRoom.leaves data.load rest acc 0 (by decide)
  rw [SeccompRule.appendCondition, code_push, List.append_assoc,
    decides _ (if verdict = true then some action else fail) fail acc
      (fun acc => returns.makeRoom rest fail acc failed)
      (fun acc => (leaves acc).trans (failed acc))]
  cases condition.holds data with
  | true => rfl
  | false => rfl

theorem start_jumpable (action : UInt32) : Jumpable ⟨[[stmt .ret action]], 1⟩ := by
  refine ⟨?_, Nat.le_refl 1, ?_, ?_⟩
  · intro load rest acc extra _
    rw [Nat.add_comm]
    exact exec_over load acc [stmt .ret action] rest extra
  · intro after _
    rfl
  change 1 + 1 < 256
  decide

theorem start_returns (data : SeccompData) (action : UInt32) :
  Returns ⟨[[stmt .ret action]], 1⟩ data action true := by
  intro rest fail acc _
  rfl

theorem Jumpable.foldl (valid : ∀ condition ∈ conditions, condition.Valid) (jumpable : built.Jumpable) :
  (conditions.foldl SeccompRule.appendCondition built).Jumpable := by
  induction conditions generalizing built with
  | nil => exact jumpable
  | cons condition conditions ih =>
    exact ih (fun other member => valid other (List.mem_cons_of_mem _ member))
      (jumpable.appendCondition (valid condition List.mem_cons_self))

theorem Returns.foldl (valid : ∀ condition ∈ conditions, condition.Valid)
  (jumpable : built.Jumpable) (returns : built.Returns data action verdict) :
  (conditions.foldl SeccompRule.appendCondition built).Returns data action
    (conditions.all (·.holds data) && verdict) := by
  induction conditions generalizing built verdict with
  | nil => exact returns
  | cons condition conditions ih =>
    have here := valid condition List.mem_cons_self
    rw [List.foldl_cons, List.all_cons, Bool.and_comm (condition.holds data), Bool.and_assoc]
    exact ih (fun other member => valid other (List.mem_cons_of_mem _ member))
      (jumpable.appendCondition here) (returns.appendCondition here jumpable)

end Built

def holds (rule : SeccompRule) (data : SeccompData) : Bool :=
  rule.conditions.all (·.holds data)

def Valid (rule : SeccompRule) : Prop := ∀ condition ∈ rule.conditions, condition.Valid

variable {rule : SeccompRule}

theorem buildConditions_jumpable (valid : rule.Valid) : rule.buildConditions.Jumpable :=
  (Built.start_jumpable rule.action.toUInt32).foldl valid

theorem buildConditions_returns (valid : rule.Valid) (data : SeccompData) :
  rule.buildConditions.Returns data rule.action.toUInt32 (rule.holds data) := by
  have built := (Built.start_returns data rule.action.toUInt32).foldl valid
    (Built.start_jumpable rule.action.toUInt32)
  rwa [Bool.and_true] at built

theorem intoBpf_eq : rule.intoBpf = ruleJumps rule.buildConditions.offset ++ rule.buildConditions.code :=
  Built.code_push _ _

theorem exec_intoBpf (valid : rule.Valid) (data : SeccompData) (failed : ∀ acc, exec data.load 0 acc rest = fail) :
  exec data.load 0 acc (rule.intoBpf ++ rest) =
    if rule.holds data = true then some rule.action.toUInt32 else fail := by
  rw [intoBpf_eq]
  simpa [ruleJumps] using buildConditions_returns valid data rest fail acc failed

theorem exec_intoBpf_skip (valid : rule.Valid) :
  exec data.load 1 acc (rule.intoBpf ++ rest) = exec data.load 1 acc rest := by
  have jumpable := buildConditions_jumpable valid
  rw [intoBpf_eq]
  simpa [ruleJumps, Built.succ_offset_toNat jumpable.room] using
    jumpable.leaves data.load rest acc 1 (Nat.le_refl 1)

theorem insnsOk_intoBpf (valid : rule.Valid) (two : 2 ≤ after) :
  insnsOk SeccompData.size after rule.intoBpf = true := by
  have jumpable := buildConditions_jumpable valid
  have inside := jumpable.offsetInside
  rw [intoBpf_eq]
  simpa [ruleJumps, insnsOk, Built.succ_offset_toNat jumpable.room, jumpable.checked after two] using
    by omega

end Spacer.Seccomp.SeccompRule
