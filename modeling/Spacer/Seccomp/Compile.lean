import Spacer.Seccomp.Filters

/-! From the deserialized filters to the programs: what `compileBlob` accepts and emits. -/

namespace Spacer.Seccomp

open Lib Lib.Bpf

namespace Compiler

variable {arch : TargetArch}

def toRule (action : SeccompAction) (rule : SyscallRule) : SeccompRule :=
  ⟨rule.conditions.getD [], action⟩

def rulesOf (arch : TargetArch) (filter : Filter) (rules : List SyscallRule) (number : Int) :
  List SeccompRule :=
  (rules.filter fun rule => (SyscallTable.new arch).getSyscallNr rule.syscall = some number).map
    (toRule filter.filterAction)

theorem pushRule_ok (pushed : (new arch).pushRule action ruleMap rule = .ok next) :
  ∃ number, (SyscallTable.new arch).getSyscallNr rule.syscall = some number ∧
    next = ruleMap.alter number fun old => old.getD [] ++ [toRule action rule] := by
  obtain ⟨number, found, finished⟩ := ok_of_bind pushed
  cases finished
  unfold syscallNr at found
  split at found
  · rename_i listed
    cases found
    exact ⟨number, listed, rfl⟩
  · cases found

structure Grouped (arch : TargetArch) (filter : Filter) (rules : List SyscallRule)
  (ruleMap : SeccompRuleMap) : Prop where
  stored : ∀ number, (ruleMap.get? number).getD [] = rulesOf arch filter rules number
  small : ∀ number ∈ ruleMap.keys, 0 ≤ number ∧ number < 2 ^ 31

theorem Grouped.pushRule (grouped : Grouped arch filter taken ruleMap)
  (pushed : (new arch).pushRule filter.filterAction ruleMap rule = .ok next) :
  Grouped arch filter (taken ++ [rule]) next := by
  obtain ⟨number, listed, rfl⟩ := pushRule_ok pushed
  constructor
  · intro query
    have stored := grouped.stored query
    by_cases same : query = number
    · subst same
      simpa [rulesOf, listed] using stored
    have other : ¬number = query := fun equal => same equal.symm
    simpa [rulesOf, listed, same, other] using stored
  intro query member
  rw [Dict.keys_alter] at member
  split at member
  · exact grouped.small query member
  rcases List.mem_append.mp member with old | new
  · exact grouped.small query old
  rw [List.mem_singleton.mp new]
  exact SyscallTable.getSyscallNr_bounds listed

theorem new_ok {default : SeccompAction}
  (made : SeccompFilter.new rules default arch.toString = .ok seccompFilter) :
  seccompFilter = ⟨rules, default, arch⟩ := by
  obtain ⟨found, parsed, rest⟩ := ok_of_bind made
  obtain ⟨_, _, finished⟩ := ok_of_bind rest
  cases finished
  have same : found = arch := by
    cases arch <;>
    · cases ok_of_mapError parsed
      rfl
  rw [same]

theorem makeSeccompFilter_ok (made : (new arch).makeSeccompFilter filter = .ok seccompFilter) :
  Grouped arch filter filter.filter seccompFilter.rules ∧
  seccompFilter.defaultAction = filter.defaultAction ∧ seccompFilter.targetArch = arch := by
  obtain ⟨ruleMap, folded, rest⟩ := ok_of_bind made
  have grouped : Grouped arch filter filter.filter ruleMap :=
    foldlM_invariant (Grouped arch filter) ⟨fun _ => rfl, fun _ member => by cases member⟩
      (fun _ _ _ _ _ grouped pushed => grouped.pushRule pushed) folded
  rw [new_ok (ok_of_mapError rest)]
  exact ⟨grouped, rfl, rfl⟩

end Compiler

namespace Filter

theorem conditions_valid {filter : Filter} (checked : filter.validate = .ok ()) :
  ∀ rule ∈ filter.filter, ∀ condition ∈ rule.conditions.getD [], condition.Valid := by
  unfold validate at checked
  split at checked
  · cases checked
  intro rule member condition inside
  have ruleChecked := ok_of_forM checked rule member
  exact (SeccompCondition.validate_ok_iff condition).mp
    (ok_of_mapError (ok_of_forM ruleChecked condition inside))

def Matches (filter : Filter) (arch : TargetArch) (data : SeccompData) : Prop :=
  ∃ rule ∈ filter.filter, (SyscallTable.new arch).getSyscallNr rule.syscall = some (data.nr.toNat : Int) ∧
    ∀ condition ∈ rule.conditions.getD [], condition.holds data = true

instance (filter : Filter) (arch : TargetArch) (data : SeccompData) :
  Decidable (filter.Matches arch data) :=
  inferInstanceAs (Decidable (∃ rule ∈ filter.filter, _ ∧ _))

def meaning (filter : Filter) (arch : TargetArch) (data : SeccompData) : UInt32 :=
  if data.arch ≠ arch.getAuditValue then retKillProcess
  else if filter.Matches arch data then filter.filterAction.toUInt32
  else filter.defaultAction.toUInt32

end Filter

namespace Compiler

variable {arch : TargetArch} {seccompFilter : SeccompFilter}

theorem ofInt_eq_iff (small : 0 ≤ number ∧ number < 2 ^ 31) (nr : UInt32) :
  nr = UInt32.ofInt number ↔ number = (nr.toNat : Int) := by
  have value : (UInt32.ofInt number).toNat = (number % 2 ^ 32).toNat := by
    rw [UInt32.ofInt, UInt32.toNat_ofNat']
    omega
  rw [← UInt32.toNat_inj, value]
  omega

theorem rulesFor_eq (grouped : Grouped arch filter rules seccompFilter.rules) :
  seccompFilter.rulesFor nr = rulesOf arch filter rules nr.toNat := by
  have members {syscall : Int × List SeccompRule} :=
    (SeccompFilter.inOrder_perm seccompFilter.rules).mem_iff (a := syscall)
  have small : ∀ syscall ∈ seccompFilter.rules.inOrder, 0 ≤ syscall.1 ∧ syscall.1 < 2 ^ 31 :=
    fun syscall member => grouped.small syscall.1 (List.mem_map_of_mem (members.mp member))
  rw [← grouped.stored, SeccompFilter.rulesFor]
  cases found : seccompFilter.rules.inOrder.find? fun syscall => nr = UInt32.ofInt syscall.1 with
  | some syscall =>
    have member := List.mem_of_find?_eq_some found
    have key : syscall.1 = (nr.toNat : Int) := by
      have test := List.find?_some found
      exact (ofInt_eq_iff (small syscall member) nr).mp (by simpa using test)
    have stored := (seccompFilter.rules.get?_eq_some_iff _ _).mpr (members.mp member)
    rw [← key, stored]
    rfl
  | none =>
    have absent : seccompFilter.rules.get? (nr.toNat : Int) = none := by
      cases stored : seccompFilter.rules.get? (nr.toNat : Int) with
      | none => rfl
      | some rules =>
        have entry := (seccompFilter.rules.get?_eq_some_iff _ _).mp stored
        have member := members.mpr entry
        have unequal := List.find?_eq_none.mp found _ member
        exact absurd (decide_eq_true ((ofInt_eq_iff (small _ member) nr).mpr rfl)) unequal
    rw [absent]
    rfl

theorem verdict_rulesOf (default : UInt32) :
  verdict (rulesOf arch filter filter.filter data.nr.toNat) default data =
    if filter.Matches arch data then filter.filterAction.toUInt32 else default := by
  unfold verdict
  cases found : (rulesOf arch filter filter.filter data.nr.toNat).find? (·.holds data) with
  | some rule =>
    obtain ⟨source, listed, rfl⟩ := List.mem_map.mp (List.mem_of_find?_eq_some found)
    obtain ⟨member, number⟩ := List.mem_filter.mp listed
    have holds := List.find?_some found
    have matched : filter.Matches arch data :=
      ⟨source, member, of_decide_eq_true number, List.all_eq_true.mp holds⟩
    rw [if_pos matched]
    rfl
  | none =>
    have unmatched : ¬filter.Matches arch data := by
      rintro ⟨source, member, number, holds⟩
      have listed : toRule filter.filterAction source ∈ rulesOf arch filter filter.filter data.nr.toNat :=
        List.mem_map_of_mem (List.mem_filter.mpr ⟨member, decide_eq_true number⟩)
      exact List.find?_eq_none.mp found _ listed (List.all_eq_true.mpr holds)
    rw [if_neg unmatched]

theorem meaning_makeSeccompFilter (made : (new arch).makeSeccompFilter filter = .ok seccompFilter) :
  seccompFilter.meaning data = filter.meaning arch data := by
  obtain ⟨grouped, default, target⟩ := makeSeccompFilter_ok made
  unfold SeccompFilter.meaning Filter.meaning
  rw [rulesFor_eq grouped, verdict_rulesOf, default, target, ite_not]

theorem makeSeccompFilter_valid (checked : filter.validate = .ok ())
  (made : (new arch).makeSeccompFilter filter = .ok seccompFilter) : seccompFilter.Valid := by
  obtain ⟨grouped, _⟩ := makeSeccompFilter_ok made
  rintro ⟨number, rules⟩ member rule inside
  have stored := grouped.stored number
  rw [(seccompFilter.rules.get?_eq_some_iff number rules).mpr member, Option.getD_some] at stored
  rw [stored] at inside
  obtain ⟨source, listed, rfl⟩ := List.mem_map.mp inside
  exact Filter.conditions_valid checked source (List.mem_filter.mp listed).1

def Correct (filter : Filter) (arch : TargetArch) (program : BpfProgram) : Prop :=
  accepts SeccompData.size program = true ∧
  (∀ load acc, (exec load 0 acc program).isSome = true) ∧
  ∀ data : SeccompData, run data.load program = some (filter.meaning arch data)

theorem compileFilter_correct (checked : filter.validate = .ok ())
  (compiled : (new arch).compileFilter false filter = .ok program) : Correct filter arch program := by
  obtain ⟨seccompFilter, made, finished⟩ := ok_of_bind compiled
  have valid := makeSeccompFilter_valid checked made
  obtain ⟨rfl, short⟩ := SeccompFilter.tryInto_ok (ok_of_mapError finished)
  have accepted := SeccompFilter.accepts_code valid short
  refine ⟨accepted, ?_, ?_⟩
  · intro load acc
    exact exec_isSome_of_accepts load accepted acc
  intro data
  rw [SeccompFilter.run_code valid, meaning_makeSeccompFilter made]

structure Emitted (arch : TargetArch) (taken : List (String × Filter))
  (blob : Dict String BpfProgram) : Prop where
  correct : ∀ name program, blob.get? name = some program →
    ∃ filter, (name, filter) ∈ taken ∧ Correct filter arch program
  complete : ∀ entry ∈ taken, ∃ program, blob.get? entry.1 = some program

theorem Emitted.set (emitted : Emitted arch taken blob) (correct : Correct entry.2 arch program) :
  Emitted arch (taken ++ [entry]) (blob.set entry.1 program) := by
  constructor
  · intro name other stored
    rw [Dict.get?_set] at stored
    split at stored
    · rename_i same
      cases stored
      exact ⟨entry.2, by simp [same], correct⟩
    obtain ⟨filter, member, holds⟩ := emitted.correct name other stored
    exact ⟨filter, List.mem_append_left _ member, holds⟩
  intro other member
  rw [Dict.get?_set]
  split
  · exact ⟨program, rfl⟩
  rename_i different
  rcases List.mem_append.mp member with old | last
  · exact emitted.complete other old
  · exact absurd (congrArg Prod.fst (List.mem_singleton.mp last)) different

/-- Every emitted program belongs to a filter, and every filter gets one. -/
theorem compileBlob_correct (arch : TargetArch) (filters : Dict String Filter)
  (blob : Dict String BpfProgram)
  (accepted : (new arch).compileBlob filters false = .ok blob) :
  (∀ name program, blob.get? name = some program →
    ∃ filter, filters.get? name = some filter ∧ Correct filter arch program) ∧
  ∀ name filter, filters.get? name = some filter → ∃ program, blob.get? name = some program := by
  obtain ⟨_, checked, folded⟩ := ok_of_bind accepted
  have emitted : Emitted arch filters.entries blob := by
    refine foldlM_invariant (Emitted arch) ⟨?_, ?_⟩ ?_ folded
    · intro name program stored
      cases stored
    · intro entry member
      cases member
    intro taken entry state next member emitted stepped
    obtain ⟨program, compiled, finished⟩ := ok_of_bind stepped
    cases finished
    exact emitted.set (compileFilter_correct (ok_of_forM checked entry member) compiled)
  constructor
  · intro name program stored
    obtain ⟨filter, member, correct⟩ := emitted.correct name program stored
    exact ⟨filter, (filters.get?_eq_some_iff name filter).mpr member, correct⟩
  intro name filter stored
  exact emitted.complete (name, filter) ((filters.get?_eq_some_iff name filter).mp stored)

def sampleFilters : Dict String Filter :=
  Dict.empty.set "vmm" ⟨.trap, .allow, [⟨"write", some [⟨0, .dword, .le, 2⟩, ⟨0, .dword, .gt, 0⟩]⟩,
      ⟨"write", some [⟨2, .qword, .maskedEq 1, 0⟩]⟩, ⟨"writev", none⟩]⟩

theorem compileBlob_correct_sample :
  ∃ blob program, (new .x86_64).compileBlob sampleFilters false = .ok blob ∧
    blob.get? "vmm" = some program ∧
    run (SeccompData.load ⟨1, auditArchX8664, 0, fun _ => 2⟩) program = some retAllow := by
  obtain ⟨blob, compiled⟩ : ∃ blob, (new .x86_64).compileBlob sampleFilters false = .ok blob :=
    ⟨_, rfl⟩
  have found : sampleFilters.get? "vmm" = some _ := rfl
  have emitted := compileBlob_correct .x86_64 sampleFilters blob compiled
  obtain ⟨program, stored⟩ := emitted.2 "vmm" _ found
  obtain ⟨filter, same, correct⟩ := emitted.1 "vmm" program stored
  rw [found] at same
  cases same
  refine ⟨blob, program, compiled, stored, ?_⟩
  rw [correct.2.2]
  decide +kernel

end Compiler

end Spacer.Seccomp
