import Spacer.Lib.Lists
import Spacer.Seccomp.Rules

/-! The rule chains of the system calls and the whole program of a filter. -/

namespace Spacer.Seccomp

open Lib Lib.Bpf
open List (append_assoc flatten_cons map_cons mem_cons_of_mem mem_cons_self)

/-- The action of the first rule that matches, and `default` if none does. -/
def verdict (rules : List SeccompRule) (default : UInt32) (data : SeccompData) : UInt32 :=
  match rules.find? (·.holds data) with
  | some rule => rule.action.toUInt32
  | none => default

section

variable {data : SeccompData} {rules : List SeccompRule}

variable (valid : ∀ rule ∈ rules, rule.Valid)
include valid

theorem exec_rules (default acc : UInt32) (rest : List SockFilter) :
  exec data.load 0 acc ((rules.map SeccompRule.intoBpf).flatten ++ stmt .ret default :: rest) =
    some (verdict rules default data) := by
  induction rules generalizing acc with
  | nil => rfl
  | cons rule rules ih =>
    have later (acc : UInt32) := ih (fun other member => valid other (mem_cons_of_mem _ member)) acc
    rw [map_cons, flatten_cons, append_assoc,
      SeccompRule.exec_intoBpf (valid rule mem_cons_self) data later]
    cases matched : rule.holds data <;> simp [verdict, matched]

theorem exec_rules_skip (acc : UInt32) (rest : List SockFilter) :
  exec data.load 1 acc ((rules.map SeccompRule.intoBpf).flatten ++ rest) = exec data.load 1 acc rest := by
  induction rules with
  | nil => rfl
  | cons rule rules ih =>
    rw [map_cons, flatten_cons, append_assoc,
      SeccompRule.exec_intoBpf_skip (valid rule mem_cons_self)]
    exact ih fun other member => valid other (mem_cons_of_mem _ member)

theorem insnsOk_rules (two : 2 ≤ after) :
  insnsOk SeccompData.size after (rules.map SeccompRule.intoBpf).flatten = true := by
  induction rules with
  | nil => rfl
  | cons rule rules ih =>
    rw [map_cons, flatten_cons, insnsOk_append,
      SeccompRule.insnsOk_intoBpf (valid rule mem_cons_self) (by omega), Bool.true_and]
    exact ih fun other member => valid other (mem_cons_of_mem _ member)

omit valid

end

variable {chains : List (Int × List SeccompRule)}

namespace SeccompFilter

variable {default : UInt32}

theorem exec_syscallChain (valid : ∀ rule ∈ syscall.2, rule.Valid) :
  exec data.load 0 acc (syscallChain default syscall ++ rest) =
    if acc = UInt32.ofInt syscall.1 then some (verdict syscall.2 default data)
    else exec data.load 0 acc rest := by
  rw [syscallChain, List.cons_append, append_assoc, exec_jeq]
  refine if_congr Iff.rfl ?_ ?_
  · exact exec_rules valid default acc rest
  · exact exec_rules_skip valid acc (stmt .ret default :: rest)

theorem insnsOk_syscallChain (valid : ∀ rule ∈ syscall.2, rule.Valid) (behind : 1 ≤ after) :
  insnsOk SeccompData.size after (syscallChain default syscall) = true := by
  have rules := insnsOk_rules valid (show 2 ≤ 1 + after by omega)
  simp only [syscallChain, insnsOk, insnsOk_append, rules, List.length_append, List.length_singleton,
    insnOk_ret, Bool.and_true, insnOk_jeq]
  change 0 < _ ∧ 1 < _
  omega

theorem exec_chains (valid : ∀ syscall ∈ chains, ∀ rule ∈ syscall.2, rule.Valid) (acc : UInt32) :
  exec data.load 0 acc ((chains.map (syscallChain default)).flatten ++ [stmt .ret default]) =
    some (verdict ((chains.find? fun syscall => acc = UInt32.ofInt syscall.1).elim [] Prod.snd)
      default data) := by
  induction chains with
  | nil => rfl
  | cons syscall chains ih =>
    rw [map_cons, flatten_cons, append_assoc,
      exec_syscallChain (valid syscall mem_cons_self),
      ih fun other member => valid other (mem_cons_of_mem _ member)]
    by_cases loaded : acc = UInt32.ofInt syscall.1 <;> simp [loaded]

theorem insnsOk_chains (valid : ∀ syscall ∈ chains, ∀ rule ∈ syscall.2, rule.Valid) (behind : 1 ≤ after) :
  insnsOk SeccompData.size after (chains.map (syscallChain default)).flatten = true := by
  induction chains with
  | nil => rfl
  | cons syscall chains ih =>
    rw [map_cons, flatten_cons, insnsOk_append,
      insnsOk_syscallChain (valid syscall mem_cons_self) (by omega), Bool.true_and]
    exact ih fun other member => valid other (mem_cons_of_mem _ member)

variable (filter : SeccompFilter)

def body : List SockFilter :=
  (if filter.rules.entries.isEmpty then [] else examineSyscall) ++
    ((filter.rules.inOrder.map (syscallChain filter.defaultAction.toUInt32)).flatten ++
      [stmt .ret filter.defaultAction.toUInt32])

def code : List SockFilter :=
  validateArchitecture filter.targetArch ++ filter.body

theorem appendSyscallChain_ok (done : appendSyscallChain default accumulator filterLen syscall = .ok next) :
  next.1 = accumulator ++ [syscallChain default syscall] := by
  unfold appendSyscallChain at done
  dsimp only at done
  split at done
  · cases done
  cases done
  rfl

theorem inOrder_perm (rules : SeccompRuleMap) : rules.inOrder.Perm rules.entries :=
  List.perm_insertionSort _ _

theorem inOrder_eq_nil {rules : SeccompRuleMap} (none : rules.entries.isEmpty = true) :
  rules.inOrder = [] := by
  have same := inOrder_perm rules
  rw [List.isEmpty_iff.mp none] at same
  exact same.eq_nil

theorem tryInto_ok {filter : SeccompFilter} (done : filter.tryInto = .ok program) :
  program = filter.code ∧ program.length < bpfMaxLen := by
  unfold tryInto at done
  dsimp only at done
  split at done
  · rename_i none
    cases done
    refine ⟨by simp [code, body, none, inOrder_eq_nil none], ?_⟩
    change 4 < 4096
    decide
  rename_i some
  obtain ⟨built, folded, finished⟩ := ok_of_bind done
  have chains : built.1 =
      examineSyscall :: filter.rules.inOrder.map (syscallChain filter.defaultAction.toUInt32) :=
    foldlM_invariant (fun taken state => state.1 =
        examineSyscall :: taken.map (syscallChain filter.defaultAction.toUInt32)) rfl
      (by
        intro taken syscall state next _ holds stepped
        rw [appendSyscallChain_ok stepped, holds]
        simp) folded
  split at finished
  · cases finished
  rename_i short
  cases finished
  refine ⟨?_, Nat.lt_of_not_le short⟩
  simp [code, body, some, chains]

def Valid (filter : SeccompFilter) : Prop :=
  ∀ syscall ∈ filter.rules.entries, ∀ rule ∈ syscall.2, rule.Valid

def rulesFor (nr : UInt32) : List SeccompRule :=
  (filter.rules.inOrder.find? fun syscall => nr = UInt32.ofInt syscall.1).elim [] Prod.snd

def meaning (data : SeccompData) : UInt32 :=
  if data.arch = filter.targetArch.getAuditValue then
    verdict (filter.rulesFor data.nr) filter.defaultAction.toUInt32 data
  else retKillProcess

variable {filter : SeccompFilter}

variable (valid : filter.Valid)
include valid

theorem Valid.inOrder : ∀ syscall ∈ filter.rules.inOrder, ∀ rule ∈ syscall.2, rule.Valid :=
  fun syscall member => valid syscall ((inOrder_perm filter.rules).mem_iff.mp member)

theorem exec_body (data : SeccompData) : exec data.load 0 acc filter.body =
    some (verdict (filter.rulesFor data.nr) filter.defaultAction.toUInt32 data) := by
  unfold body rulesFor
  by_cases none : filter.rules.entries.isEmpty = true
  · rw [if_pos none, inOrder_eq_nil none]
    rfl
  rw [if_neg none, examineSyscall, List.singleton_append, exec_ldAbs, SeccompData.load_nr]
  exact exec_chains valid.inOrder data.nr

theorem run_code (data : SeccompData) : run data.load filter.code = some (filter.meaning data) := by
  unfold run code meaning validateArchitecture
  by_cases target : data.arch = filter.targetArch.getAuditValue
  · simp [SeccompData.load_arch, target, exec_body valid]
  · simp [SeccompData.load_arch, target]

theorem insnsOk_body : insnsOk SeccompData.size 0 filter.body = true := by
  have chains : insnsOk SeccompData.size 1
      (filter.rules.inOrder.map (syscallChain filter.defaultAction.toUInt32)).flatten = true :=
    insnsOk_chains valid.inOrder (Nat.le_refl 1)
  have number : insnsOk SeccompData.size
      (((filter.rules.inOrder.map (syscallChain filter.defaultAction.toUInt32)).flatten ++
        [stmt .ret filter.defaultAction.toUInt32]).length + 0)
      (if filter.rules.entries.isEmpty then [] else examineSyscall) = true := by
    split
    · rfl
    · simp [examineSyscall, insnsOk, seccompDataNrOffset, SeccompData.size]
  rw [body, insnsOk_append, number, insnsOk_append]
  simp [chains, insnsOk]

theorem accepts_code (short : filter.code.length < bpfMaxLen) :
  accepts SeccompData.size filter.code = true := by
  have last : filter.code.getLast? = some (stmt .ret filter.defaultAction.toUInt32) := by
    simp [code, body]
  have small : filter.code.length ≤ maxInsns := Nat.le_of_lt short
  have nonempty : 0 < filter.body.length := by simp [body]
  have checked : insnsOk SeccompData.size 0 filter.code = true := by
    rw [code, insnsOk_append, insnsOk_body valid]
    simpa [validateArchitecture, insnsOk, SeccompData.size] using by omega
  simp [accepts, last, small, checked, isRet, stmt]

omit valid

end SeccompFilter

end Spacer.Seccomp
