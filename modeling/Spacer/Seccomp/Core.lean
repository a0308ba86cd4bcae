import Spacer.Lib.Bpf
import Spacer.Lib.Dict
import Spacer.Seccomp.SyscallTable

/-!
The seccomp filter compiler: the deserialized JSON filters, the intermediate
representation they are turned into, and the classic BPF code emitted for it.
-/

namespace Spacer.Seccomp

open Lib Lib.Bpf

inductive TargetArchError
  | invalidString (arch : String)

def auditArchX8664 : UInt32 := 62 ||| 0x80000000 ||| 0x40000000

def auditArchAarch64 : UInt32 := 183 ||| 0x80000000 ||| 0x40000000

def TargetArch.getAuditValue : TargetArch → UInt32
  | .x86_64 => auditArchX8664
  | .aarch64 => auditArchAarch64

def TargetArch.toString : TargetArch → String
  | .x86_64 => "x86_64"
  | .aarch64 => "aarch64"

-- no character outside ASCII has a lower case letter of these names as its lower case
def TargetArch.tryInto (arch : String) : Except TargetArchError TargetArch :=
  let lower := arch.toList.map Char.toLower
  if lower = "x86_64".toList then .ok .x86_64
  else if lower = "aarch64".toList then .ok .aarch64
  else .error (.invalidString arch)

inductive BackendError
  | emptyRulesVector
  | filterTooLarge
  | invalidArgumentNumber
  | arch (error : TargetArchError)
  | conflictingRules (syscallNumber : Int)

inductive SeccompCmpOp
  | eq
  | ge
  | gt
  | le
  | lt
  | maskedEq (mask : UInt64)
  | ne

inductive SeccompCmpArgLen
  | dword
  | qword

structure SeccompCondition where
  argNumber : UInt8
  argLen : SeccompCmpArgLen
  operator : SeccompCmpOp
  value : UInt64

inductive SeccompAction
  | allow
  | errno (number : UInt32)
  | killThread
  | killProcess
  | log
  | trace (number : UInt32)
  | trap
  deriving DecidableEq

def retAllow : UInt32 := 0x7fff0000
def retErrno : UInt32 := 0x00050000
def retKillThread : UInt32 := 0x00000000
def retKillProcess : UInt32 := 0x80000000
def retLog : UInt32 := 0x7ffc0000
def retTrace : UInt32 := 0x7ff00000
def retTrap : UInt32 := 0x00030000
def retMask : UInt32 := 0x0000ffff

def SeccompAction.toUInt32 : SeccompAction → UInt32
  | .allow => retAllow
  | .errno x => retErrno ||| (x &&& retMask)
  | .killThread => retKillThread
  | .killProcess => retKillProcess
  | .log => retLog
  | .trace x => retTrace ||| (x &&& retMask)
  | .trap => retTrap

structure SeccompRule where
  conditions : List SeccompCondition
  action : SeccompAction

/-- A `BTreeMap`: whatever the order of insertion, it is read through `inOrder`. -/
abbrev SeccompRuleMap := Dict Int (List SeccompRule)

def SeccompRuleMap.inOrder (rules : SeccompRuleMap) : List (Int × List SeccompRule) :=
  (rules.sortBy fun left right => left.1 ≤ right.1).entries

structure SeccompFilter where
  rules : SeccompRuleMap
  defaultAction : SeccompAction
  targetArch : TargetArch

abbrev BpfProgram := List SockFilter

def argNumberMax : UInt8 := 5

def conditionMaxLen : UInt8 := 6

def seccompDataNrOffset : UInt8 := 0

def seccompDataArgsOffset : UInt8 := 16

def seccompDataArgSize : UInt8 := 8

namespace SeccompCondition

variable (condition : SeccompCondition)

def validate : Except BackendError Unit :=
  if condition.argNumber > argNumberMax then .error .invalidArgumentNumber else .ok ()

def msb (value : UInt64) : UInt32 := (value >>> 32).toUInt32

def lsb (value : UInt64) : UInt32 := value.toUInt32

def argOffset : UInt8 :=
  seccompDataArgsOffset + condition.argNumber * seccompDataArgSize

def msbOffset : UInt8 :=
  condition.argOffset + seccompDataArgSize / 2

def lsbOffset : UInt8 := condition.argOffset

/-- The shape all comparisons share: a `qword` first tests the most significant half. -/
def segmentsBpf (high low : List SockFilter) : List SockFilter :=
  (match condition.argLen with
    | .dword => []
    | .qword => stmt .ldAbs condition.msbOffset.toUInt32 :: high) ++
  stmt .ldAbs condition.lsbOffset.toUInt32 :: low

variable (offset : UInt8)

def intoEqBpf : List SockFilter :=
  condition.segmentsBpf [jump .jeq (msb condition.value) 0 (offset + 2)]
    [jump .jeq (lsb condition.value) 0 offset]

def intoGeBpf : List SockFilter :=
  condition.segmentsBpf
    [jump .jgt (msb condition.value) 3 0, jump .jeq (msb condition.value) 0 (offset + 2)]
    [jump .jge (lsb condition.value) 0 offset]

def intoGtBpf : List SockFilter :=
  condition.segmentsBpf
    [jump .jgt (msb condition.value) 3 0, jump .jeq (msb condition.value) 0 (offset + 2)]
    [jump .jgt (lsb condition.value) 0 offset]

def intoLeBpf : List SockFilter :=
  condition.segmentsBpf
    [jump .jgt (msb condition.value) (offset + 3) 0, jump .jeq (msb condition.value) 0 2]
    [jump .jgt (lsb condition.value) offset 0]

def intoLtBpf : List SockFilter :=
  condition.segmentsBpf
    [jump .jgt (msb condition.value) (offset + 3) 0, jump .jeq (msb condition.value) 0 2]
    [jump .jge (lsb condition.value) offset 0]

def intoMaskedEqBpf (mask : UInt64) : List SockFilter :=
  let maskedValue := condition.value &&& mask
  condition.segmentsBpf [stmt .and (msb mask), jump .jeq (msb maskedValue) 0 (offset + 3)]
    [stmt .and (lsb mask), jump .jeq (lsb maskedValue) 0 offset]

def intoNeBpf : List SockFilter :=
  condition.segmentsBpf [jump .jeq (msb condition.value) 0 2] [jump .jeq (lsb condition.value) offset 0]

/-- The assertion on the length always holds, see `length_intoBpf`. -/
def intoBpf : List SockFilter :=
  match condition.operator with
  | .eq => condition.intoEqBpf offset
  | .ge => condition.intoGeBpf offset
  | .gt => condition.intoGtBpf offset
  | .le => condition.intoLeBpf offset
  | .lt => condition.intoLtBpf offset
  | .maskedEq mask => condition.intoMaskedEqBpf offset mask
  | .ne => condition.intoNeBpf offset

end SeccompCondition

def checkedAdd (left right : UInt8) : Option UInt8 :=
  if left.toNat + right.toNat < 256 then some (left + right) else none

namespace SeccompRule

def helperJumps (offset : UInt8) : List SockFilter :=
  [stmt .ja 2, stmt .ja (offset.toUInt32 + 1), stmt .ja (offset.toUInt32 + 1)]

structure Built where
  accumulator : List (List SockFilter)
  offset : UInt8

variable (built : Built)

def Built.push (instructions : List SockFilter) (offset : UInt8) : Built :=
  ⟨built.accumulator ++ [instructions], offset⟩

def makeRoom : Built :=
  if (checkedAdd built.offset (conditionMaxLen + 1)).isNone then
    built.push (helperJumps built.offset) 1
  else built

def appendCondition (condition : SeccompCondition) : Built :=
  let room := makeRoom built
  let bpf := condition.intoBpf room.offset
  room.push bpf (room.offset + UInt8.ofNat bpf.length)

def ruleJumps (offset : UInt8) : List SockFilter :=
  [stmt .ja 1, stmt .ja (offset.toUInt32 + 1)]

def buildConditions (rule : SeccompRule) : Built :=
  rule.conditions.foldl appendCondition ⟨[[stmt .ret rule.action.toUInt32]], 1⟩

def intoBpf (rule : SeccompRule) : BpfProgram :=
  let built := rule.buildConditions
  (built.push (ruleJumps built.offset) built.offset).accumulator.reverse.flatten

end SeccompRule

def bpfMaxLen : Nat := 4096

def validateArchitecture (targetArch : TargetArch) : List SockFilter :=
  [stmt .ldAbs 4, jump .jeq targetArch.getAuditValue 1 0, stmt .ret retKillProcess]

def examineSyscall : List SockFilter := [stmt .ldAbs seccompDataNrOffset.toUInt32]

namespace SeccompFilter

def validateRules (syscall : Int × List SeccompRule) : Except BackendError Unit :=
  if syscall.2.isEmpty then .error .emptyRulesVector
  else
    match (syscall.2.filter fun rule => rule.conditions.isEmpty).length with
    | 1 => if syscall.2.length > 1 then .error (.conflictingRules syscall.1) else .ok ()
    | 0 => .ok ()
    | _ => .error (.conflictingRules syscall.1)

variable (filter : SeccompFilter)

def validate : Except BackendError Unit :=
  filter.rules.inOrder.forM validateRules

def new (rules : SeccompRuleMap) (defaultAction : SeccompAction) (targetArch : String) :
  Except BackendError SeccompFilter := do
  let arch ← (TargetArch.tryInto targetArch).mapError .arch
  let instance_ : SeccompFilter := ⟨rules, defaultAction, arch⟩
  instance_.validate
  return instance_

variable (defaultAction : UInt32)

def syscallChain (syscall : Int × List SeccompRule) : List SockFilter :=
  jump .jeq (UInt32.ofInt syscall.1) 0 1 ::
    ((syscall.2.map SeccompRule.intoBpf).flatten ++ [stmt .ret defaultAction])

def appendSyscallChain (accumulator : List (List SockFilter))
  (filterLen : Nat) (syscall : Int × List SeccompRule) :
  Except BackendError (List (List SockFilter) × Nat) :=
  let builtSyscall := syscallChain defaultAction syscall
  let filterLen := filterLen + builtSyscall.length
  if filterLen ≥ bpfMaxLen then .error .filterTooLarge
  else .ok (accumulator ++ [builtSyscall], filterLen)

def tryInto : Except BackendError BpfProgram :=
  let result := validateArchitecture filter.targetArch
  let defaultAction := filter.defaultAction.toUInt32
  if filter.rules.entries.isEmpty then .ok (result ++ [stmt .ret defaultAction])
  else do
    let built ← filter.rules.inOrder.foldlM
      (fun state => appendSyscallChain defaultAction state.1 state.2) ([examineSyscall], 1)
    let result := result ++ (built.1 ++ [[stmt .ret defaultAction]]).flatten
    if result.length ≥ bpfMaxLen then .error .filterTooLarge
    else .ok result

end SeccompFilter

inductive CompilerError
  | identicalActions
  | seccompFilter (error : BackendError)
  | syscallName (name : String) (arch : TargetArch)

structure SyscallRule where
  syscall : String
  conditions : Option (List SeccompCondition)

def SyscallRule.validate (rule : SyscallRule) : Except CompilerError Unit :=
  (rule.conditions.getD []).forM fun condition => condition.validate.mapError .seccompFilter

structure Filter where
  defaultAction : SeccompAction
  filterAction : SeccompAction
  filter : List SyscallRule

def Filter.validate (filter : Filter) : Except CompilerError Unit :=
  if filter.defaultAction = filter.filterAction then .error .identicalActions
  else filter.filter.forM SyscallRule.validate

structure Compiler where
  arch : TargetArch
  syscallTable : SyscallTable

namespace Compiler

def new (arch : TargetArch) : Compiler := ⟨arch, SyscallTable.new arch⟩

def validateFilters (filters : Dict String Filter) : Except CompilerError Unit :=
  filters.entries.forM fun entry => entry.2.validate

variable (compiler : Compiler)

def syscallNr (rule : SyscallRule) : Except CompilerError Int :=
  match compiler.syscallTable.getSyscallNr rule.syscall with
  | some number => .ok number
  | none => .error (.syscallName rule.syscall compiler.arch)

variable (action : SeccompAction) (ruleMap : SeccompRuleMap) (rule : SyscallRule)

def pushRule : Except CompilerError SeccompRuleMap := do
  let number ← compiler.syscallNr rule
  return ruleMap.alter number fun old => old.getD [] ++ [⟨rule.conditions.getD [], action⟩]

def makeSeccompFilter (filter : Filter) : Except CompilerError SeccompFilter := do
  let ruleMap ← filter.filter.foldlM (compiler.pushRule filter.filterAction) Dict.empty
  (SeccompFilter.new ruleMap filter.defaultAction compiler.arch.toString).mapError .seccompFilter

def pushBasicRule : Except CompilerError SeccompRuleMap := do
  let number ← compiler.syscallNr rule
  return ruleMap.alter number fun old => old.getD [⟨[], action⟩]

def makeBasicSeccompFilter (filter : Filter) : Except CompilerError SeccompFilter := do
  let ruleMap ← filter.filter.foldlM (compiler.pushBasicRule filter.filterAction) Dict.empty
  (SeccompFilter.new ruleMap filter.defaultAction compiler.arch.toString).mapError .seccompFilter

def compileFilter (isBasic : Bool) (filter : Filter) : Except CompilerError BpfProgram := do
  let seccompFilter ←
    if isBasic then compiler.makeBasicSeccompFilter filter else compiler.makeSeccompFilter filter
  seccompFilter.tryInto.mapError .seccompFilter

/-- The filters are a `HashMap`; the order of its entries is any order. -/
def compileBlob (filters : Dict String Filter) (isBasic : Bool) :
  Except CompilerError (Dict String BpfProgram) := do
  validateFilters filters
  filters.entries.foldlM (fun (bpfMap : Dict String BpfProgram) entry => do
    let program ← compiler.compileFilter isBasic entry.2
    return bpfMap.set entry.1 program) Dict.empty

end Compiler

end Spacer.Seccomp
