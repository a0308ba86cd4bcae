import Spacer.Lib.Dict
import Spacer.Lib.Python

/-!
The ASLR binary rewriter (`binary_rewriter_version.py`, `binary_utils.py`): which
instructions of a text section are replaced, by which bytes, and the stub buffer
(`.ind` section) the replacements lead to.
-/

namespace Spacer.Rewriter

open Lib

structure Ins where
  address : Nat
  mnemonic : String
  opStr : String
  bytes : List UInt8
  deriving DecidableEq

def Ins.text (ins : Ins) : String := ins.mnemonic ++ " " ++ ins.opStr

structure Section where
  name : String
  virtualAddress : Nat
  endAddress : Nat

structure Unikernel where
  sections : List Section

variable (uk : Unikernel) (name : String)

/-- `process_file` fills `dict_sections` in the order of the sections. -/
def Unikernel.dictSections : Option Section :=
  uk.sections.reverse.find? fun sect => sect.name = name

structure SectionInd where
  startAddr : Int
  addr : Int
  bt : List UInt8
  deriving DecidableEq

namespace SectionInd

def new (addr : Int) : SectionInd := ⟨addr, addr, []⟩

variable (ind : SectionInd)

def extend (bytes : List UInt8) : SectionInd :=
  { ind with addr := ind.addr + bytes.length, bt := ind.bt ++ bytes }

def addInsBytesRet (op : UInt8) : SectionInd := ind.extend [op]

def addInsBytes (op : UInt8) (addr : Int) (offset : Nat) : Except PyError SectionInd := do
  let diff ← toSignedBytes (-(ind.addr - addr) - offset)
  pure (ind.extend (op :: diff))

def optimizeAddrs : SectionInd :=
  { ind with addr := ind.addr - 1, bt := ind.bt.dropLast }

def optimize (optimizedSuit : Nat) : SectionInd :=
  if 0 < optimizedSuit then ind.optimizeAddrs else ind

/-- The last test of the source, `op == 0xba or 0xbe or 0xbf`, is always true. -/
def addIndBytes (nextAddr currentAddr : Nat) (insBytes : List UInt8)
  (optimizedSuit : Nat) : Except PyError SectionInd :=
  let ind := ind.optimize optimizedSuit
  match insBytes with
  | [] => .error .indexError
  | op :: _ =>
    if op = 0xe8 then ind.addInsBytes 0xe9 nextAddr 5
    else if op = 0x68 then (ind.extend insBytes).addInsBytes 0xe9 currentAddr 0
    else if op = 0xe9 then do
      let ind ← ind.addInsBytes op nextAddr 5
      pure (ind.addInsBytesRet 0xc3)
    else .ok ((ind.extend insBytes).addInsBytesRet 0xc3)

def addIndBytesBiggerJMP (currentAddr : Nat) (insBytes : List UInt8)
  (optimizedSuit : Nat) : Except PyError SectionInd :=
  ((ind.optimize optimizedSuit).extend insBytes).addInsBytes 0xe9 currentAddr 0

def addIndBytesBigger (insBytes : List UInt8) (optimizedSuit : Nat) :
  SectionInd :=
  ((ind.optimize optimizedSuit).extend insBytes).addInsBytesRet 0xc3

end SectionInd

/-- `re.match` of `\s+(?P<op>\+|\-)\s+(?P<addr>0x[A-Fa-f0-9]{2,})`. -/
def signedOperand (text : List Char) : Option Int :=
  let afterBlank := text.dropWhile Char.isWhitespace
  if afterBlank.length = text.length then none
  else
    match afterBlank with
    | sign :: rest =>
      let digits := rest.dropWhile Char.isWhitespace
      if digits.length = rest.length then none
      else if sign = '+' then (hexLiteral 2 digits).map fun found => (ofHex found : Int)
      else if sign = '-' then (hexLiteral 2 digits).map fun found => -(ofHex found : Int)
      else none
    | [] => none

def ripDisplacement : List Char → Option Int
  | [] => none
  | first :: rest =>
    (if "rip".toList.isPrefixOf (first :: rest) then signedOperand (rest.drop 2) else none).orElse
      fun _ => ripDisplacement rest

/-- The relocated instruction of `addIndBytesBiggerRip`; `find` answers -1 when the
displacement is not there, and the slices then count from the end. -/
def relocate (bytes previousOffset offset : List UInt8) : List UInt8 :=
  match findBytes previousOffset bytes with
  | some index => bytes.take index ++ offset ++ bytes.drop (index + previousOffset.length)
  | none => bytes.dropLast ++ offset ++ bytes.drop (previousOffset.length - 1)

def SectionInd.addIndBytesBiggerRip (ind : SectionInd) (ins : Ins) (optimizedSuit : Nat) :
  Except PyError SectionInd := do
  let ind := ind.optimize optimizedSuit
  match ripDisplacement ins.opStr.toList with
  | none => .error .unboundLocalError
  | some displacement =>
    let previousOffset ← toSignedBytes displacement
    let offset ← toSignedBytes ((ins.address : Int) + displacement - ind.addr)
    let barray := relocate ins.bytes previousOffset offset
    -- the address advances by the old length, whatever was emitted
    let ind := { ind with addr := ind.addr + ins.bytes.length, bt := ind.bt ++ barray }
    pure (ind.addInsBytesRet 0xc3)

/-- A text section under rewriting; `dataTarget` counts the uses of a stub and
keeps its address, by instruction text. -/
structure TextSection where
  sect : Section
  sectionInd : SectionInd
  dataTarget : Dict String (Nat × Int)

def hexText (value : Nat) : String :=
  let digits := Nat.toDigits 16 value
  String.ofList (List.replicate (2 - digits.length) '0' ++ digits)

def absoluteLoop (addrInt : Nat) (bstr : String) : List UInt8 → Bool
  | [] => false
  | byte :: rest =>
    let bstr := bstr ++ hexText byte.toNat
    if occursIn (hexText addrInt) bstr then true else absoluteLoop addrInt bstr rest

def useAbsoluteValue (addrInt : Nat) (insBytes : List UInt8) : Bool :=
  match insBytes.reverse with
  | 0 :: rest => absoluteLoop addrInt "" rest
  | bytes => absoluteLoop addrInt "" bytes

def byteAt (bytes : List UInt8) (index : Nat) : Except PyError UInt8 :=
  match bytes[index]? with
  | some byte => .ok byte
  | none => .error .indexError

def checkSpecialCase (ins : Ins) : Except PyError Bool := do
  if (← byteAt ins.bytes 0) ≠ 0x64 then return false
  if (← byteAt ins.bytes 1) ≠ 0x48 then return false
  if (← byteAt ins.bytes 3) ≠ 0x04 then return false
  return (← byteAt ins.bytes 4) = 0x25

def checkAddr (addrInt : Nat) (current : Section) (ins : Ins) : Except PyError Bool :=
  if ins.bytes.length = 5 ∧ ins.bytes.head? = some 0x25 then .ok false
  else if useAbsoluteValue addrInt ins.bytes then .ok true
  else if current.virtualAddress ≤ addrInt ∧ addrInt < current.endAddress then .ok false
  else if uk.sections.any fun sect =>
      sect.virtualAddress ≠ 0 ∧ sect.virtualAddress ≤ addrInt ∧ addrInt ≤ sect.endAddress then
    .ok true
  else if occursIn "rip" ins.opStr then .ok true
  -- the call passes the variable of the loop over the sections
  else if uk.sections.isEmpty then .error .unboundLocalError
  else checkSpecialCase ins

variable (ins : Ins) (sect : Section)

def redirected (usedAddr : List Char) : Except PyError Bool := do
  let addrInt := ofHex (usedAddr.drop 2)
  if !occursIn "rip" ins.opStr ∧ usedAddr.length < 8 then return false
  if addrInt = 0xffffff ∨ 8 < usedAddr.length then
    if ins.bytes.length ≤ 5 then return false
    if !(← checkSpecialCase ins) then return false
  checkAddr uk addrInt sect ins

def extractOffsetRip : Except PyError Int :=
  match ripDisplacement ins.opStr.toList with
  | none => .error .unboundLocalError
  | some displacement => .ok (ins.address + displacement)

/-- The search for the library's own data sections.  The upper bound of the comparison
is `round_to_n(tt_sect.end, PAGE_SIZE)`, and `PAGE_SIZE` is not bound in the module. -/
def checkDataSections (ins : Ins) : Except PyError Unit :=
  [".rodata", ".data.bss"].forM fun tt =>
    match uk.dictSections (replaceText sect.name ".text" tt) with
    | none => .ok ()
    | some ttSect => do
      let offsetRip ← extractOffsetRip ins
      if (ttSect.virtualAddress : Int) ≤ offsetRip then .error .nameError else .ok ()

def Ins.loadsRsp : Bool := [0x48, 0xc7, 0xc4].isPrefixOf ins.bytes

def Ins.storesRip : Bool := [0x48, 0xc7, 0x05].isPrefixOf ins.bytes

variable (s : TextSection)

def addBigger (optimizedSuit : Nat) : Except PyError SectionInd := do
  if occursIn "rip" ins.opStr then
    if !ins.storesRip then checkDataSections uk s.sect ins
    s.sectionInd.addIndBytesBiggerRip ins optimizedSuit
  else if ins.loadsRsp then
    s.sectionInd.addIndBytesBiggerJMP ins.address ins.bytes optimizedSuit
  else pure (s.sectionInd.addIndBytesBigger ins.bytes optimizedSuit)

def target (ins : Ins) (add : Except PyError SectionInd) : Except PyError (TextSection × Int) :=
  match s.dataTarget.get? ins.text with
  | none => do
    let ind ← add
    let addr := s.sectionInd.addr
    pure ({ s with sectionInd := ind, dataTarget := s.dataTarget.set ins.text (1, addr) }, addr)
  | some (uses, addr) =>
    pure ({ s with dataTarget := s.dataTarget.set ins.text (uses + 1, addr) }, addr)

def processInstruction (usedAddr : List Char)
  (optimizedSuit : Nat) : Except PyError (TextSection × Option (List UInt8)) := do
  let addrInt := ofHex (usedAddr.drop 2)
  if !(← redirected uk ins s.sect usedAddr) then return (s, none)
  if ins.bytes.length = 5 then
    let (s, addr) ← target s ins (s.sectionInd.addIndBytes addrInt ins.address ins.bytes optimizedSuit)
    let diff ← toSignedBytes (addr - ins.address - 5)
    return (s, some ((if ins.mnemonic = "push" then 0xe9 else 0xe8) :: diff))
  else if 5 < ins.bytes.length then
    let (s, addr) ← target s ins (addBigger uk ins s optimizedSuit)
    let diff ← toSignedBytes (addr - ins.address - 5 - if 0 < optimizedSuit then 1 else 0)
    return (s, some ((if ins.loadsRsp then 0xe9 else 0xe8) :: diff ++
      List.replicate (ins.bytes.length - 5) 0x90))
  else return (s, none)

def usedAddr : Option (List Char) :=
  (searchHex 4 ins.opStr.toList).map fun digits => '0' :: 'x' :: digits

def isVfscoreLea (bytes : List UInt8) : Bool :=
  occursIn "libvfscore" sect.name && decide (5 < bytes.length) &&
    ([0x48, 0x8d, 0x88].isPrefixOf bytes || [0x48, 0x8d, 0x90].isPrefixOf bytes) &&
    bytes[5]? == some 0xff

def rewriteIns (ins : Ins) : Except PyError (TextSection × List UInt8) :=
  match usedAddr ins with
  | some used =>
    if used.map Char.toLower = "0xffffffff".toList then .ok (s, ins.bytes)
    else do
      let (s, indBytes) ← processInstruction uk ins s used 0
      return (s, indBytes.getD ins.bytes)
  | none =>
    if isVfscoreLea s.sect ins.bytes then
      .ok (s, [0x48, 0x8d, 0x90, 0xd8, 0xff, 0xff, 0xff])
    else .ok (s, ins.bytes)

def visitIns (problematic : Ins → Bool) (s : TextSection) (ins : Ins) :
  Except PyError (TextSection × List UInt8) :=
  if problematic ins then rewriteIns uk s ins else .ok (s, ins.bytes)

def disassembleLoop (uk : Unikernel) (problematic : Ins → Bool) :
  TextSection → List Ins → Except PyError (TextSection × List UInt8 × Option Nat)
  | s, [] => .ok (s, [], none)
  | s, ins :: rest => do
    let (s, out) ← visitIns uk problematic s ins
    if ins.mnemonic = "int1" ∧ ins.bytes.head? = some 0xf1 then
      return (s, out, some ins.address)
    let (s, bt, marker) ← disassembleLoop uk problematic s rest
    return (s, out ++ bt, marker)

def rebaseFirst (name : String) (base : Nat) : List Section → List Section
  | [] => []
  | sect :: rest =>
    if sect.name = name then { sect with virtualAddress := base } :: rest
    else sect :: rebaseFirst name base rest

def Unikernel.rebase (base : Nat) : Unikernel :=
  ⟨(rebaseFirst name base uk.sections.reverse).reverse⟩

/-- `decode` stands for Capstone's `md.disasm`.  The head of `.text` is skipped, and
the section, which later sections still look at, moves. -/
def disassemble (decode : List UInt8 → Nat → List Ins) (uk : Unikernel) (s : TextSection)
  (content : List UInt8) (diffAddr : List Nat) :
  Except PyError (Unikernel × TextSection × List UInt8) := do
  let diffAddr := diffAddr.map (· + s.sect.virtualAddress)
  let skipped := if s.sect.name = ".text" then 0x9000 else 0
  let base := s.sect.virtualAddress + skipped
  let s := { s with sect := { s.sect with virtualAddress := base } }
  let uk := if s.sect.name = ".text" then uk.rebase s.sect.name base else uk
  let problematic := fun ins : Ins =>
    (List.range ins.bytes.length).any fun offset => (ins.address + offset) ∈ diffAddr
  let (s, bt, marker) ← disassembleLoop uk problematic s (decode (content.drop skipped) base)
  let bt := content.take skipped ++ bt
  match marker with
  -- an address of zero counts as no marker
  | some (address + 1) => return (uk, s, bt ++ content.drop (address + 1 - base + 1))
  | _ => return (uk, s, bt)

end Spacer.Rewriter
