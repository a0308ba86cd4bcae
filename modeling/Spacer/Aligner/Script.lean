import Spacer.Aligner.Core
import Spacer.Lib.Text

/-!
`process_link64_spacer`: the platform's linker script as a template around the
library part.  The output is kept as a list of statements, so that the input
sections each of them takes can be read off.
-/

namespace Spacer.Aligner

open Lib

/-- `text` is copied or fixed text, `assign` the statement `. = 0x...;`, `listed`
an output section with inputs by object name and `wildcard` one with inputs
`*(pattern)`. -/
inductive Piece
  | text (content : String)
  | assign (addr : Nat)
  | item (item : ScriptItem)
  | listed (name : String) (inputs : List InputSection)
  | wildcard (name : String) (patterns : List String)

def addressLine (addr : Nat) : String := String.ofList (" . = 0x".toList ++ hexChars addr ++ [';'])

def pySpace (char : Char) : Bool := char ∈ [' ', '\t', '\n', '\r', '\x0b', '\x0c']

def strip (text : List Char) : List Char :=
  ((text.dropWhile pySpace).reverse.dropWhile pySpace).reverse

/-- `l.split("=")[0].strip()`. -/
def markerName (l : String) : String := String.ofList (strip (l.toList.takeWhile (· ≠ '=')))

def isMarker (l : String) : Bool := occursIn "_ctors = .;" l || occursIn "_ectors = .;" l

/-- The state of the first loop; `strSb` and `filteredLines` hold lines, each
ended by a line break when it is written. -/
structure Split where
  done : Bool := false
  strSb : List String := []
  filteredLines : List String := []

namespace UkManager

variable (manager : UkManager)

def markLine (name : String) (split : Split) : Except PyError Split := do
  let loc ← manager.lookupLoc name
  pure { split with strSb := split.strSb ++ [addressLine loc] }

variable (split : Split) (l : String)

def splitMarks : Except PyError Split :=
  if occursIn "_data = .;" l then
    .ok { split with
      filteredLines := split.filteredLines ++ [" . = ALIGN((1 << 12));\n"]
      done := false }
  else if isMarker l then manager.markLine (markerName l) split
  -- the name found in the line by `re.findall` is that of the section
  else if l = " .init_array : \x7b" then manager.markLine ".init_array" split
  else .ok split

def keepLine : Split :=
  if split.done then { split with strSb := split.strSb ++ [l] }
  else { split with filteredLines := split.filteredLines ++ [l] }

def splitLine : Except PyError Split :=
  if occursIn "_etext = .;" l then .ok { split with done := true }
  else do
    let split ← manager.splitMarks split l
    pure (keepLine split l)

end UkManager

def rodataBlock : List String :=
  [" _rodata = .;", " .rodata :", " \x7b", "  *(.rodata)", "  *(.rodata.*)", " \x7d", " _erodata = .;"]

/-- The regular expression has no wildcard: it is the block, literally. -/
def rodataPattern : String := String.intercalate "\n" rodataBlock

def wildcardOf (sect : SectName) : String := "*(" ++ sect.label ++ ")"

def closesSection (l : String) : Bool :=
  occursIn "*(.text)" l || occursIn "*(.rodata)" l || occursIn "*(.data)" l || occursIn "*(.bss)" l

namespace UkManager

variable (manager : UkManager)

def textStart (l : String) : List Piece :=
  [.text "\n_rodata = .;\n"] ++
    (if manager.flags.snapshot then [.text "_data = .;\n__bss_start  = .;\n"] else []) ++
    [.text (l ++ "\n")]

variable (uk : Unikernel)

def rodataPieces : Except PyError (List Piece) := do
  let loc ← manager.lookupLoc ".rodata"
  let rodata := Piece.listed ".rodata" (manager.sbRodata.keys.map fun lib => ⟨lib, ".rodata"⟩)
  let app := Piece.listed ".rodata.app"
    (uk.sbRodata.keys.flatMap fun lib => [⟨lib, ".rodata"⟩, ⟨lib, ".rodata.*"⟩])
  pure ([.assign loc, rodata] ++ if 0 < uk.sbRodata.keys.length then [app] else [])

/-- In compact mode the read-only data is part of the libraries' own sections. -/
def looseRodata : Except PyError (List Piece) :=
  if manager.flags.compact then .ok [] else manager.rodataPieces uk

def dataPiece : Piece := .wildcard ".data" [".data", ".data.*"]

def bssPiece : Piece := .wildcard ".bss" [".bss", ".bss.*", "COMMON"]

def addressedSections (data bss intrstack : Nat) : List Piece :=
  [.assign data, .text "_etext = .;\n_erodata = .;\n_data = .;\n", dataPiece, .assign bss,
    .text "_edata = .;\n__bss_start  = .;\n", bssPiece, .assign intrstack]

def windowPieces (intrstack : Nat) : Except PyError (List Piece) := do
  let rodata ← manager.looseRodata uk
  let data ← manager.lookupLoc ".data"
  let bss ← manager.lookupLoc ".bss"
  pure (rodata ++ addressedSections data bss intrstack)

def sectionPieces : Except PyError (List Piece) :=
  match manager.locSect.get? ".intrstack" with
  | some intrstack =>
    if manager.flags.snapshot then
      .ok [.assign intrstack, .text "_etext = .;\n_erodata = .;\n_edata = .;\n"]
    else manager.windowPieces uk intrstack
  | none =>
    .ok [.text ". = ALIGN((1 << 12));\n_etext = .;\n_erodata = .;\n_data = .;\n", dataPiece,
      .text "_edata = .;\n. = ALIGN((1 << 12));\n__bss_start  = .;\n", bssPiece]

def tailPieces : List Piece :=
  [.wildcard ".intrstack" [".intrstack"], .text "_end = .;\n"] ++
  ([".comment", ".debug", ".line", ".debug_srcinfo", ".debug_sfnames", ".debug_aranges",
      ".debug_pubnames"].map fun name => Piece.wildcard name [name]) ++
  [.wildcard ".debug_info" [".debug_info", ".gnu.linkonce.wi.*"],
    .wildcard ".debug_abbrev" [".debug_abbrev"],
    .wildcard ".debug_line" [".debug_line", ".debug_line.*", ".debug_line_end"]] ++
  ([".debug_frame", ".debug_str", ".debug_loc", ".debug_macinfo", ".debug_weaknames",
      ".debug_funcnames", ".debug_typenames", ".debug_varnames", ".debug_pubtypes",
      ".debug_ranges", ".debug_macro", ".gnu.attributes"].map fun name =>
        Piece.wildcard name [name]) ++
  [.wildcard "/DISCARD/" [".note.gnu.build-id"]]

def libraryPieces (strSb : String) : Except PyError (List Piece) := do
  let sections ← manager.sectionPieces uk
  pure ([.text strSb] ++ (manager.libraryItems uk).map Piece.item ++ sections ++ tailPieces)

/-- The second loop.  It returns from the line of the `.text.*` wildcard; a
template without one gives `None`. -/
def emitLines (manager : UkManager) (uk : Unikernel) (strSb : String) :
  List String → Except PyError (Option (List Piece))
  | [] => .ok none
  | l :: rest =>
    if closesSection l then do
      let pieces ← manager.emitLines uk strSb rest
      pure (pieces.map ([.text "\x7d\n"] ++ ·))
    else if occursIn " .text :" l then do
      let pieces ← manager.emitLines uk strSb rest
      pure (pieces.map (manager.textStart l ++ ·))
    else if occursIn "*(COMMON)" l then manager.emitLines uk strSb rest
    else if occursIn "*(.text.*)" l then do
      let pieces ← manager.libraryPieces uk strSb
      pure (some pieces)
    else do
      let pieces ← manager.emitLines uk strSb rest
      pure (pieces.map ([.text (l ++ "\n")] ++ ·))

def processLink64Spacer (lines : List String) (uk : Unikernel) : Except PyError (Option (List Piece)) := do
  let split ← lines.foldlM manager.splitLine {}
  manager.emitLines uk (replaceText (joinLines split.strSb) rodataPattern "") split.filteredLines

end UkManager

def Piece.places (lib : String) (sect : SectName) : Piece → Bool
  | text content => occursIn (wildcardOf sect) content
  | assign _ => false
  | item (.output _ _ inputs) => inputs.any fun input => input = ⟨lib, sect.label⟩
  | item (.grouped inputs) => inputs.any fun input => input = ⟨lib, sect.label⟩
  | item _ => false
  | listed _ inputs => inputs.any fun input => input = ⟨lib, sect.label⟩
  | wildcard _ patterns => patterns.contains sect.label

end Spacer.Aligner
