import Spacer.Aligner.Template

/-!
`update_link_file_aslr`: link scripts without fixed addresses, one block of output sections
for each library, in order (`aslr = 1`) or shuffled (`aslr = 2`, without `same_mapping`).
-/

namespace Spacer.Aligner

open Lib

inductive Content
  | input (input : InputSection)
  | byte (value : Nat)
  deriving DecidableEq

inductive BlockItem
  | ind (lib : String) (sizeInd : Nat)
  | output (name : String) (aligned : Bool) (contents : List Content)

def inputs (lib : String) (patterns : List String) : List Content :=
  patterns.map fun pattern => .input ⟨lib, pattern⟩

/-- `shuffled` is `aslr = 2`; `same_mapping` is off. -/
structure AslrSettings where
  shuffled : Bool
  rewriteAll : Bool
  usego : Bool

def dataItems (compact bssAligned : Bool) (lib : String) : List BlockItem :=
  if compact then
    [.output (".data.bss." ++ lib) true (inputs lib [".data", ".data.*", ".bss", ".bss.*"])]
  else
    [.output (".data." ++ lib) true (inputs lib [".data", ".data.*"]),
      .output (".bss." ++ lib) bssAligned (inputs lib [".bss", ".bss.*"])]

variable (flags : Flags) (settings : AslrSettings) (sizeInd : Nat)

def appItems (lib : String) : List BlockItem :=
  let text := if flags.dce then [".text", ".text.*"] else [".text"]
  let rodata := if flags.dce then [".rodata", ".rodata.*"] else [".rodata"]
  if settings.rewriteAll then
    [.ind lib sizeInd, .output (".text.rodata." ++ lib) true (inputs lib text),
      .output (".rodata." ++ lib) true (inputs lib rodata)] ++ dataItems flags.compact false lib
  else
    .output (".text.rodata." ++ lib) true (inputs lib text ++ [.byte 0xf1] ++ inputs lib rodata) ::
      dataItems flags.compact true lib

def looseLibs : List String :=
  ["libkvmvirtionet", "libukdebug", "libvfscore", "libuklibparam", "libukargparse",
    "libkvmfcplat", "libnewlibm", "libkvmvirtio", "libnewlibc", "libuktimeconv", "liblwip",
    "libscamper", "libsqlite", "libzlib", "libcxx", "libcxxabi", "libgo", "libcompiler_rt",
    "libbacktrace", "libunwind", "libsyscall_shim", "libucontext", "libffi"]

def plainItems (lib : String) : List BlockItem :=
  let small := lib = "libuklock" ∨ lib = "liblambda"
  (if small then [] else [.ind lib sizeInd]) ++
    if flags.compact then
      if small then
        [.output (".text.rodata." ++ lib) true
          (inputs lib [".text"] ++ [.byte 0xf1] ++ inputs lib [".rodata"])]
      else
        [.output (".text.rodata." ++ lib) true (inputs lib [".text", ".text.*"] ++ [.byte 0xf1] ++
          inputs lib [".rodata", ".rodata.*"])]
    else
      [.output (".text.rodata." ++ lib) true (inputs lib [".text"]),
        .output (".rodata." ++ lib) true (inputs lib [".rodata"])]

def looseItems (lib : String) : List BlockItem :=
  [.ind lib sizeInd, .output (".text.rodata." ++ lib) true (inputs lib [".text", ".text.*"]),
    .output (".rodata." ++ lib) true (inputs lib [".rodata", ".rodata.*"])]

/-- The block of `libcxxabi` holds `libcxx` as well. -/
def cxxItems : List BlockItem :=
  let both := fun patterns => inputs "libcxxabi" patterns ++ inputs "libcxx" patterns
  [.ind "libcxxabi" sizeInd, .output ".text.rodata.libcxxabi" true (both [".text", ".text.*"]),
    .output ".rodata.libcxxabi" true (both [".rodata", ".rodata.*"]),
    .output ".data.bss.libcxxabi" true (both [".data", ".data.*"] ++ both [".bss", ".bss.*"])]

structure Blocks where
  libs : List (List BlockItem)
  mapLibs : Dict String (List BlockItem)

/-- The blocks of the application and of `libcxx` reach only the map. -/
def aggregatedSameSection (ukLib : String) (sizeInd : Nat) (blocks : Blocks) : Blocks :=
  let both := fun w => Blocks.mk (blocks.libs ++ [w]) (blocks.mapLibs.set ukLib w)
  if occursIn "app" ukLib then
    { blocks with mapLibs := blocks.mapLibs.set ukLib (appItems flags settings sizeInd ukLib) }
  else if ukLib ∉ looseLibs then
    both (plainItems flags sizeInd ukLib ++ dataItems flags.compact true ukLib)
  else if ukLib = "libcxxabi" then both (cxxItems sizeInd)
  else if ukLib = "libcxx" then { blocks with mapLibs := blocks.mapLibs.set ukLib [] }
  else both (looseItems sizeInd ukLib ++ dataItems flags.compact true ukLib)

def lwipFreeApps : List String :=
  ["lib-helloworld", "lib-sqlite-perf", "lib-sqlite", "lib-hanoi-perf", "lib-lambda-perf",
    "lib-matrix-perf", "lib-read-perf", "lib-write-perf"]

def excludeAppLwip (compact : Bool) : List String := if compact then lwipFreeApps else []

variable (mapsSizeLibs : Dict String Nat)

def sizeIndOf (ukLib : String) : Nat :=
  match mapsSizeLibs.get? (".text." ++ ukLib) with
  | some size => size
  | none => (mapsSizeLibs.get? (".text.rodata." ++ ukLib)).getD pageSize

def addLib (uk : Unikernel) (blocks : Blocks) (ukLib : String) : Blocks :=
  if occursIn "liblwip" ukLib && (excludeAppLwip flags.compact).contains uk.name then blocks
  else aggregatedSameSection flags settings ukLib (sizeIndOf mapsSizeLibs ukLib) blocks

/-- The variable `app` that is appended last is always the empty string. -/
def ukBlocks (uk : Unikernel) : List (List BlockItem) :=
  (uk.objects.foldl (addLib flags settings mapsSizeLibs uk) ⟨[], Dict.empty⟩).libs ++ [[]]

/-! `process_link64_spacer` with `aslr` not zero. -/

inductive AslrPiece
  | kept (piece : Piece)
  | item (item : BlockItem)

def gccExceptTable : Piece :=
  .listed ".gcc_except_table" [⟨"libcxxabi", ".gcc_except_table.*"⟩, ⟨"libcxx", ".gcc_except_table.*"⟩]

namespace UkManager

variable (manager : UkManager)

def aslrSections (settings : AslrSettings) (uk : Unikernel) : Except PyError (List Piece) := do
  let sections ← manager.sectionPieces uk
  if (manager.locSect.get? ".intrstack").isNone && settings.usego then
    pure (sections ++ [gccExceptTable])
  else pure sections

def aslrPieces (settings : AslrSettings) (common : List AslrPiece)
  (uk : Unikernel) (strSb : String) : Except PyError (List AslrPiece) := do
  let sections ← manager.aslrSections settings uk
  pure ([.kept (.text ".ind.text : \x7b BYTE(1);. += 0x47-1; \x7d\n"), .kept (.text strSb)] ++
    common ++ (uk.link "subset" ++ uk.link "individual").map (.kept ∘ .item) ++
    (sections ++ tailPieces).map .kept)

def processLink64Aslr (settings : AslrSettings) (common : List AslrPiece)
  (lines : List String) (uk : Unikernel) : Except PyError (Option (List AslrPiece)) := do
  let split ← lines.foldlM (manager.splitLineAt true) {}
  let strSb := replaceText (joinLines split.strSb) rodataPattern ""
  emitWith (fun l => (manager.textStart l).map AslrPiece.kept) (.kept ∘ .text)
    (manager.aslrPieces settings common uk strSb) split.filteredLines

end UkManager

/-- `common` is `sb_link["common"]`, which stays from one unikernel to the next; `scripts`
are the texts written so far, where `None` cannot be written. -/
structure AslrRun where
  manager : UkManager
  common : List AslrPiece
  scripts : List (Option (List AslrPiece))

section

variable (settings : AslrSettings) (mapsSizeLibs : Dict String Nat)
  (shuffle : Nat → List (List BlockItem) → List (List BlockItem))
  (lines : String → List String)

/-- `shuffle` gives the outcomes of `random.sample` in turn and `lines` the template in the
folder of a unikernel. -/
def AslrRun.link (run : AslrRun) (uk : Unikernel) : Except PyError AslrRun := do
  let libs := ukBlocks run.manager.flags settings mapsSizeLibs uk
  let libs := if settings.shuffled then shuffle run.scripts.length libs else libs
  let common := .kept (.assign run.manager.locCounter) :: libs.flatten.map AslrPiece.item
  let script ← run.manager.processLink64Aslr settings common (lines uk.name) uk
  pure ⟨run.manager, common, run.scripts ++ [script]⟩

def updateLinkFileAslr (manager : UkManager) : Except PyError AslrRun :=
  let manager := ["_ctors", ".init_array", "_ectors"].foldl
    (fun manager name => manager.reserve name pageSize) manager
  manager.uks.foldlM (AslrRun.link settings mapsSizeLibs shuffle lines) ⟨manager, [], []⟩

/-- `process_folder`, `process_maps`, `update_link_file` with `aslr` one or two. -/
def alignAslr (flags : Flags) (loc : Nat) (builds : List UkBuild) : Except PyError AslrRun :=
  let manager : UkManager := { flags, locCounter := loc }
  updateLinkFileAslr settings mapsSizeLibs shuffle lines (manager.processFolder builds).processMaps

end

end Spacer.Aligner
