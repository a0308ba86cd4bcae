import Spacer.Aligner.Core

/-!
The object files behind the libraries: `copy_all_objs` copies the biggest object file of
each library over the object of every other unikernel.
-/

namespace Spacer.Aligner

open Lib

/-- `fileSize` is what `os.path.getsize` returns when the folder is listed,
`sections` what is read from the file (after the DCE copy, if there is one). -/
structure ObjFile where
  fileSize : Nat
  sections : SectSizes

/-- A build folder: its object files, the libraries whose own directory holds a
`libparam.lds`, and whether there is a directory `libuklibparam/`. -/
structure Folder where
  objects : Dict String ObjFile
  paramLds : List String := []
  paramDir : Bool := false

def Folder.build (name : String) (folder : Folder) : UkBuild :=
  ⟨name, folder.objects.mapValues ObjFile.sections⟩

def Folder.listing (folder : Folder) : Dict String ObjFile :=
  folder.objects.sortBy fun left right => left.1 ++ ".o" ≤ right.1 ++ ".o"

abbrev Folders := Dict String Folder

variable (folders : Folders)

def buildsOf : List UkBuild :=
  folders.entries.map fun entry => entry.2.build entry.1

abbrev ObjsFiles := Dict String (String × Nat)

def takeBiggest (path : String) (size : Nat) : Option (String × Nat) → String × Nat
  | none => (path, size)
  | some (old, oldSize) => if oldSize < size then (path, size) else (old, oldSize)

def mapObject (path : String) (objsFiles : ObjsFiles) (lib : String × ObjFile) : ObjsFiles :=
  objsFiles.alter lib.1 (takeBiggest path lib.2.fileSize)

variable (objsFiles : ObjsFiles)

def mapFolder (entry : String × Folder) : ObjsFiles :=
  entry.2.listing.entries.foldl (mapObject entry.1) objsFiles

def objsFilesOf : ObjsFiles :=
  folders.entries.foldl mapFolder Dict.empty

/-- The branches of `process_build_folder` are exclusive: `vfscore` comes first. -/
def setsUklibparam (name : String) : Bool :=
  !occursIn "vfscore" (name ++ ".o") && !occursIn "libkvmfcplat" (name ++ ".o") &&
    occursIn "libuklibparam" (name ++ ".o")

def useParams : Bool :=
  folders.entries.any fun entry => entry.2.objects.keys.any setsUklibparam

def openFolder (name : String) : Except PyError Folder :=
  match folders.get? name with
  | some folder => .ok folder
  | none => .error .fileNotFoundError

def openObject (folder : Folder) (lib : String) : Except PyError ObjFile :=
  match folder.objects.get? lib with
  | some file => .ok file
  | none => .error .fileNotFoundError

def paramLib : String := "libuklibparam"

def Unikernel.addParam (uk : Unikernel) : Unikernel :=
  { uk with objects := if paramLib ∈ uk.objects then uk.objects else uk.objects ++ [paramLib] }

def copyParamDir (app own : Folder) (uk : Unikernel) : Except PyError (Folder × Unikernel) :=
  if own.paramDir then .ok (own, uk)
  else if app.paramDir then
    .ok ({ own with paramDir := true }, uk.addParam)
  else .error .fileNotFoundError

def copyParamObject (app own : Folder) (uk : Unikernel) : Except PyError (Folder × Unikernel) :=
  if paramLib ∈ own.objects.keys then .ok (own, uk)
  else do
    let file ← openObject app paramLib
    copyParamDir app { own with objects := own.objects.set paramLib file } uk

/-- `create_param_files` for one unikernel: `own` is its folder, `app` the folder
of the library's biggest object. -/
def createParamFiles (libname : String) (app own : Folder) (uk : Unikernel) :
  Except PyError (Folder × Unikernel) :=
  if libname ∈ own.paramLds then .ok (own, uk)
  else if libname ∈ app.paramLds then
    copyParamObject app { own with paramLds := libname :: own.paramLds } uk
  else .error .fileNotFoundError

def biggestOf (lib : String) : Except PyError String :=
  match objsFiles.get? lib with
  | some (path, _) => .ok path
  | none => .error .keyError

def copyParams (state : Folders × Unikernel) (libname : String) : Except PyError (Folders × Unikernel) := do
  let path ← biggestOf objsFiles libname
  let own ← openFolder state.1 state.2.name
  let app ← openFolder state.1 path
  let (own, uk) ← createParamFiles libname app own state.2
  pure (state.1.set uk.name own, uk)

def replaceObject (name path obj : String) : Except PyError Folders := do
  let own ← openFolder folders name
  let source ← openFolder folders path
  let file ← openObject source obj
  let _ ← openObject own obj
  if path = name then pure folders
  else pure (folders.set name { own with objects := own.objects.set obj file })

def copyObject (name : String) (folders : Folders) (obj : String) : Except PyError Folders :=
  match objsFiles.get? obj with
  | some (path, _) => replaceObject folders name path obj
  | none => .ok folders

def copyUnikernel (params : Bool) (folders : Folders) (uk : Unikernel) :
  Except PyError (Folders × Unikernel) := do
  let (folders, uk) ← (if params then ["libvfscore", "libuknetdev"] else []).foldlM (copyParams objsFiles)
      (folders, uk)
  let folders ← uk.objects.foldlM (copyObject objsFiles uk.name) folders
  pure (folders, uk)

def copyAllObjs (objsFiles : ObjsFiles) (params : Bool) :
  Folders → List Unikernel → Except PyError (Folders × List Unikernel)
  | folders, [] => .ok (folders, [])
  | folders, uk :: rest => do
    let (folders, uk) ← copyUnikernel objsFiles params folders uk
    let (folders, rest) ← copyAllObjs objsFiles params folders rest
    pure (folders, uk :: rest)

def UkManager.withUks (manager : UkManager) (uks : List Unikernel) : UkManager :=
  { manager with uks }

/-- `process_folder`, `process_maps`, `copy_all_objs` and `update_link_file`. -/
def alignCopied (flags : Flags) (loc : Nat) (folders : Folders) : Except PyError (UkManager × Folders) := do
  let manager := ({ flags, locCounter := loc : UkManager }.processFolder (buildsOf folders)).processMaps
  let (copied, uks) ← copyAllObjs (objsFilesOf folders) (useParams folders) folders manager.uks
  let manager ← (manager.withUks uks).updateLinkFileSpacer
  pure (manager, copied)

end Spacer.Aligner
