import Spacer.Lib.Lists
import Spacer.Lib.Reader

/-! The file with the state of a microVM, which may be saved over an older file. -/

namespace Spacer.Snapshot

open Lib

inductive StateError
  | crc64 (computed : UInt64)
  | invalidDataVersion (version : UInt16)
  | invalidFormatVersion (version : UInt64)
  | invalidMagic (magicId : UInt64)
  | invalidSnapshotSize
  | io
  | versionize
  deriving DecidableEq

/-- A version map, with what Versionize writes and reads under it. -/
structure VersionMap (σ : Type) where
  latestVersion : UInt16
  serialize : UInt16 → σ → Except StateError (List UInt8)
  deserialize : UInt16 → Reader StateError σ
  reads : ∀ version state bytes, serialize version state = .ok bytes →
    Reads (deserialize version) bytes state

def formatVersion : UInt64 := 1

def baseMagicId : UInt64 := 0x0710198486640000

def buildMagicId (version : UInt64) : UInt64 := baseMagicId ||| version

def getFormatVersion (magicId : UInt64) : Except StateError UInt64 :=
  if magicId &&& ~~~0xFFFF = baseMagicId then .ok (magicId &&& 0xFFFF)
  else .error (.invalidMagic magicId)

variable {σ : Type} (map : VersionMap σ) (crc : List UInt8 → UInt64)

def getDataVersion : Reader StateError UInt16 := fun buffer => do
  let (magicId, buffer) ← readWord .versionize 8 buffer
  let format ← getFormatVersion (.ofNat magicId)
  if format > formatVersion || format = 0 then .error (.invalidFormatVersion format)
  else
    let (version, buffer) ← readWord .versionize 2 buffer
    if .ofNat version > map.latestVersion || .ofNat version = (0 : UInt16) then
      .error (.invalidDataVersion (.ofNat version))
    else .ok (.ofNat version, buffer)

def uncheckedLoad (buffer : List UInt8) : Except StateError σ := do
  let (version, buffer) ← getDataVersion map buffer
  let (object, _) ← map.deserialize version buffer
  return object

def load (file : List UInt8) : Except StateError σ :=
  if file.length < 8 then .error .invalidSnapshotSize
  else
    let snapshot := file.take (file.length - 8)
    if (crc snapshot).toNat ≠ ofLittleEndian (file.drop (file.length - 8)) then
      .error (.crc64 (crc snapshot))
    else uncheckedLoad map snapshot

variable (version : UInt16) (state : σ)

def saveWithoutCrc : Except StateError (List UInt8) := do
  let bytes ← map.serialize version state
  return littleEndian 8 (buildMagicId formatVersion).toNat ++ (littleEndian 2 version.toNat ++ bytes)

def save : Except StateError (List UInt8) := do
  let bytes ← saveWithoutCrc map version state
  return bytes ++ littleEndian 8 (crc bytes).toNat

/-- `io` tells how the open, the writes, the flush and the sync went.  The file is opened for
writing at its start, and not truncated. -/
def snapshotStateToFile (io : Except StateError Unit) (file : List UInt8) :
  Except StateError (List UInt8) := do
  let bytes ← save map crc version state
  io
  return bytes ++ file.drop bytes.length

def snapshotStateFromFile (file : List UInt8) : Except StateError σ := load map crc file

variable {map version state}

/-- What is saved for a state before the checksum. -/
def body (version : UInt16) (bytes : List UInt8) : List UInt8 :=
  littleEndian 8 (buildMagicId formatVersion).toNat ++ (littleEndian 2 version.toNat ++ bytes)

variable (serialized : map.serialize version state = .ok bytes)
include serialized

theorem uncheckedLoad_body : uncheckedLoad map (body version bytes ++ rest) =
    if version > map.latestVersion || version = 0 then .error (.invalidDataVersion version)
    else .ok state := by
  have magic := reads_readWord StateError.versionize
    (by decide +kernel : (buildMagicId formatVersion).toNat < 256 ^ 8)
    (littleEndian 2 version.toNat ++ (bytes ++ rest))
  have fits : version.toNat < 256 ^ 2 := by
    have bound := version.toNat_lt
    omega
  have word := reads_readWord StateError.versionize fits (bytes ++ rest)
  have object := map.reads version state bytes serialized rest
  have format : getFormatVersion (.ofNat (buildMagicId formatVersion).toNat) = .ok 1 := by
    decide +kernel
  unfold uncheckedLoad getDataVersion body
  rw [List.append_assoc, List.append_assoc, bind_of_ok magic]
  dsimp only
  rw [bind_of_ok format, if_neg (by decide), bind_of_ok word]
  simp only [UInt16.ofNat_toNat]
  split
  · rfl
  · exact bind_of_ok object

theorem load_iff (wide : sum.length = 8)
  (tail : List UInt8) : load map crc (body version bytes ++ (sum ++ tail)) = .ok state ↔
    (crc (body version bytes ++ (sum ++ tail).take tail.length)).toNat =
      ofLittleEndian ((sum ++ tail).drop tail.length) ∧
    0 < version ∧ version ≤ map.latestVersion := by
  have length : (body version bytes ++ (sum ++ tail)).length =
      (body version bytes).length + tail.length + 8 := by
    simp only [List.length_append, wide]
    omega
  have valid : (version > map.latestVersion || version = 0) = false ↔
      0 < version ∧ version ≤ map.latestVersion := by
    simp [and_comm, UInt16.pos_iff_ne_zero]
  unfold load
  rw [if_neg (by omega), length, Nat.add_sub_cancel, List.take_length_add_append,
    List.drop_length_add_append]
  dsimp only
  rw [uncheckedLoad_body serialized, ← valid]
  split
  · rename_i differs
    simp [differs]
  rename_i same
  cases version > map.latestVersion || version = 0 <;> simp [not_not.mp same]

theorem snapshotStateToFile_eq (file : List UInt8) : snapshotStateToFile map crc version state (.ok ()) file =
    .ok (body version bytes ++ (littleEndian 8 (crc (body version bytes)).toNat ++
      file.drop (bytes.length + 18))) := by
  have saved : saveWithoutCrc map version state = .ok (body version bytes) := bind_of_ok serialized
  have whole : save map crc version state =
      .ok (body version bytes ++ littleEndian 8 (crc (body version bytes)).toNat) :=
    bind_of_ok saved
  have width : (body version bytes ++ littleEndian 8 (crc (body version bytes)).toNat).length =
      bytes.length + 18 := by
    simp only [body, List.length_append, littleEndian_length]
    omega
  rw [snapshotStateToFile, bind_of_ok whole, bind_of_ok rfl, width, List.append_assoc]
  rfl

omit serialized

/-- A state that was saved is loaded back, whatever the checksum computes, exactly when its data
version is one of the map and the file was not longer than what is saved. -/
theorem state_loads_back_iff (map : VersionMap σ) (version : UInt16) (state : σ) (file : List UInt8) :
  (∀ crc io saved, snapshotStateToFile map crc version state io file = .ok saved →
      snapshotStateFromFile map crc saved = .ok state) ↔
    ∀ bytes, map.serialize version state = .ok bytes →
      (0 < version ∧ version ≤ map.latestVersion) ∧ file.length ≤ bytes.length + 18 := by
  constructor
  · intro loads bytes serialized
    have loaded (crc : List UInt8 → UInt64) :=
      (load_iff crc serialized (littleEndian_length 8) _).mp
        (loads crc (.ok ()) _ (snapshotStateToFile_eq crc serialized file))
    refine ⟨(loaded fun _ => 0).2, ?_⟩
    by_contra long
    -- a checksum that differs between the new bytes alone and those followed by old ones
    let stored := ofLittleEndian ((littleEndian 8 0 ++ file.drop (bytes.length + 18)).drop
      (file.drop (bytes.length + 18)).length)
    have sums := (loaded fun data =>
      if data = body version bytes then 0 else if stored = 0 then 1 else 0).1
    have more : body version bytes ++ (littleEndian 8 0 ++ file.drop (bytes.length + 18)).take
        (file.drop (bytes.length + 18)).length ≠ body version bytes := by
      intro same
      have lengths := congrArg List.length same
      simp only [List.length_append, List.length_take, List.length_drop, littleEndian_length] at lengths
      omega
    simp only [↓reduceIte, UInt64.toNat_zero, if_neg more] at sums
    change _ = stored at sums
    split at sums <;> simp_all
  intro covers crc io saved ran
  obtain ⟨whole, written, finished⟩ := ok_of_bind ran
  obtain ⟨_, done, _⟩ := ok_of_bind finished
  obtain ⟨_, written, _⟩ := ok_of_bind written
  obtain ⟨bytes, serialized, _⟩ := ok_of_bind written
  obtain ⟨valid, short⟩ := covers bytes serialized
  cases done
  rw [snapshotStateToFile_eq crc serialized, List.drop_of_length_le short] at ran
  cases ran
  refine (load_iff crc serialized (littleEndian_length 8) []).mpr ⟨?_, valid⟩
  have fits : (crc (body version bytes)).toNat < 256 ^ 8 := by
    have bound := (crc (body version bytes)).toNat_lt
    omega
  simpa using (ofLittleEndian_littleEndian 8 _ fits).symm

/-- A version map of one version under which a state takes no bytes. -/
def emptyMap : VersionMap Unit where
  latestVersion := 1
  serialize _ _ := .ok []
  deserialize _ := fun buffer => .ok ((), buffer)
  reads := by
    rintro _ _ _ ⟨⟩ rest
    rfl

theorem state_saved_over_longer : ¬∀ crc io saved,
    snapshotStateToFile emptyMap crc 1 () io (List.replicate 20 1) = .ok saved →
      snapshotStateFromFile emptyMap crc saved = .ok () := by
  intro loads
  have loaded := loads (fun _ => 0) (.ok ()) _ rfl
  revert loaded
  decide +kernel

end Spacer.Snapshot
