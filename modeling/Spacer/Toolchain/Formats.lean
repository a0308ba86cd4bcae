import Spacer.Toolchain.Loadable

/-!
The `_update` and `.sec` files as formats: what the readers make of a written file, and what the
writers make of the sections a reader has found.
-/

namespace Spacer.Toolchain

open Lib Helpers Loader
open List hiding sections

/-! The `_update` file. -/

/-- `extract`'s layout of a parsed section; the name's characters are counted. -/
def layoutRecord (s : Sections) : List UInt8 :=
  littleEndian 2 s.name.length ++ encodeUtf8 s.name ++ littleEndian 8 s.size ++
    littleEndian 8 s.vma ++ s.bytes.getD []

def layoutFile (sections : List Sections) : List UInt8 :=
  littleEndian 1 sections.length ++ (sections.map layoutRecord).flatten

def readRecord (s : Sections) : List UInt8 :=
  littleEndian 2 (encodeUtf8 s.name).length ++ encodeUtf8 s.name ++ littleEndian 8 s.size ++
    littleEndian 8 s.vma ++ s.bytes.getD []

theorem spells_readUkEntry : Spells readUkEntry readRecord fun s => (encodeUtf8 s.name).length < 65536 := by
  intro buffer s rest ran
  obtain ⟨nameLength, afterLength, counted, ran⟩ := ok_of_reader_bind ran
  obtain ⟨name, afterName, named, ran⟩ := ok_of_reader_bind ran
  obtain ⟨size, afterSize, sized, ran⟩ := ok_of_reader_bind ran
  obtain ⟨vma, afterVma, placed, ran⟩ := ok_of_reader_bind ran
  obtain ⟨bytes, afterBytes, taken, finished⟩ := ok_of_reader_bind ran
  cases finished
  obtain ⟨short, rfl⟩ := readWord_ok counted
  obtain ⟨rfl, rfl⟩ := readText_ok named
  obtain ⟨_, rfl⟩ := readWord_ok sized
  obtain ⟨_, rfl⟩ := readWord_ok placed
  obtain ⟨_, rfl⟩ := takeBytes_ok taken
  exact ⟨by omega, by simp [readRecord]⟩

theorem spells_readUkEntries : Spells readUkEntries
    (fun sections => littleEndian 1 sections.length ++ (sections.map readRecord).flatten)
    (fun sections => ∀ s ∈ sections, (encodeUtf8 s.name).length < 65536) := by
  intro buffer sections rest ran
  obtain ⟨nbEntry, middle, counted, many⟩ := ok_of_reader_bind ran
  obtain ⟨_, rfl⟩ := readWord_ok counted
  obtain ⟨⟨rfl, short⟩, rfl⟩ := spells_readMany spells_readUkEntry nbEntry _ _ _ many
  exact ⟨short, by rw [append_assoc]⟩

theorem reads_readRecord (short : (encodeUtf8 s.name).length < 65536) (addr : s.vma < 256 ^ 8)
  (size : s.size < 256 ^ 8) (content : s.bytes = some bytes) (filled : bytes.length = s.size) :
  Reads readUkEntry (readRecord s) s := by
  have name : (encodeUtf8 s.name).length < 256 ^ 2 := by omega
  simp only [readRecord, append_assoc, content, Option.getD_some]
  apply (reads_readWord _ name).bind
  apply (reads_readText _ s.name).bind
  apply (reads_readWord _ size).bind
  apply (reads_readWord _ addr).bind
  have taken := reads_takeBytes BootPanic.sliceIndex bytes
  rw [filled] at taken
  apply taken.last
  rw [← content]
  exact Reads.pure _

theorem length_le_encodeUtf8 (text : String) : text.length ≤ (encodeUtf8 text).length := by
  have chars : ∀ chars : List Char, chars.length ≤ (chars.flatMap String.utf8EncodeChar).length := by
    intro chars
    induction chars with
    | nil => simp
    | cons char rest ih =>
      have filled := char.utf8Size_pos
      rw [flatMap_cons, length_append, length_cons, String.length_utf8EncodeChar]
      omega
  rw [← String.length_toList]
  exact chars text.toList

theorem flatten_eq_iff {α : Type} {left right : α → List UInt8}
  (lengths : ∀ item, (left item).length = (right item).length) (items : List α) :
  (items.map left).flatten = (items.map right).flatten ↔ ∀ item ∈ items, left item = right item := by
  induction items with
  | nil => simp
  | cons item rest ih =>
    simp only [map_cons, flatten_cons, forall_mem_cons, ← ih]
    constructor
    · intro same
      exact append_inj same (lengths item)
    rintro ⟨first, later⟩
    rw [first, later]

theorem layoutRecord_eq_iff (short : (encodeUtf8 s.name).length < 65536) :
  layoutRecord s = readRecord s ↔ Ascii s.name := by
  have characters := length_le_encodeUtf8 s.name
  constructor
  · intro same
    simp only [layoutRecord, readRecord, append_assoc] at same
    have counts := (append_inj same (by simp)).1
    exact (littleEndian_injective (by omega) (by omega) counts).symm
  intro ascii
  rw [layoutRecord, readRecord, ascii]

theorem layoutFile_eq_iff {buffer rest : List UInt8} (ran : readUkEntries buffer = .ok (sections, rest)) :
  buffer = layoutFile sections ++ rest ↔ ∀ s ∈ sections, Ascii s.name := by
  obtain ⟨short, rfl⟩ := spells_readUkEntries _ _ _ ran
  have lengths : ∀ s : Sections, (layoutRecord s).length = (readRecord s).length := by
    intro s
    simp [layoutRecord, readRecord]
  have records : (∀ s ∈ sections, layoutRecord s = readRecord s) ↔ ∀ s ∈ sections, Ascii s.name :=
    forall₂_congr fun s member => layoutRecord_eq_iff (short s member)
  rw [← records, ← flatten_eq_iff lengths, layoutFile, append_cancel_right_eq,
    append_cancel_left_eq]
  exact eq_comm

section

variable {included notCommon : List String}

theorem updateFits_of_few (few : elf.named.length ≤ 255)
  (names : ∀ s ∈ elf.named, s.name.length < 65536) : UpdateFits included notCommon elf := by
  have null : minimizerKeeps included notCommon nullSection = false := by
    simp [minimizerKeeps, nullSection]
  have selected : updateSections included notCommon elf =
      elf.named.filter (minimizerKeeps included notCommon) := by
    rw [updateSections, ElfFile.iterSections, filter_cons_of_neg (by simp [null])]
  constructor
  · have fewer := length_filter_le (minimizerKeeps included notCommon) elf.named
    rw [selected]
    omega
  intro s member
  rw [selected] at member
  exact names s (mem_of_mem_filter member)

theorem processFileAslr_ok (fits : UpdateFits included notCommon elf) :
  ∃ update, processFileAslr included notCommon elf = .ok update := by
  rw [processFileAslr_run, if_pos fits.2, if_pos fits.1]
  split
  · exact ⟨none, rfl⟩
  · exact ⟨_, rfl⟩

/-- The file written for `elf` is read back section by section. -/
def UpdateReadBack (included notCommon : List String) (elf : ElfFile) : Prop :=
  ∃ update, processFileAslr included notCommon elf = .ok update ∧
    (update = none ↔ updateSections included notCommon elf = []) ∧
    ∀ (host : Host) (filename : String) (bytes : List UInt8), update = some bytes →
      host.file filename = some bytes →
      readUkFile host filename = .ok ((updateSections included notCommon elf).map updateEntry)

/-- What is read from `buffer` is written back as the bytes that were consumed. -/
def UpdateWrittenBack (buffer : List UInt8) : Prop :=
  ∀ sections rest, readUkEntries buffer = .ok (sections, rest) → buffer = layoutFile sections ++ rest

theorem updateReadBack (few : elf.named.length ≤ 255)
  (names : ∀ s ∈ elf.named, Ascii s.name ∧ s.name.length < 65536) :
  UpdateReadBack included notCommon elf := by
  have fits : UpdateFits included notCommon elf :=
    updateFits_of_few few fun s member => (names s member).2
  have ascii : ∀ s ∈ updateSections included notCommon elf, Ascii s.name := by
    intro s member
    rcases mem_cons.mp (mem_of_mem_filter member) with rfl | named
    · decide
    · exact (names s named).1
  obtain ⟨update, run⟩ := @processFileAslr_ok included notCommon elf fits
  have content := processFileAslr_eq included notCommon elf run
  refine ⟨update, run, ?_, fun host filename bytes written stored => ?_⟩
  · rw [content]
    split <;> simp [*]
  rw [content] at written
  split at written
  · cases written
  cases written
  have read := reads_updateFile fits ascii []
  rw [append_nil] at read
  simp only [readUkFile, stored]
  rw [bind_of_ok read]
  rfl

end

/-- For an ELF with few enough sections and ASCII names both directions hold exactly when the
names in the buffer are ASCII. -/
theorem update_file_round_trip_iff (included notCommon : List String) (elf : ElfFile)
  (few : elf.named.length ≤ 255)
  (names : ∀ s ∈ elf.named, Ascii s.name ∧ s.name.length < 65536) (buffer : List UInt8) :
  UpdateReadBack included notCommon elf ∧ UpdateWrittenBack buffer ↔
    ∀ sections rest, readUkEntries buffer = .ok (sections, rest) → ∀ s ∈ sections, Ascii s.name := by
  constructor
  · rintro ⟨_, written⟩ sections rest ran
    exact (layoutFile_eq_iff ran).mp (written sections rest ran)
  intro ascii
  refine ⟨updateReadBack few names, fun sections rest ran => ?_⟩
  exact (layoutFile_eq_iff ran).mpr (ascii sections rest ran)

def indSection : Section := byteSection ".ind.libnet" 0x3000 0xe9

def twoSections : ElfFile := ⟨[dataSection, indSection]⟩

def twoSectionsFile : List UInt8 := layoutFile ([dataSection, indSection].map updateEntry)

theorem update_file_round_trip_sections :
  UpdateReadBack minimizerIncluded [] twoSections ∧ UpdateWrittenBack twoSectionsFile := by
  refine (update_file_round_trip_iff minimizerIncluded [] twoSections (by decide) (by decide)
    twoSectionsFile).mpr ?_
  intro sections rest ran
  have selected : updateSections minimizerIncluded [] twoSections = [dataSection, indSection] := by
    decide
  have read := @reads_updateFile [] twoSections minimizerIncluded
    (by unfold UpdateFits; rw [selected]; decide) (by rw [selected]; decide) []
  rw [append_nil, selected] at read
  have same : readUkEntries twoSectionsFile = .ok ([dataSection, indSection].map updateEntry, []) :=
    read
  rw [same] at ran
  cases ran
  decide

def accented : Sections := ⟨"é", 0x2000, 0, some []⟩

/-- The reader counts two bytes for the name, `extract` one character. -/
theorem accented_name_rewritten :
  ∃ buffer, readUkEntries buffer = .ok ([accented], []) ∧ ¬UpdateWrittenBack buffer := by
  have entry : Reads readUkEntry (readRecord accented) accented :=
    reads_readRecord (by decide) (by decide) (by decide) rfl rfl
  have read : Reads readUkEntries (littleEndian 1 1 ++ readRecord accented) [accented] := by
    apply (reads_readWord _ (show 1 < 256 ^ 1 by decide)).bind
    exact entry.last ((Reads.pure []).last (Reads.pure _))
  have ran := read []
  rw [append_nil] at ran
  refine ⟨_, ran, fun written => ?_⟩
  have same := (layoutFile_eq_iff ran).mp (written _ _ ran) accented mem_cons_self
  exact absurd same (by decide)

/-- Every list of selected sections is read back in order, without bytes, and the file is used
up. -/
theorem sec_file_round_trip (excluded notCommon : List String) (elf : ElfFile)
  (few : (dumpSelect excluded notCommon elf).length < 65536)
  (names : ∀ s ∈ dumpSelect excluded notCommon elf, Ascii s.name ∧ s.name.length < 65536) :
  ∃ bytes, dumpSections excluded notCommon elf = .ok bytes ∧
    deserialize bytes = .ok ((dumpSelect excluded notCommon elf).map secEntry, []) ∧
    ∀ (host : Host) (filename : String), host.file filename = some bytes →
      newSectionsLoader host filename = .ok ((dumpSelect excluded notCommon elf).map secEntry) := by
  have fits : SecFits excluded notCommon elf := ⟨few, fun s member => (names s member).2⟩
  obtain ⟨bytes, dumped⟩ := (dumpSections_ok_iff excluded notCommon elf).mpr fits
  have read := reads_secFile fits (fun s member => (names s member).1) []
  rw [append_nil, ← dumpSections_eq excluded notCommon dumped] at read
  refine ⟨bytes, dumped, read, fun host filename stored => ?_⟩
  simp only [newSectionsLoader, stored]
  rw [bind_of_ok read]
  rfl

theorem sec_file_round_trip_text :
  ∃ bytes, dumpSections secExcluded [] ⟨[textSection, dataSection]⟩ = .ok bytes ∧
    deserialize bytes = .ok ([textSection, dataSection].map secEntry, []) := by
  have selected : dumpSelect secExcluded [] ⟨[textSection, dataSection]⟩ =
      [textSection, dataSection] := by decide
  obtain ⟨bytes, dumped, read, _⟩ := sec_file_round_trip secExcluded []
    ⟨[textSection, dataSection]⟩ (by rw [selected]; decide) (by rw [selected]; decide)
  rw [selected] at read
  exact ⟨bytes, dumped, read⟩

end Spacer.Toolchain
