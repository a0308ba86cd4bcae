import Mathlib.Data.List.Forall2
import Spacer.Lib.Bytes

/-!
Readers over a byte buffer.  `Reads` says that a reader consumes exactly the given bytes,
`Spells` that what it accepts is the encoding of what it returns.
-/

namespace Spacer.Lib

def decodeUtf8 (bytes : List UInt8) : Option String :=
  bytes.toByteArray.utf8Decode?.map fun chars => String.ofList chars.toList

theorem decodeUtf8_encodeUtf8 : decodeUtf8 (encodeUtf8 text) = some text := by
  have decoded : (encodeUtf8 text).toByteArray.utf8Decode? = some text.toList.toArray :=
    List.utf8Decode?_utf8Encode
  simp [decodeUtf8, decoded]

theorem encodeUtf8_of_decodeUtf8 (decoded : decodeUtf8 bytes = some text) : encodeUtf8 text = bytes := by
  obtain ⟨chars, found, rfl⟩ := Option.map_eq_some_iff.mp decoded
  have present : bytes.toByteArray.utf8Decode?.isSome = true := by simp [found]
  have encoded := @ByteArray.utf8Encode_get_utf8Decode? bytes.toByteArray present
  simp only [found, Option.get_some, List.utf8Encode] at encoded
  simpa [encodeUtf8] using List.toByteArray_inj.mp encoded

abbrev Reader (ε α : Type) := StateT (List UInt8) (Except ε) α

variable {ε α β : Type} (short : ε)

def takeBytes (count : Nat) : Reader ε (List UInt8) := fun buffer =>
  if buffer.length < count then .error short else .ok (buffer.take count, buffer.drop count)

def readWord (width : Nat) : Reader ε Nat := do
  let bytes ← takeBytes short width
  return ofLittleEndian bytes

def readText (invalid : ε) (count : Nat) : Reader ε String := do
  let bytes ← takeBytes short count
  match decodeUtf8 bytes with
  | some text => return text
  | none => throw invalid

def readMany (reader : Reader ε α) : Nat → Reader ε (List α)
  | 0 => return []
  | count + 1 => do
    let first ← reader
    let later ← readMany reader count
    return first :: later

def Reads (reader : Reader ε α) (bytes : List UInt8) (value : α) : Prop :=
  ∀ rest, reader (bytes ++ rest) = .ok (value, rest)

theorem Reads.pure (value : α) : Reads (Pure.pure value : Reader ε α) [] value :=
  fun _ => rfl

variable {next : α → Reader ε β}

theorem Reads.bind (reads : Reads reader first value) (continues : Reads (next value) second result) :
  Reads (reader >>= next) (first ++ second) result := by
  intro rest
  change (reader (first ++ second ++ rest) >>= fun step => next step.1 step.2) = _
  rw [List.append_assoc, reads]
  exact continues rest

theorem Reads.last (reads : Reads reader bytes value) (finishes : Reads (next value) [] result) :
  Reads (reader >>= next) bytes result := by
  have whole := reads.bind finishes
  rwa [List.append_nil] at whole

theorem reads_takeBytes (bytes : List UInt8) : Reads (takeBytes short bytes.length) bytes bytes := by
  intro rest
  simp [takeBytes]

theorem reads_readWord (fits : value < 256 ^ width) :
  Reads (readWord short width) (littleEndian width value) value := by
  have taken := reads_takeBytes short (littleEndian width value)
  rw [littleEndian_length] at taken
  have read : Reads (readWord short width) (littleEndian width value)
      (ofLittleEndian (littleEndian width value)) := taken.last (Reads.pure _)
  rwa [ofLittleEndian_littleEndian width value fits] at read

theorem reads_readText (text : String) :
  Reads (readText short invalid (encodeUtf8 text).length) (encodeUtf8 text) text := by
  apply (reads_takeBytes short (encodeUtf8 text)).last
  simp only [decodeUtf8_encodeUtf8]
  exact Reads.pure text

theorem reads_readMany (items : List β) (each : ∀ item ∈ items, Reads reader (encode item) (decode item)) :
  Reads (readMany reader items.length) (items.map encode).flatten (items.map decode) := by
  induction items with
  | nil => exact Reads.pure []
  | cons first rest ih =>
    have later := ih fun item member => each item (List.mem_cons_of_mem _ member)
    exact (each first (by simp)).bind (later.last (Reads.pure _))

def Spells (reader : Reader ε α) (encode : α → List UInt8) (valid : α → Prop) : Prop :=
  ∀ buffer value rest, reader buffer = .ok (value, rest) → valid value ∧ buffer = encode value ++ rest

theorem ok_of_reader_bind (ran : (reader >>= next) buffer = .ok (result, rest)) :
  ∃ value middle, reader buffer = .ok (value, middle) ∧ next value middle = .ok (result, rest) := by
  change (reader buffer >>= fun step => next step.1 step.2) = _ at ran
  cases read : reader buffer with
  | error cause =>
    rw [read] at ran
    cases ran
  | ok step =>
    rw [read] at ran
    exact ⟨step.1, step.2, rfl, ran⟩

variable {short}

theorem takeBytes_ok (ran : takeBytes short count buffer = .ok (bytes, rest)) :
  bytes.length = count ∧ buffer = bytes ++ rest := by
  unfold takeBytes at ran
  split at ran
  · cases ran
  rename_i enough
  cases ran
  exact ⟨by rw [List.length_take]; omega, (List.take_append_drop count buffer).symm⟩

theorem readWord_ok (ran : readWord short width buffer = .ok (value, rest)) :
  value < 256 ^ width ∧ buffer = littleEndian width value ++ rest := by
  obtain ⟨bytes, middle, taken, finished⟩ := ok_of_reader_bind ran
  cases finished
  obtain ⟨rfl, rfl⟩ := takeBytes_ok taken
  exact ⟨ofLittleEndian_lt bytes, by rw [littleEndian_ofLittleEndian]⟩

theorem readText_ok (ran : readText short invalid count buffer = .ok (text, rest)) :
  (encodeUtf8 text).length = count ∧ buffer = encodeUtf8 text ++ rest := by
  obtain ⟨bytes, middle, taken, finished⟩ := ok_of_reader_bind ran
  obtain ⟨counted, rfl⟩ := takeBytes_ok taken
  cases decoded : decodeUtf8 bytes with
  | none =>
    rw [decoded] at finished
    cases finished
  | some found =>
    rw [decoded] at finished
    cases finished
    rw [encodeUtf8_of_decodeUtf8 decoded]
    exact ⟨counted, rfl⟩

theorem spells_readMany (spells : Spells reader encode valid) (count : Nat) :
  Spells (readMany reader count) (fun values => (values.map encode).flatten)
    (fun values => values.length = count ∧ ∀ value ∈ values, valid value) := by
  intro buffer values rest ran
  induction count generalizing buffer values with
  | zero =>
    cases ran
    exact ⟨⟨rfl, fun value member => absurd member List.not_mem_nil⟩, rfl⟩
  | succ count ih =>
    obtain ⟨first, middle, read, ran⟩ := ok_of_reader_bind ran
    obtain ⟨later, last, more, finished⟩ := ok_of_reader_bind ran
    cases finished
    obtain ⟨⟨counted, each⟩, tail⟩ := ih _ _ more
    obtain ⟨own, head⟩ := spells _ _ _ read
    exact ⟨⟨by rw [List.length_cons, counted], List.forall_mem_cons.mpr ⟨own, each⟩⟩,
      by simp [head, tail]⟩

end Spacer.Lib
