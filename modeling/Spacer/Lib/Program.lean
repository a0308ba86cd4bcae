import Spacer.Lib.Cells

/-!
Programs over a memory that others change: a program stops at every access and goes
on with the answer.  An access fails if it touches an unmapped address, and the program
itself may panic.
-/

namespace Spacer.Lib

inductive Program (α : Type) where
  | pure (value : α)
  | panic
  | read (addr count : Nat) (next : Option (List UInt8) → Program α)
  | write (addr : Nat) (bytes : List UInt8) (next : Bool → Program α)

namespace Program

variable {α β : Type}

def bind : Program α → (α → Program β) → Program β
  | .pure value, rest => rest value
  | .panic, _ => .panic
  | .read addr count next, rest => .read addr count fun answer => (next answer).bind rest
  | .write addr bytes next, rest => .write addr bytes fun answer => (next answer).bind rest

instance : Monad Program where
  pure := Program.pure
  bind := Program.bind

@[simp] theorem pure_bind : ((Pure.pure value : Program α) >>= rest) = rest value := rfl

@[simp] theorem panic_bind (rest : α → Program β) : ((Program.panic : Program α) >>= rest) = .panic := rfl

theorem read_bind : (Program.read addr count next >>= rest) =
    .read addr count fun answer => next answer >>= rest := rfl

theorem write_bind : (Program.write addr bytes next >>= rest) =
    .write addr bytes fun answer => next answer >>= rest := rfl

theorem bind_assoc {γ : Type} (second : β → Program γ) :
  program >>= first >>= second = program >>= fun value => first value >>= second := by
  induction program with
  | pure | panic => rfl
  | read addr count next ih =>
    simp only [read_bind]
    congr 1
    funext answer
    exact ih answer
  | write addr bytes next ih =>
    simp only [write_bind]
    congr 1
    funext answer
    exact ih answer

def readBytes (addr count : Nat) : Program (Option (List UInt8)) :=
  .read addr count .pure

def writeBytes (addr : Nat) (bytes : List UInt8) : Program Bool :=
  .write addr bytes .pure

/-- `Option::unwrap` and `Result::unwrap`. -/
def unwrap : Option α → Program α
  | some value => .pure value
  | none => .panic

def Covered (mapped : Nat → Bool) (addr count : Nat) : Prop :=
  ∀ offset < count, mapped (addr + offset) = true

instance (mapped : Nat → Bool) (addr count : Nat) : Decidable (Covered mapped addr count) :=
  inferInstanceAs (Decidable (∀ offset < count, _))

def Answer (mapped : Nat → Bool) (addr count : Nat) : Option (List UInt8) → Prop
  | some bytes => Covered mapped addr count ∧ bytes.length = count
  | none => ¬Covered mapped addr count

def Returns (mapped : Nat → Bool) : Program α → α → Prop
  | .pure result, value => result = value
  | .panic, _ => False
  | .read addr count next, value =>
    ∃ answer, Answer mapped addr count answer ∧ Returns mapped (next answer) value
  | .write addr bytes next, value =>
    Returns mapped (next (decide (Covered mapped addr bytes.length))) value

def Panics (mapped : Nat → Bool) : Program α → Prop
  | .pure _ => False
  | .panic => True
  | .read addr count next => ∃ answer, Answer mapped addr count answer ∧ Panics mapped (next answer)
  | .write addr bytes next => Panics mapped (next (decide (Covered mapped addr bytes.length)))

@[simp] theorem returns_pure :
  Returns mapped (Pure.pure result : Program α) value ↔ result = value := Iff.rfl

@[simp] theorem panics_pure (value : α) : ¬Panics mapped (Pure.pure value : Program α) := id

@[simp] theorem panics_panic : Panics mapped (Program.panic : Program α) := trivial

theorem returns_bind : Returns mapped (program >>= rest) value ↔
    ∃ middle, Returns mapped program middle ∧ Returns mapped (rest middle) value := by
  induction program with
  | pure result =>
    change Returns mapped (rest result) value ↔ ∃ middle, result = middle ∧ _
    simp
  | panic => simp [Returns]
  | read addr count next ih =>
    simp only [read_bind, Returns, ih]
    constructor
    · rintro ⟨answer, possible, middle, first, second⟩
      exact ⟨middle, ⟨answer, possible, first⟩, second⟩
    rintro ⟨middle, ⟨answer, possible, first⟩, second⟩
    exact ⟨answer, possible, middle, first, second⟩
  | write addr bytes next ih => simp only [write_bind, Returns, ih]

theorem panics_bind : Panics mapped (program >>= rest) ↔ Panics mapped program ∨
      ∃ middle, Returns mapped program middle ∧ Panics mapped (rest middle) := by
  induction program with
  | pure result =>
    change Panics mapped (rest result) ↔ False ∨ ∃ middle, result = middle ∧ _
    simp
  | panic => simp [Panics]
  | read addr count next ih =>
    simp only [read_bind, Panics, Returns, ih]
    constructor
    · rintro ⟨answer, possible, first | ⟨middle, first, second⟩⟩
      · exact .inl ⟨answer, possible, first⟩
      · exact .inr ⟨middle, ⟨answer, possible, first⟩, second⟩
    rintro (⟨answer, possible, first⟩ | ⟨middle, ⟨answer, possible, first⟩, second⟩)
    · exact ⟨answer, possible, .inl first⟩
    · exact ⟨answer, possible, .inr ⟨middle, first, second⟩⟩
  | write addr bytes next ih => simp only [write_bind, Panics, Returns, ih]

@[simp] theorem returns_readBytes :
  Returns mapped (readBytes addr count) answer ↔ Answer mapped addr count answer := by
  simp [readBytes, Returns]

@[simp] theorem panics_readBytes : ¬Panics mapped (readBytes addr count) := by
  rintro ⟨answer, possible, stop⟩
  exact stop

@[simp] theorem returns_writeBytes : Returns mapped (writeBytes addr bytes) done ↔
    decide (Covered mapped addr bytes.length) = done := Iff.rfl

@[simp] theorem panics_writeBytes : ¬Panics mapped (writeBytes addr bytes) := id

@[simp] theorem returns_unwrap : Returns mapped (unwrap answer) value ↔ answer = some value := by
  cases answer with
  | none | some => simp [unwrap, Returns]

@[simp] theorem panics_unwrap : Panics mapped (unwrap answer) ↔ answer = none := by
  cases answer with
  | none => simp [unwrap]
  | some result => simp [unwrap, Panics]

def replay (mapped : Nat → Bool) : Program α → List (List UInt8) → Option α
  | .pure value, _ => some value
  | .panic, _ => none
  | .read addr count next, answers =>
    if Covered mapped addr count then
      if (answers.headD []).length = count then
        replay mapped (next (some (answers.headD []))) answers.tail
      else none
    else replay mapped (next none) answers
  | .write addr bytes next, answers =>
    replay mapped (next (decide (Covered mapped addr bytes.length))) answers

theorem returns_of_replay (ran : replay mapped program answers = some value) :
  Returns mapped program value := by
  induction program generalizing answers with
  | pure result => exact Option.some.inj ran
  | panic => cases ran
  | read addr count next ih =>
    rw [replay] at ran
    split at ran
    · rename_i covered
      split at ran
      · rename_i length
        exact ⟨some (answers.headD []), ⟨covered, length⟩, ih _ ran⟩
      · cases ran
    rename_i uncovered
    exact ⟨none, uncovered, ih _ ran⟩
  | write addr bytes next ih => exact ih _ ran

def access (mapped : Nat → Bool) (memory : Nat → UInt8) : Program α → Program α × (Nat → UInt8)
  | .read addr count next =>
    (next (if Covered mapped addr count then some (load memory addr count) else none), memory)
  | .write addr bytes next =>
    if Covered mapped addr bytes.length then (next true, store memory addr bytes)
    else (next false, memory)
  | .pure value => (.pure value, memory)
  | .panic => (.panic, memory)

end Program

end Spacer.Lib
