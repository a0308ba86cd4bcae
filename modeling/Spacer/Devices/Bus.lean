import Mathlib

/-! The bus routes an address to the device whose range contains it. -/

namespace Spacer.Devices

open List

structure BusRange where
  start : Nat
  len : Nat
  deriving DecidableEq

inductive Error
  | overlap

/-- The map of devices as `iter().rev()` walks it, from the highest start to the lowest. -/
structure Bus (δ : Type) where
  devices : List (BusRange × δ)

namespace Bus

variable {δ : Type} {bus next : Bus δ} {device dev : δ}

def new : Bus δ := ⟨[]⟩

def firstBefore (bus : Bus δ) (addr : Nat) : Option (BusRange × δ) :=
  bus.devices.find? fun entry => entry.1.start ≤ addr

def getDevice (bus : Bus δ) (addr : Nat) : Option (Nat × δ) :=
  match bus.firstBefore addr with
  | some (range, dev) =>
    let offset := addr - range.start
    if offset < range.len then some (offset, dev) else none
  | none => none

/-- Inserts into the map; an equal key keeps its place, with the new device, and is reported. -/
def put (range : BusRange) (device : δ) : List (BusRange × δ) → Bool × List (BusRange × δ)
  | [] => (false, [(range, device)])
  | entry :: rest =>
    if entry.1.start < range.start then (false, (range, device) :: entry :: rest)
    else if entry.1.start = range.start then (true, (entry.1, device) :: rest)
    else ((put range device rest).1, entry :: (put range device rest).2)

/-- `base + len - 1` in 64 bits. -/
def lastOf (base len : Nat) : Nat := (base + len + (2 ^ 64 - 1)) % 2 ^ 64

def insert (bus : Bus δ) (device : δ) (base len : Nat) : Except Error Unit × Bus δ :=
  if len = 0 then (.error .overlap, bus)
  else if (bus.getDevice base).isSome then (.error .overlap, bus)
  else if (bus.firstBefore (lastOf base len)).any fun entry => entry.1.start ≥ base then
    (.error .overlap, bus)
  else
    let stored := put ⟨base, len⟩ device bus.devices
    (if stored.1 then .error .overlap else .ok (), ⟨stored.2⟩)

def Apart (first second : BusRange) : Prop :=
  first.start + first.len ≤ second.start ∨ second.start + second.len ≤ first.start

def Ordered (entries : List (BusRange × δ)) : Prop :=
  entries.Pairwise fun high low => low.1.start + low.1.len ≤ high.1.start

theorem firstBefore_cases (ordered : Ordered bus.devices) (found : bus.firstBefore addr = some entry) :
  entry ∈ bus.devices ∧ entry.1.start ≤ addr ∧ ∀ other ∈ bus.devices,
    addr < other.1.start ∨ other = entry ∨ other.1.start + other.1.len ≤ entry.1.start := by
  obtain ⟨before, high, low, same, above⟩ := find?_eq_some_iff_append.mp found
  rw [Ordered, same, pairwise_append, pairwise_cons] at ordered
  refine ⟨mem_of_find?_eq_some found, of_decide_eq_true before, ?_⟩
  intro other member
  rw [same, mem_append, mem_cons] at member
  rcases member with member | rfl | member
  · exact .inl (by simpa using above other member)
  · exact .inr (.inl rfl)
  · exact .inr (.inr (ordered.2.1.1 other member))

theorem getDevice_iff (ordered : Ordered bus.devices) :
  bus.getDevice addr = some (offset, dev) ↔ ∃ range, (range, dev) ∈ bus.devices ∧
    range.start ≤ addr ∧ addr < range.start + range.len ∧ offset = addr - range.start := by
  unfold getDevice
  cases found : bus.firstBefore addr with
  | none =>
    refine ⟨fun routed => by simp at routed, ?_⟩
    rintro ⟨range, member, after, -⟩
    exact absurd after (by simpa using find?_eq_none.mp found _ member)
  | some entry =>
    obtain ⟨member, after, others⟩ := firstBefore_cases ordered found
    constructor
    · intro routed
      dsimp only at routed
      split at routed
      · cases routed
        exact ⟨entry.1, member, after, by omega, rfl⟩
      · cases routed
    rintro ⟨range, member', after', before, rfl⟩
    rcases others _ member' with above | rfl | below
    · dsimp only at above
      omega
    · exact if_pos (by omega)
    dsimp only at below
    omega

theorem put_spec (ordered : Ordered entries) (nonempty : len ≠ 0)
  (apart : ∀ entry ∈ entries, Apart ⟨base, len⟩ entry.1 ∧ entry.1.len ≠ 0) :
  (put ⟨base, len⟩ device entries).1 = false ∧ Ordered (put ⟨base, len⟩ device entries).2 ∧
    ∀ entry, entry ∈ (put ⟨base, len⟩ device entries).2 ↔
      entry = (⟨base, len⟩, device) ∨ entry ∈ entries := by
  induction entries with
  | nil => exact ⟨rfl, pairwise_singleton _ _, fun entry => mem_cons⟩
  | cons first rest ih =>
    obtain ⟨lower, ordered'⟩ := pairwise_cons.mp ordered
    obtain ⟨away, some⟩ := apart first mem_cons_self
    obtain ⟨fresh, sorted, members⟩ := ih ordered' fun entry member =>
      apart entry (mem_cons_of_mem _ member)
    dsimp only [Apart] at away
    unfold put
    split
    · refine ⟨rfl, pairwise_cons.mpr ⟨?_, ordered⟩, fun entry => mem_cons⟩
      intro entry member
      dsimp only at *
      rcases mem_cons.mp member with rfl | member
      · omega
      have := lower entry member
      omega
    rw [if_neg (by dsimp only; omega)]
    refine ⟨fresh, pairwise_cons.mpr ⟨?_, sorted⟩, ?_⟩
    · intro entry member
      rcases (members entry).mp member with rfl | member
      · dsimp only at *
        omega
      · exact lower entry member
    intro entry
    rw [mem_cons, members, mem_cons, or_left_comm]

structure Sound (bus : Bus δ) : Prop where
  ordered : Ordered bus.devices
  nonempty : ∀ entry ∈ bus.devices, entry.1.len ≠ 0

def Free (bus : Bus δ) (base len : Nat) : Prop :=
  len ≠ 0 ∧ ∀ entry ∈ bus.devices, Apart ⟨base, len⟩ entry.1

theorem free_of_lookups (sound : bus.Sound) (top : base + len ≤ 2 ^ 64) (positive : ¬len = 0)
  (baseFree : bus.getDevice base = none)
  (endFree : ∀ entry, bus.firstBefore (lastOf base len) = some entry → entry.1.start < base) :
  bus.Free base len := by
  have last : lastOf base len = base + len - 1 := by
    unfold lastOf
    omega
  refine ⟨positive, fun entry member => ?_⟩
  have away : ¬(entry.1.start ≤ base ∧ base < entry.1.start + entry.1.len) := by
    rintro ⟨after, before⟩
    have routed := (getDevice_iff sound.ordered).mpr ⟨_, member, after, before, rfl⟩
    rw [baseFree] at routed
    cases routed
  change _ ∨ _
  dsimp only
  cases found : bus.firstBefore (lastOf base len) with
  | none =>
    have above := find?_eq_none.mp found entry member
    simp only [decide_eq_true_iff] at above
    omega
  | some low =>
    have below := endFree low found
    obtain ⟨_, _, others⟩ := firstBefore_cases sound.ordered found
    rcases others entry member with above | rfl | under
    · omega
    · omega
    · omega

theorem insert_spec (sound : bus.Sound) (top : base + len ≤ 2 ^ 64)
  (done : bus.insert device base len = (result, next)) :
  (bus.Free base len ∧ result = .ok () ∧ next.Sound ∧
    ∀ entry, entry ∈ next.devices ↔ entry = (⟨base, len⟩, device) ∨ entry ∈ bus.devices) ∨
    ¬bus.Free base len ∧ result = .error .overlap ∧ next = bus := by
  unfold insert at done
  split at done
  · rename_i none
    cases done
    exact .inr ⟨fun free => free.1 none, rfl, rfl⟩
  split at done
  · rename_i inside
    cases done
    refine .inr ⟨fun free => ?_, rfl, rfl⟩
    obtain ⟨⟨offset, dev⟩, routed⟩ := Option.isSome_iff_exists.mp inside
    obtain ⟨range, member, after, before, _⟩ := (getDevice_iff sound.ordered).mp routed
    have positive := free.1
    have apart : _ ∨ _ := free.2 _ member
    dsimp only at apart
    omega
  split at done
  · rename_i covers
    cases done
    refine .inr ⟨fun free => ?_, rfl, rfl⟩
    cases found : bus.firstBefore (lastOf base len) with
    | none => simp [found] at covers
    | some entry =>
      obtain ⟨member, before, _⟩ := firstBefore_cases sound.ordered found
      have after : base ≤ entry.1.start := by simpa [found] using covers
      have apart : _ ∨ _ := free.2 entry member
      have positive := sound.nonempty entry member
      unfold lastOf at before
      dsimp only at apart
      omega
  rename_i positive outside clear
  have free : bus.Free base len := by
    apply free_of_lookups sound top positive
    · exact Option.not_isSome_iff_eq_none.mp outside
    intro entry found
    simpa [found] using clear
  obtain ⟨fresh, ordered, members⟩ := @put_spec _ device _ _ base sound.ordered free.1
    fun entry member => ⟨free.2 entry member, sound.nonempty entry member⟩
  dsimp only at done
  rw [fresh] at done
  cases done
  refine .inl ⟨free, rfl, ⟨ordered, ?_⟩, members⟩
  intro entry member
  rcases (members entry).mp member with rfl | member
  · exact free.1
  · exact sound.nonempty entry member

def run (bus : Bus δ) (inserts : List (δ × Nat × Nat)) : Bus δ :=
  inserts.foldl (fun bus insert => (bus.insert insert.1 insert.2.1 insert.2.2).2) bus

theorem run_sound (tops : ∀ insert ∈ inserts, insert.2.1 + insert.2.2 ≤ 2 ^ 64)
  (sound : bus.Sound) : (bus.run inserts).Sound := by
  induction inserts generalizing bus with
  | nil => exact sound
  | cons insert inserts ih =>
    have later := fun other member => tops other (mem_cons_of_mem _ member)
    cases done : bus.insert insert.1 insert.2.1 insert.2.2 with
    | mk result next =>
      rw [run, foldl_cons, done]
      rcases insert_spec sound (tops insert mem_cons_self) done with ⟨_, _, kept, _⟩ | ⟨_, _, rfl⟩
      · exact ih later kept
      · exact ih later sound

theorem routing_exact (tops : ∀ insert ∈ inserts, insert.2.1 + insert.2.2 ≤ 2 ^ 64)
  (ran : bus = run new inserts) :
  bus.devices.Pairwise (fun first second => Apart first.1 second.1) ∧
    (∀ device base len result next, base + len ≤ 2 ^ 64 → bus.insert device base len = (result, next) →
      (result = .ok () ↔ len ≠ 0 ∧ ∀ entry ∈ bus.devices, Apart ⟨base, len⟩ entry.1) ∧
      (result = .ok () → ∀ entry,
        entry ∈ next.devices ↔ entry = (⟨base, len⟩, device) ∨ entry ∈ bus.devices) ∧
      (result ≠ .ok () → ∀ addr, next.getDevice addr = bus.getDevice addr)) ∧
    ∀ addr offset dev, bus.getDevice addr = some (offset, dev) ↔
      ∃ range, (range, dev) ∈ bus.devices ∧ range.start ≤ addr ∧
        addr < range.start + range.len ∧ offset = addr - range.start := by
  have sound : bus.Sound := ran ▸ run_sound tops ⟨.nil, fun _ => nofun⟩
  refine ⟨sound.ordered.imp .inr, ?_, fun _ _ _ => getDevice_iff sound.ordered⟩
  intro device base len result next top done
  rcases insert_spec sound top done with ⟨free, rfl, _, members⟩ | ⟨taken, rfl, rfl⟩
  · exact ⟨⟨fun _ => free, fun _ => rfl⟩, fun _ => members, fun failed => absurd rfl failed⟩
  · exact ⟨⟨nofun, fun free => absurd free taken⟩, nofun, fun _ _ => rfl⟩

/-- Of three devices the second does not fit, and the third ends with the address space. -/
theorem routing_exact_top :
  (run new [(0, 0, 16), (1, 8, 16), (2, 2 ^ 64 - 16, 16)]).getDevice (2 ^ 64 - 1) = some (15, 2) :=
  ((routing_exact (by decide) rfl).2.2 _ _ _).mpr ⟨⟨2 ^ 64 - 16, 16⟩, by decide⟩

end Bus

end Spacer.Devices
