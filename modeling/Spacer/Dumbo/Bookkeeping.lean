import Spacer.Dumbo.Delivery
import Spacer.Dumbo.Handler

/-!
The indexes of the TCP handler: which connections can send at once, and which of those that wait
for a timeout is the next.
-/

namespace Spacer.Dumbo.TcpIPv4Handler

open Lib List

abbrev Connections := Dict ConnectionTuple Endpoint

variable (connections : Connections)

def statusOf (tuple : ConnectionTuple) : Option NextSegmentStatus :=
  (connections.get? tuple).map Endpoint.nextSegmentStatus

variable (pair : UInt64 × ConnectionTuple)

def Waits : Prop :=
  statusOf connections pair.2 = some (.timeout pair.1)

structure Bookkept (handler : TcpIPv4Handler) : Prop where
  activeKeys : ∀ tuple, handler.activeConnections.contains tuple = true →
    handler.connections.contains tuple = true
  timeoutKey : ∀ value tuple, handler.nextTimeout = some (value, tuple) →
    handler.connections.contains tuple = true
  fewConnections : handler.connections.size ≤ handler.maxConnections
  fewResets : handler.rstQueue.length ≤ handler.maxPendingResets
  available : ∀ tuple endpoint, handler.connections.get? tuple = some endpoint →
    endpoint.nextSegmentStatus = .available → handler.activeConnections.contains tuple = true
  earliest : Least (fun pair => ∃ endpoint, handler.connections.get? pair.2 = some endpoint ∧
    endpoint.nextSegmentStatus = .timeout pair.1) handler.nextTimeout

section

variable {handler : TcpIPv4Handler}

theorem waits_iff : Waits connections pair ↔ ∃ endpoint, connections.get? pair.2 = some endpoint ∧
    endpoint.nextSegmentStatus = .timeout pair.1 := by
  simp [Waits, statusOf]

theorem findNextTimeout_least (handler : TcpIPv4Handler) (order : List ConnectionTuple) :
  Least (Waits handler.connections) (handler.findNextTimeout order).nextTimeout := by
  refine (findLeast_least waiting (handler.connections.walk order)).congr fun pair => ?_
  rw [waits_iff]
  constructor
  · rintro ⟨endpoint, found, status⟩
    refine ⟨(pair.2, endpoint), (Dict.walk_get? _ _ _ _).mpr found, ?_⟩
    rw [waiting, status]
  rintro ⟨⟨other, endpoint⟩, member, waits⟩
  unfold waiting at waits
  split at waits
  · rename_i value status
    cases waits
    exact ⟨endpoint, (Dict.walk_get? _ _ _ _).mp member, status⟩
  · cases waits

theorem refreshTimeout_least {before : Connections} (order : List ConnectionTuple)
  (least : Least (Waits before) handler.nextTimeout)
  (same : ∀ other, other ≠ tuple → statusOf handler.connections other = statusOf before other) :
  ∃ candidate, Least candidate (handler.refreshTimeout tuple order).nextTimeout ∧
    (∀ pair, candidate pair → Waits handler.connections pair) ∧
    ∀ pair, pair.2 ≠ tuple → Waits handler.connections pair → candidate pair := by
  have search := findNextTimeout_least handler order
  have others (away : ∀ pair, handler.nextTimeout = some pair → pair.2 ≠ tuple) :
      Least (fun pair => pair.2 ≠ tuple ∧ Waits handler.connections pair) handler.nextTimeout := by
    refine least.of_subset ?_ ?_
    · rintro pair ⟨other, waits⟩
      rwa [Waits, same pair.2 other] at waits
    intro pair found
    have other := away pair found
    rw [found] at least
    refine ⟨other, ?_⟩
    rw [Waits, same pair.2 other]
    exact least.1
  unfold refreshTimeout
  split
  · rename_i value owner found
    split
    · exact ⟨_, search, fun _ => id, fun _ _ => id⟩
    rename_i other
    refine ⟨_, others ?_, fun _ both => both.2, fun _ away waits => ⟨away, waits⟩⟩
    intro pair owned
    rw [found] at owned
    cases owned
    exact fun equal => other equal.symm
  rename_i none
  refine ⟨_, others ?_, fun _ both => both.2, fun _ away waits => ⟨away, waits⟩⟩
  intro pair owned
  rw [none] at owned
  cases owned

@[simp] theorem refreshTimeout_connections :
  (handler.refreshTimeout tuple order).connections = handler.connections := by
  unfold refreshTimeout
  split
  · split <;> rfl
  · rfl

@[simp] theorem refreshTimeout_activeConnections :
  (handler.refreshTimeout tuple order).activeConnections = handler.activeConnections := by
  unfold refreshTimeout
  split
  · split <;> rfl
  · rfl

end

section

variable {handler : TcpIPv4Handler} {before : Connections} {tuple : ConnectionTuple}
  {status : NextSegmentStatus}

theorem contains_eq : connections.contains tuple = (statusOf connections tuple).isSome := by
  simp [Dict.contains, statusOf]

@[simp] theorem statusOf_set : statusOf (connections.set tuple endpoint) other =
    if other = tuple then some endpoint.nextSegmentStatus else statusOf connections other := by
  unfold statusOf
  rw [Dict.get?_set]
  split <;> rfl

@[simp] theorem statusOf_erase : statusOf (connections.erase tuple) other =
    if other = tuple then none else statusOf connections other := by
  unfold statusOf
  rw [Dict.get?_erase]
  split <;> rfl

variable {connections}

structure Indexed (connections : Connections) (active : Dict ConnectionTuple Unit)
  (timeout : Option (UInt64 × ConnectionTuple)) : Prop where
  keys : ∀ tuple, active.contains tuple = true → connections.contains tuple = true
  available : ∀ tuple, statusOf connections tuple = some .available → active.contains tuple = true
  earliest : Least (Waits connections) timeout

def Fits (handler : TcpIPv4Handler) : Prop :=
  Indexed handler.connections handler.activeConnections handler.nextTimeout

theorem Indexed.of_status (indexed : Indexed before active timeout)
  (same : ∀ other, statusOf connections other = statusOf before other) :
  Indexed connections active timeout := by
  refine ⟨?_, ?_, indexed.earliest.congr fun pair => by rw [Waits, Waits, same]⟩
  · intro other member
    rw [contains_eq, same, ← contains_eq]
    exact indexed.keys other member
  intro other available
  exact indexed.available other ((same other).symm.trans available)

theorem checkNextSegmentStatus_least {after : Connections}
  (least : Least candidate (handler.refreshTimeout tuple order).nextTimeout)
  (inside : ∀ pair, candidate pair → Waits after pair)
  (covers : ∀ pair, pair.2 ≠ tuple → Waits after pair → candidate pair)
  (now : statusOf after tuple = some status) :
  Least (Waits after) (handler.checkNextSegmentStatus tuple status order).1.nextTimeout := by
  have here {pair : UInt64 × ConnectionTuple} (waits : Waits after pair) (at_ : pair.2 = tuple) :
      status = .timeout pair.1 := by
    rw [Waits, at_, now] at waits
    exact Option.some.inj waits
  have quiet (other : ∀ value, status ≠ .timeout value) :
      Least (Waits after) (handler.refreshTimeout tuple order).nextTimeout := by
    refine least.congr fun pair => ⟨fun waits => covers pair ?_ waits, inside pair⟩
    exact fun at_ => other pair.1 (here waits at_)
  cases status with
  | available | nothing => exact quiet fun value equal => by cases equal
  | timeout value =>
    refine (least.keep (value, tuple)).congr fun pair => ?_
    constructor
    · intro waits
      by_cases at_ : pair.2 = tuple
      · cases here waits at_
        exact .inr (Prod.ext rfl at_)
      · exact .inl (covers pair at_ waits)
    rintro (old | rfl)
    · exact inside pair old
    · exact now

@[simp] theorem checkNextSegmentStatus_connections :
  (handler.checkNextSegmentStatus tuple status order).1.connections = handler.connections := by
  cases status <;> simp [checkNextSegmentStatus, checkTimeout]

variable (active : Dict ConnectionTuple Unit)

theorem contains_set :
  (active.set tuple ()).contains other = (decide (other = tuple) || active.contains other) := by
  unfold Dict.contains
  rw [Dict.get?_set]
  split <;> simp_all

theorem contains_erase :
  (active.erase tuple).contains other = (decide (other ≠ tuple) && active.contains other) := by
  unfold Dict.contains
  rw [Dict.get?_erase]
  split <;> simp_all

theorem checkNextSegmentStatus_active :
  (handler.checkNextSegmentStatus tuple status order).1.activeConnections.contains other =
    (decide (other = tuple ∧ status = .available) || handler.activeConnections.contains other) := by
  cases status <;> simp [checkNextSegmentStatus, checkTimeout, contains_set]

theorem updateStatus_eq : (handler.updateStatus tuple status order).connections = handler.connections ∧
    (handler.updateStatus tuple status order).nextTimeout =
      (handler.checkNextSegmentStatus tuple status order).1.nextTimeout ∧
    ∀ other, (handler.updateStatus tuple status order).activeConnections.contains other =
      if other = tuple then decide (status = .available)
      else handler.activeConnections.contains other := by
  cases status with
  | available =>
    refine ⟨by simp [updateStatus, checkNextSegmentStatus], rfl, fun other => ?_⟩
    by_cases at_ : other = tuple
    · simp [updateStatus, checkNextSegmentStatus, contains_set]
    · simp [updateStatus, checkNextSegmentStatus, contains_set]
  | nothing =>
    refine ⟨by simp [updateStatus, checkNextSegmentStatus], rfl, fun other => ?_⟩
    by_cases at_ : other = tuple
    · simp [updateStatus, checkNextSegmentStatus, contains_erase]
    · simp [updateStatus, checkNextSegmentStatus, contains_erase]
  | timeout value =>
    refine ⟨by simp [updateStatus, checkNextSegmentStatus, checkTimeout], rfl, fun other => ?_⟩
    by_cases at_ : other = tuple
    · simp [updateStatus, checkNextSegmentStatus, contains_erase, at_]
    · simp [updateStatus, checkNextSegmentStatus, checkTimeout, contains_erase]

theorem addConnection_fits {endpoint : Endpoint} (fits : Fits handler)
  (fresh : statusOf handler.connections tuple = none) :
  Fits (handler.addConnection tuple endpoint order) := by
  obtain ⟨candidate, least, inside, covers⟩ :=
    @refreshTimeout_least handler tuple _ order fits.earliest fun _ _ => rfl
  have away {pair : UInt64 × ConnectionTuple} (waits : Waits handler.connections pair) :
      pair.2 ≠ tuple := by
    intro at_
    rw [Waits, at_, fresh] at waits
    cases waits
  have elsewhere {pair : UInt64 × ConnectionTuple} (other : pair.2 ≠ tuple) :
      Waits (handler.connections.set tuple endpoint) pair ↔ Waits handler.connections pair := by
    rw [Waits, Waits, statusOf_set, if_neg other]
  unfold Fits addConnection
  dsimp only
  rw [checkNextSegmentStatus_connections]
  refine ⟨?_, ?_, ?_⟩
  · intro other member
    rw [contains_eq, statusOf_set]
    split
    · rfl
    rename_i away
    simp only [checkNextSegmentStatus_active, away] at member
    rw [← contains_eq]
    exact fits.keys other member
  · intro other available
    rw [statusOf_set] at available
    rw [checkNextSegmentStatus_active, Bool.or_eq_true]
    split at available
    · rename_i at_
      exact .inl (decide_eq_true ⟨at_, Option.some.inj available⟩)
    · exact .inr (fits.available other available)
  refine checkNextSegmentStatus_least least ?_ ?_ (by simp)
  · intro pair isCandidate
    have waits := inside pair isCandidate
    exact (elsewhere (away waits)).mpr waits
  intro pair other waits
  exact covers pair other ((elsewhere other).mp waits)

variable (indexed : Indexed before handler.activeConnections handler.nextTimeout)
  (same : ∀ other, other ≠ tuple → statusOf handler.connections other = statusOf before other)
include indexed same

theorem updateStatus_fits (now : statusOf handler.connections tuple = some status) :
  Fits (handler.updateStatus tuple status order) := by
  obtain ⟨candidate, least, inside, covers⟩ :=
    refreshTimeout_least order indexed.earliest same
  obtain ⟨connections, timeout, active⟩ := @updateStatus_eq handler tuple status order
  refine ⟨?_, ?_, ?_⟩
  · intro other member
    rw [active] at member
    rw [connections, contains_eq]
    split at member
    · rename_i at_
      rw [at_, now, Option.isSome_some]
    rename_i away
    rw [same other away, ← contains_eq]
    exact indexed.keys other member
  · intro other available
    rw [connections] at available
    rw [active]
    split
    · rename_i at_
      rw [at_, now] at available
      exact decide_eq_true (Option.some.inj available)
    rename_i away
    exact indexed.available other ((same other away).symm.trans available)
  rw [connections, timeout]
  exact checkNextSegmentStatus_least least inside covers now

theorem removeConnection_fits :
  Fits (handler.removeConnection tuple order) := by
  have same' (other : ConnectionTuple) (away : other ≠ tuple) :
      statusOf (handler.connections.erase tuple) other = statusOf before other := by
    rw [statusOf_erase, if_neg away, same other away]
  obtain ⟨candidate, least, inside, covers⟩ := @refreshTimeout_least { handler with
    activeConnections := handler.activeConnections.erase tuple
    connections := handler.connections.erase tuple } tuple before order indexed.earliest same'
  unfold Fits removeConnection
  rw [refreshTimeout_connections, refreshTimeout_activeConnections]
  refine ⟨?_, ?_, least.congr fun pair => ⟨fun waits => covers pair ?_ waits, inside pair⟩⟩
  · intro other member
    rw [contains_erase, Bool.and_eq_true, decide_eq_true_iff] at member
    rw [contains_eq, same' other member.1, ← contains_eq]
    exact indexed.keys other member.2
  · intro other available
    rw [statusOf_erase] at available
    split at available
    · cases available
    rename_i away
    rw [contains_erase, Bool.and_eq_true, decide_eq_true_iff]
    exact ⟨away, indexed.available other ((same other away).symm.trans available)⟩
  intro at_
  rw [Waits, at_, statusOf_erase, if_pos rfl] at waits
  cases waits

omit indexed same

end

section

variable {endpoint next : Endpoint} {segment : TcpSegment}

def Healthy (endpoint : Endpoint) : Prop :=
  ∃ first stream sent, Endpoint.Sound first stream sent endpoint

variable (healthy : Healthy endpoint)
include healthy

theorem Healthy.roomy : mssMin ≤ endpoint.connection.mss := by
  obtain ⟨first, stream, sent, sound⟩ := healthy
  cases sound with
  | opens opening => exact opening.roomy
  | serves serves => exact serves.serving.roomy
  | closes closing => exact closing.roomy

theorem Healthy.receive (received : endpoint.receiveSegment segment respond now = .ok (next, response)) :
  Healthy next := by
  obtain ⟨first, stream, sent, sound⟩ := healthy
  exact ⟨first, _, sent, sound.receiveSegment received⟩

theorem Healthy.write (bufLen : Nat) (mssReserved : UInt16) (now : UInt64) :
  ∃ next sends, endpoint.writeNextSegment bufLen mssReserved now = .ok (next, sends) ∧ Healthy next := by
  obtain ⟨first, stream, sent, sound⟩ := healthy
  obtain ⟨next, sends, wrote, kept, -⟩ :=
    @Endpoint.Sound.writeNextSegment _ _ _ _ bufLen mssReserved now sound
  exact ⟨next, sends, wrote, first, stream, _, kept⟩

omit healthy

theorem silent_status (roomy : mssMin ≤ endpoint.connection.mss) (large : 24 ≤ bufLen)
  (wrote : endpoint.writeNextSegment bufLen 0 now = .ok (next, none)) :
  next.nextSegmentStatus = endpoint.nextSegmentStatus := by
  obtain ⟨src, left, -⟩ := ok_of_bind wrote
  have silent := @Connection.writeNextSegment_silent endpoint.connection bufLen large roomy src now
  rw [Endpoint.writeNextSegment_eq left] at wrote
  obtain ⟨same, nothing⟩ := Prod.mk.inj (Except.ok.inj wrote)
  obtain ⟨rtoCount, counted⟩ := silent nothing
  rw [← same, counted]
  rfl

end

section

variable {connections : Connections} {bufLen : Nat}

structure Wrote (connections : Connections) (wrote : Written) : Prop where
  healthy : wrote.connections.Each fun _ endpoint => Healthy endpoint
  size : wrote.connections.size = connections.size
  writer : ∀ tuple endpoint segment, wrote.writer = some (tuple, endpoint, segment) →
    statusOf wrote.connections tuple = some endpoint.nextSegmentStatus
  others : ∀ other, (∀ endpoint segment, wrote.writer ≠ some (other, endpoint, segment)) →
    statusOf wrote.connections other = statusOf connections other

theorem writeFirst_wrote (large : 24 ≤ bufLen)
  (healthy : connections.Each fun _ endpoint => Healthy endpoint) {tuples : List ConnectionTuple}
  (known : ∀ tuple ∈ tuples, connections.contains tuple = true) (index : Nat) :
  ∃ wrote, writeFirst connections bufLen clock index tuples = .ok wrote ∧ Wrote connections wrote := by
  induction tuples generalizing connections index with
  | nil =>
    refine ⟨_, rfl, healthy, rfl, ?_, fun _ _ => rfl⟩
    intro tuple endpoint segment writer
    cases writer
  | cons tuple tuples ih =>
    have first := known tuple mem_cons_self
    obtain ⟨endpoint, found⟩ := Option.isSome_iff_exists.mp first
    have well := healthy tuple endpoint found
    obtain ⟨next, sends, wrote, kept⟩ := well.write bufLen 0 (clock index)
    have size := Dict.size_set_of_get? found next
    rw [writeFirst, found]
    dsimp only
    rw [bind_of_ok wrote]
    cases sends with
    | some segment =>
      refine ⟨_, rfl, healthy.set kept, size, ?_, ?_⟩
      · intro other writer data same
        cases same
        simp
      intro other away
      have elsewhere : other ≠ tuple := by
        rintro rfl
        exact away next segment rfl
      simp [elsewhere]
    | none =>
      have still := silent_status well.roomy large wrote
      have same (other : ConnectionTuple) :
          statusOf (connections.set tuple next) other = statusOf connections other := by
        rw [statusOf_set]
        split
        · rename_i at_
          rw [at_, still, statusOf, found, Option.map_some]
        · rfl
      have remain (other : ConnectionTuple) (member : other ∈ tuples) :
          (connections.set tuple next).contains other = true := by
        rw [contains_eq, same, ← contains_eq]
        exact known other (mem_cons_of_mem _ member)
      obtain ⟨final, done, rest⟩ := ih (healthy.set kept) remain (index + 1)
      refine ⟨final, done, rest.healthy, rest.size.trans size, rest.writer, ?_⟩
      intro other away
      rw [rest.others other away, same]

end

section

variable {handler next : TcpIPv4Handler} {tuple : ConnectionTuple} {endpoint : Endpoint}
  {segment : TcpSegment}

structure Kept (handler : TcpIPv4Handler) : Prop where
  fits : Fits handler
  few : handler.connections.size ≤ handler.maxConnections
  resets : handler.rstQueue.length ≤ handler.maxPendingResets
  healthy : handler.connections.Each fun _ endpoint => Healthy endpoint

variable (handler) (tuple)

theorem refreshTimeout_frame (order : List ConnectionTuple) :
  ∃ nextTimeout, handler.refreshTimeout tuple order = { handler with nextTimeout } := by
  unfold refreshTimeout
  split
  · split
    · exact ⟨_, rfl⟩
    · exact ⟨_, rfl⟩
  · exact ⟨_, rfl⟩

theorem checkNextSegmentStatus_frame (status : NextSegmentStatus) (order : List ConnectionTuple) :
  ∃ activeConnections nextTimeout, (handler.checkNextSegmentStatus tuple status order).1 =
    { handler with activeConnections, nextTimeout } := by
  obtain ⟨nextTimeout, refreshed⟩ := refreshTimeout_frame handler tuple order
  unfold checkNextSegmentStatus
  rw [refreshed]
  cases status with
  | available | nothing | timeout => exact ⟨_, _, rfl⟩

theorem updateStatus_frame (status : NextSegmentStatus) (order : List ConnectionTuple) :
  ∃ activeConnections nextTimeout, handler.updateStatus tuple status order =
    { handler with activeConnections, nextTimeout } := by
  obtain ⟨activeConnections, nextTimeout, checked⟩ :=
    checkNextSegmentStatus_frame handler tuple status order
  unfold updateStatus
  dsimp only
  rw [checked]
  split <;> exact ⟨_, _, rfl⟩

theorem removeConnection_frame (order : List ConnectionTuple) :
  ∃ activeConnections nextTimeout, handler.removeConnection tuple order = { handler with
    connections := handler.connections.erase tuple, activeConnections, nextTimeout } := by
  obtain ⟨nextTimeout, refreshed⟩ := refreshTimeout_frame { handler with
    activeConnections := handler.activeConnections.erase tuple
    connections := handler.connections.erase tuple } tuple order
  exact ⟨_, nextTimeout, refreshed⟩

theorem enqueueRstConfig_frame (config : RstConfig) :
  ∃ rstQueue, handler.enqueueRstConfig tuple config = { handler with rstQueue } := by
  unfold enqueueRstConfig
  split <;> exact ⟨_, rfl⟩

variable {handler} {tuple}

theorem newWithDefaults_healthy
  (opened : Endpoint.newWithDefaults segment isn now = .ok (.ok endpoint)) : Healthy endpoint :=
  ⟨_, _, _, Endpoint.new_sound opened⟩

theorem new_kept (localIpv4Addr : UInt32) (localPort : UInt16) (maxConnections maxPendingResets : Nat) :
  Kept (new localIpv4Addr localPort maxConnections maxPendingResets) := by
  refine ⟨⟨?_, ?_, ?_⟩, Nat.zero_le _, Nat.zero_le _, ?_⟩
  · intro tuple member
    cases member
  · intro tuple available
    cases available
  · intro pair waits
    cases waits
  intro tuple endpoint found
  cases found

variable {connections : Connections} (kept : Kept handler)
  (same : ∀ other, other ≠ tuple → statusOf connections other = statusOf handler.connections other)
  (size : connections.size = handler.connections.size)
  (healthy : connections.Each fun _ endpoint => Healthy endpoint)
include kept same size healthy

theorem Kept.updateStatus (now : statusOf connections tuple = some status) :
  Kept (({ handler with connections } : TcpIPv4Handler).updateStatus tuple status order) := by
  have fits := @updateStatus_fits { handler with connections } handler.connections tuple status
    kept.fits same order now
  obtain ⟨activeConnections, nextTimeout, framed⟩ :=
    updateStatus_frame { handler with connections } tuple status order
  rw [framed] at fits ⊢
  exact ⟨fits, size ▸ kept.few, kept.resets, healthy⟩

theorem Kept.removeConnection (found : connections.get? tuple = some endpoint) :
  Kept (({ handler with connections } : TcpIPv4Handler).removeConnection tuple order) ∧
    (({ handler with connections } : TcpIPv4Handler).removeConnection tuple
      order).connections.size < handler.maxConnections := by
  have fits := @removeConnection_fits { handler with connections } handler.connections tuple
    kept.fits same order
  obtain ⟨activeConnections, nextTimeout, framed⟩ :=
    removeConnection_frame { handler with connections } tuple order
  rw [framed] at fits ⊢
  have less : (connections.erase tuple).size < handler.maxConnections := by
    have smaller := Dict.size_erase_lt found
    have few := kept.few
    omega
  exact ⟨⟨fits, Nat.le_of_lt less, kept.resets, healthy.erase tuple⟩, less⟩

omit same size healthy

theorem Kept.addConnection (fresh : handler.connections.get? tuple = none)
  (room : handler.connections.size < handler.maxConnections) (healthy : Healthy endpoint) :
  Kept (handler.addConnection tuple endpoint order) := by
  have fits := @addConnection_fits handler tuple order endpoint kept.fits
    (by rw [statusOf, fresh, Option.map_none])
  obtain ⟨activeConnections, nextTimeout, checked⟩ :=
    checkNextSegmentStatus_frame handler tuple endpoint.nextSegmentStatus order
  unfold TcpIPv4Handler.addConnection at fits ⊢
  rw [checked] at fits ⊢
  exact ⟨fits, Nat.le_trans (Dict.size_set_le _) room, kept.resets, kept.healthy.set healthy⟩

theorem Kept.enqueueRstConfig (config : RstConfig) :
  Kept (handler.enqueueRstConfig tuple config) := by
  unfold TcpIPv4Handler.enqueueRstConfig
  split
  · rename_i room
    exact ⟨kept.fits, kept.few, room, kept.healthy⟩
  · exact kept

theorem Kept.receiveKnown (found : handler.connections.get? tuple = some endpoint)
  (done : handler.receiveKnown tuple endpoint segment respond ambient = .ok (next, event)) : Kept next := by
  obtain ⟨⟨later, response⟩, received, done⟩ := ok_of_bind done
  have healthy : (handler.connections.set tuple later).Each fun _ endpoint => Healthy endpoint :=
    kept.healthy.set ((kept.healthy tuple endpoint found).receive received)
  have size := Dict.size_set_of_get? found later
  have same (other : ConnectionTuple) (away : other ≠ tuple) :
      statusOf (handler.connections.set tuple later) other = statusOf handler.connections other := by
    rw [statusOf_set, if_neg away]
  dsimp only at done
  split at done
  · cases done
    exact (kept.removeConnection same size healthy (by rw [Dict.get?_set, if_pos rfl])).1
  cases done
  exact kept.updateStatus same size healthy (by rw [statusOf_set, if_pos rfl])

theorem Kept.receiveSyn (fresh : handler.connections.get? tuple = none)
  (done : handler.receiveSyn tuple segment ambient = .ok (next, event)) : Kept next := by
  obtain ⟨result, opened, done⟩ := ok_of_bind done
  cases result with
  | error error =>
    cases done
    exact kept
  | ok endpoint =>
    have healthy := newWithDefaults_healthy opened
    dsimp only at done
    split at done
    · split at done
      · rename_i evictTuple evicted evictable
        cases done
        have found := (Dict.walk_get? _ _ _ _).mp (mem_of_find?_eq_some evictable)
        have queued := @Kept.enqueueRstConfig handler evictTuple kept evicted.connection.makeRstConfig
        obtain ⟨rstQueue, framed⟩ := enqueueRstConfig_frame handler evictTuple
          evicted.connection.makeRstConfig
        rw [framed] at queued ⊢
        obtain ⟨removed, less⟩ := @Kept.removeConnection { handler with rstQueue } evictTuple
          evicted handler.connections queued (fun _ _ => rfl) rfl kept.healthy ambient.removeOrder found
        have gone := removeConnection_frame { handler with rstQueue } evictTuple ambient.removeOrder
        refine removed.addConnection ?_ ?_ healthy
        · obtain ⟨activeConnections, nextTimeout, gone⟩ := gone
          rw [gone, Dict.get?_erase]
          split
          · rfl
          · exact fresh
        obtain ⟨activeConnections, nextTimeout, gone⟩ := gone
        rw [gone] at less ⊢
        exact less
      cases done
      exact kept.enqueueRstConfig _
    rename_i room
    cases done
    exact kept.addConnection fresh (Nat.lt_of_not_le room) healthy

theorem Kept.receivePacket (done : handler.receivePacket packet respond ambient = .ok (next, result)) : Kept next := by
  unfold TcpIPv4Handler.receivePacket at done
  split at done
  · cases done
    exact kept
  split at done
  · cases done
    exact kept
  dsimp only at done
  split at done
  · rename_i endpoint found
    obtain ⟨⟨later, event⟩, received, done⟩ := ok_of_bind done
    cases done
    exact kept.receiveKnown found received
  rename_i fresh
  split at done
  · obtain ⟨⟨later, event⟩, received, done⟩ := ok_of_bind done
    cases done
    exact kept.receiveSyn fresh received
  split at done
  · cases done
    exact kept
  cases done
  exact kept.enqueueRstConfig _

theorem Kept.writers (order : List ConnectionTuple) :
  ∀ tuple ∈ handler.writers order, handler.connections.contains tuple = true := by
  intro tuple member
  rcases mem_append.mp member with active | next
  · obtain ⟨⟨other, _⟩, walked, rfl⟩ := mem_map.mp active
    refine kept.fits.keys other ?_
    rw [Dict.contains, (Dict.walk_get? _ _ _ _).mp walked]
    rfl
  obtain ⟨⟨value, owner⟩, found, rfl⟩ : ∃ pair, handler.nextTimeout = some pair ∧
      pair.2 = tuple := by simpa using next
  have earliest := kept.fits.earliest
  rw [found] at earliest
  rw [contains_eq, earliest.1]
  rfl

theorem Kept.writeNextPacket (large : 64 ≤ bufLen) (ambient : WriteAmbient) :
  ∃ next result, handler.writeNextPacket bufLen ambient = .ok (next, result) ∧ Kept next := by
  unfold TcpIPv4Handler.writeNextPacket
  rw [if_neg (by omega)]
  split
  · rename_i tuple config queue queued
    have popped : Kept { handler with rstQueue := queue } := by
      have resets := kept.resets
      rw [queued, length_cons] at resets
      exact ⟨kept.fits, kept.few, by dsimp only; omega, kept.healthy⟩
    dsimp only
    split <;> exact ⟨_, _, rfl, popped⟩
  obtain ⟨wrote, first, outcome⟩ := @writeFirst_wrote handler.connections (bufLen - 20)
    ambient.clock (by omega) kept.healthy _ (kept.writers ambient.activeOrder) 0
  rw [bind_of_ok first]
  split
  · rename_i nobody
    have same (other : ConnectionTuple) :
        statusOf wrote.connections other = statusOf handler.connections other := by
      refine outcome.others other ?_
      intro endpoint segment writer
      rw [nobody] at writer
      cases writer
    exact ⟨_, _, rfl, kept.fits.of_status same, outcome.size ▸ kept.few, kept.resets, outcome.healthy⟩
  rename_i tuple endpoint segment writer
  have same (other : ConnectionTuple) (away : other ≠ tuple) :
      statusOf wrote.connections other = statusOf handler.connections other := by
    refine outcome.others other ?_
    intro another data elsewhere
    rw [writer] at elsewhere
    cases elsewhere
    exact away rfl
  have now := outcome.writer tuple endpoint segment writer
  split
  · obtain ⟨stored, found, -⟩ := Option.map_eq_some_iff.mp now
    exact ⟨_, _, rfl, (kept.removeConnection same outcome.size outcome.healthy found).1⟩
  · exact ⟨_, _, rfl, kept.updateStatus same outcome.size outcome.healthy now⟩

def Event.large : Event → Prop
  | .receive _ _ _ => True
  | .write bufLen _ => 64 ≤ bufLen

theorem Kept.step (large : event.large) (done : handler.step event = .ok next) :
  Kept next := by
  cases event with
  | receive packet respond ambient =>
    obtain ⟨⟨later, result⟩, received, done⟩ := ok_of_bind done
    cases done
    exact kept.receivePacket received
  | write bufLen ambient =>
    obtain ⟨later, result, wrote, still⟩ := kept.writeNextPacket large ambient
    rw [TcpIPv4Handler.step, bind_of_ok wrote] at done
    cases done
    exact still

theorem Kept.run (large : ∀ event ∈ events, event.large)
  (done : handler.run events = .ok next) : Kept next := by
  induction events generalizing handler with
  | nil =>
    cases done
    exact kept
  | cons event events ih =>
    obtain ⟨later, stepped, rest⟩ := ok_of_bind done
    exact ih (kept.step (large event mem_cons_self) stepped)
      (fun other member => large other (mem_cons_of_mem _ member)) rest

theorem Kept.bookkept : Bookkept handler := by
  have earliest := kept.fits.earliest
  refine ⟨kept.fits.keys, ?_, kept.few, kept.resets, ?_, ?_⟩
  · intro value tuple owned
    rw [owned] at earliest
    rw [contains_eq, earliest.1]
    rfl
  · intro tuple endpoint found available
    refine kept.fits.available tuple ?_
    rw [statusOf, found, Option.map_some, available]
  · exact earliest.congr fun pair => (waits_iff handler.connections pair).symm

omit kept

theorem bookkeeping {localIpv4Addr : UInt32} {localPort : UInt16}
  {maxConnections maxPendingResets : Nat} {events : List Event}
  (large : ∀ event ∈ events, event.large)
  (reached : (new localIpv4Addr localPort maxConnections maxPendingResets).run events = .ok handler) :
  Bookkept handler ∧ ∀ bufLen ambient, 64 ≤ bufLen →
    ∃ next result, handler.writeNextPacket bufLen ambient = .ok (next, result) := by
  have kept := (new_kept localIpv4Addr localPort maxConnections maxPendingResets).run large reached
  refine ⟨kept.bookkept, ?_⟩
  intro bufLen ambient enough
  obtain ⟨next, result, wrote, -⟩ := kept.writeNextPacket enough ambient
  exact ⟨next, result, wrote⟩

def welcomes : List Event :=
  [.receive ⟨0xA9FEA9FE, [4, 1, 0, 80, 0, 0, 3, 232, 0, 0, 0, 0, 0x50, 2, 39, 16, 0, 0, 0, 0]⟩
      (fun _ => Endpoint.greeting) ⟨0, 0, [], fun _ => 0, [], []⟩,
    .write 64 ⟨[], fun _ => 1, [], []⟩]

theorem bookkeeping_welcome : ((new 0xA9FEA9FE 80 30 100).run welcomes).map nextTimeout =
      .ok (some (1200000001, ⟨0xA9FEA9FE, 1025⟩)) ∧
    ∀ handler, (new 0xA9FEA9FE 80 30 100).run welcomes = .ok handler → Bookkept handler := by
  refine ⟨rfl, fun handler reached => (bookkeeping ?_ reached).1⟩
  intro event member
  simp only [welcomes, mem_cons, not_mem_nil, or_false] at member
  rcases member with rfl | rfl
  · trivial
  · exact Nat.le_refl 64

end

end Spacer.Dumbo.TcpIPv4Handler
