import Spacer.Vsock.Muxer
import Spacer.Vsock.Steps

/-! The kill queue of the muxer against the connections whose timer is armed. -/

namespace Spacer.Vsock

open Lib Virtio

variable {conn other : VsockConnection}

namespace VsockConnection

/-- What a connection of the pool looks like: a timer runs only while an answer or the end of a
shutdown is awaited, and a killed connection has its reset pending. -/
structure Clocked (key : ConnMapKey) (conn : VsockConnection) : Prop where
  ports : (conn.localPort, conn.peerPort) = (key.localPort, key.peerPort)
  answers : conn.AnswersGuest
  request : conn.pendingRx.contains .request = true →
    (conn.state = .localInit ∨ conn.state = .killed) ∧ conn.expiry = none
  armed : conn.expiry ≠ none → conn.state = .killed ∨ conn.state = .localInit ∨
    conn.state = .localClosed ∨ conn.state = .peerClosed true true
  killed : conn.state = .killed → conn.pendingRx.contains .rst = true

theorem newPeerInit_clocked (stream : Stream) (localCid peerCid : UInt64) (key : ConnMapKey)
  (peerBufAlloc : UInt32) :
  (newPeerInit stream localCid peerCid key.localPort key.peerPort peerBufAlloc).Clocked key where
  ports := rfl
  answers _ := .inl rfl
  request due := by cases due
  armed set := absurd rfl set
  killed dead := by cases dead

theorem newLocalInit_clocked (stream : Stream) (localCid peerCid : UInt64) (key : ConnMapKey) :
  (newLocalInit stream localCid peerCid key.localPort key.peerPort).Clocked key where
  ports := rfl
  answers due := by cases due
  request _ := ⟨.inl rfl, rfl⟩
  armed set := absurd rfl set
  killed dead := by cases dead

/-- A timer that runs in `next` ran in `conn`, or was set just now and is checked in time. -/
def Timed (conn next : VsockConnection) (after : Nat) : Prop :=
  next.state ≠ .killed → ∀ time, next.expiry = some time →
    (conn.state ≠ .killed ∧ conn.expiry = some time) ∨ (conn.expiry = none ∧ after < time)

theorem Proceeds.timed (proceeds : next.Proceeds other) (timed : conn.Timed next after) :
  conn.Timed other after := by
  intro alive time armed
  rcases proceeds.state with same | dead
  · rw [same] at alive
    rw [proceeds.expiry] at armed
    exact timed alive time armed
  · exact absurd dead.1 alive

theorem Timed.refl (conn : VsockConnection) (after : Nat) : conn.Timed conn after :=
  fun alive _ armed => .inl ⟨alive, armed⟩

theorem Proceeds.clocked (proceeds : conn.Proceeds other) (clocked : conn.Clocked key) :
  other.Clocked key where
  ports := proceeds.ports.trans clocked.ports
  answers := proceeds.answersGuest clocked.answers
  request due := by
    rw [proceeds.pending.request] at due
    obtain ⟨state, unarmed⟩ := clocked.request due
    refine ⟨?_, proceeds.expiry.trans unarmed⟩
    rcases proceeds.state with same | dead
    · rw [same]
      exact state
    · exact .inr dead.1
  armed set := by
    rw [proceeds.expiry] at set
    rcases proceeds.state with same | dead
    · rw [same]
      exact clocked.armed set
    · exact .inl dead.1
  killed dead := by
    rcases proceeds.state with same | killed
    · rw [same] at dead
      exact proceeds.pending.kept .rst (clocked.killed dead)
    · exact killed.2

theorem Clocked.unarmed (clocked : conn.Clocked key)
  (opened : conn.state = .peerInit ∨ conn.mayReadStream = true ∨ conn.state = .established) :
  conn.expiry = none := by
  by_contra set
  have state := clocked.armed set
  rcases opened with opened | opened | opened
  · simp [opened] at state
  · rcases state with state | state | state | state <;> simp [mayReadStream, state] at opened
  · simp [opened] at state

def Prompt (now after : Nat) : Prop :=
  after < now + fromMillis connRequestTimeoutMs ∧ after < now + fromMillis connShutdownTimeoutMs

theorem Receives.clocked (receives : conn.Receives pkt now received) (clocked : conn.Clocked key) :
  (received.result = .ok () ∧ received.pkt.hdr.op = vsockOpRst) ∨ received.channel.Clocked key := by
  have answers := receives.answersGuest clocked.answers
  have alive (noRst : conn.pendingRx.contains .rst = false) : conn.state ≠ .killed := by
    intro dead
    rw [clocked.killed dead] at noRst
    cases noRst
  -- neither the state nor the timer changed, and no opening packet or reset was pending
  have kept {other : VsockConnection} (settled : conn.Settled) (answers : other.AnswersGuest)
      (ports : (other.localPort, other.peerPort) = (conn.localPort, conn.peerPort))
      (state : other.state = conn.state) (expiry : other.expiry = conn.expiry)
      (request : other.pendingRx.contains .request = conn.pendingRx.contains .request) :
      other.Clocked key := by
    refine ⟨ports.trans clocked.ports, answers, ?_, ?_, ?_⟩
    · rw [request, settled.noRequest]
      exact fun due => absurd due (by decide)
    · rw [expiry, state]
      exact clocked.armed
    rw [state]
    exact fun dead => absurd dead (alive settled.noRst)
  cases receives with
  | reset | refused | failed => exact .inl ⟨rfl, rfl⟩
  | response noRst pending =>
    have init := (clocked.answers pending).resolve_right (alive noRst)
    have unarmed := clocked.unarmed (.inl init)
    refine .inr ⟨clocked.ports, answers, ?_, ?_, ?_⟩
    · intro due
      rcases (clocked.request due).1 with state | state <;> rw [init] at state <;> cases state
    · exact fun set => absurd unarmed set
    · exact nofun
  | request noRst noResponse pending =>
    have init := (clocked.request pending).1.resolve_right (alive noRst)
    refine .inr ⟨clocked.ports, answers, ?_, ?_, ?_⟩
    · exact nofun
    · exact fun _ => .inr (.inl init)
    · exact fun dead => absurd dead (alive noRst)
  | starved settled => exact .inr (kept settled answers rfl rfl rfl rfl)
  | eof settled =>
    refine .inr ⟨clocked.ports, answers, ?_, ?_, ?_⟩
    · intro due
      change conn.pendingRx.contains .request = true at due
      rw [settled.noRequest] at due
      cases due
    · exact fun _ => .inr (.inr (.inl rfl))
    · exact nofun
  | data settled => exact .inr (kept settled answers rfl rfl rfl rfl)
  | creditUpdate settled => exact .inr (kept settled answers rfl rfl rfl rfl)
  | noData settled => exact .inr (kept settled answers rfl rfl rfl rfl)

theorem Receives.timed (receives : conn.Receives pkt now received) (clocked : conn.Clocked key)
  (prompt : Prompt now after) : conn.Timed received.channel after := by
  have kept {other : VsockConnection} (state : other.state = conn.state)
      (expiry : other.expiry = conn.expiry) : conn.Timed other after := by
    intro alive time set
    rw [state] at alive
    rw [expiry] at set
    exact .inl ⟨alive, set⟩
  cases receives with
  | reset | refused | starved | data | failed | creditUpdate | noData => exact kept rfl rfl
  | response noRst pending =>
    intro _ time set
    refine .inl ⟨?_, set⟩
    intro dead
    rw [clocked.killed dead] at noRst
    cases noRst
  | request noRst noResponse pending =>
    intro _ time set
    cases set
    exact .inr ⟨(clocked.request pending).2, prompt.1⟩
  | eof settled pending readable =>
    intro _ time set
    cases set
    exact .inr ⟨clocked.unarmed (.inr (.inl readable)), prompt.2⟩

theorem Receives.ports (receives : conn.Receives (conn.initPkt pkt) now received) :
  received.pkt.hdr.srcPort = conn.localPort ∧ received.pkt.hdr.dstPort = conn.peerPort := by
  cases receives <;> exact ⟨rfl, rfl⟩

/-- The guest answered a request of the host that it has not seen yet. -/
def Premature (conn : VsockConnection) (pkt : VsockPacket) : Prop :=
  conn.state = .localInit ∧ conn.pendingRx.contains .request = true ∧ pkt.hdr.op = vsockOpResponse

theorem Controls.clocked (controls : conn.Controls now other) (clocked : conn.Clocked key)
  (seen : conn.state = .localInit → conn.pendingRx.contains .request = false) : other.Clocked key := by
  have answers := controls.answersGuest clocked.answers
  have noRequest (opened : conn.state ≠ .localInit ∧ conn.state ≠ .killed) :
      conn.pendingRx.contains .request ≠ true := by
    intro due
    rcases (clocked.request due).1 with state | state
    · exact opened.1 state
    · exact opened.2 state
  cases controls with
  | ignored => exact clocked
  | answered init =>
    refine ⟨clocked.ports, answers, ?_, ?_, ?_⟩
    · intro due
      rw [seen init] at due
      cases due
    · exact fun set => absurd rfl set
    · exact nofun
  | closing recvOff sendOff opened =>
    refine ⟨clocked.ports, answers, ?_, ?_, ?_⟩
    · intro due
      rcases opened with opened | ⟨_, _, opened, _⟩ <;>
        exact absurd due (noRequest (by simp [opened]))
    · intro set
      rcases opened with opened | ⟨recvOff', sendOff', opened, recv, send⟩
      · exact absurd (clocked.unarmed (.inr (.inr opened))) set
      -- a timer that runs in a half closed state is that of a complete shutdown
      have state := clocked.armed set
      simp only [opened, reduceCtorEq, false_or, ConnState.peerClosed.injEq] at state
      rw [recv state.1, send state.2]
      exact .inr (.inr (.inr rfl))
    · exact nofun
  | drained opened =>
    refine ⟨clocked.ports, answers, ?_, ?_, ?_⟩
    · intro due
      rcases opened with opened | ⟨_, _, opened⟩ <;>
        exact absurd due (noRequest (by simp [opened]))
    · exact fun _ => .inr (.inr (.inr rfl))
    · exact nofun
  | lingering opened =>
    refine ⟨clocked.ports, answers, ?_, ?_, ?_⟩
    · intro due
      exact absurd due (noRequest (by simp [opened]))
    · exact fun _ => .inr (.inr (.inr rfl))
    · exact nofun
  | creditUpdate => exact (insertRx_proceeds conn (by decide)).clocked clocked

theorem Controls.timed (controls : conn.Controls now other) (clocked : conn.Clocked key)
  (prompt : Prompt now after) : conn.Timed other after := by
  cases controls with
  | ignored => exact Timed.refl conn after
  | answered => exact fun _ _ set => by cases set
  | closing recvOff sendOff opened =>
    intro _ time set
    refine .inl ⟨?_, set⟩
    rcases opened with opened | ⟨_, _, opened, _⟩ <;> simp [opened]
  | drained opened =>
    intro _ time set
    refine .inl ⟨?_, set⟩
    rcases opened with opened | ⟨_, _, opened⟩ <;> simp [opened]
  | lingering opened =>
    intro _ time set
    cases set
    exact .inr ⟨clocked.unarmed (.inr (.inr opened)), prompt.2⟩
  | creditUpdate => exact (insertRx_proceeds conn (by decide)).timed (Timed.refl conn after)

theorem updatePeerCredit_proceeds (conn : VsockConnection) (pkt : VsockPacket) :
  conn.Proceeds (conn.updatePeerCredit pkt) := SameControl.proceeds ⟨rfl, rfl, rfl, rfl, rfl⟩

theorem sendPkt_clocked (clocked : conn.Clocked key) (seen : ¬conn.Premature pkt) (mem : GuestLayout) :
  (conn.sendPkt mem memory pkt answer now).Clocked key := by
  have credited := (conn.updatePeerCredit_proceeds pkt).clocked clocked
  unfold sendPkt
  dsimp only
  split
  · exact (sendRw_proceeds _ mem memory pkt answer).clocked credited
  by_cases early : conn.state = .localInit ∧ conn.pendingRx.contains .request = true
  · have other : pkt.hdr.op ≠ vsockOpResponse := fun op => seen ⟨early.1, early.2, op⟩
    have same : (conn.updatePeerCredit pkt).sendControl pkt now = conn.updatePeerCredit pkt := by
      unfold sendControl
      rw [show (conn.updatePeerCredit pkt).state = .localInit from early.1]
      exact if_neg other
    rw [same]
    exact credited
  refine (sendControl_controls _ pkt now).clocked credited ?_
  intro init
  rw [← Bool.not_eq_true]
  exact fun due => early ⟨init, due⟩

theorem sendPkt_timed (clocked : conn.Clocked key) (prompt : Prompt now after) (mem : GuestLayout)
  (pkt : VsockPacket) : conn.Timed (conn.sendPkt mem memory pkt answer now) after := by
  have credited := (conn.updatePeerCredit_proceeds pkt).clocked clocked
  unfold sendPkt
  dsimp only
  split
  · exact (sendRw_proceeds _ mem memory pkt answer).timed
      ((conn.updatePeerCredit_proceeds pkt).timed (Timed.refl conn after))
  · exact (sendControl_controls _ pkt now).timed credited prompt

end VsockConnection

def Awaited (connMap : Dict ConnMapKey VsockConnection) (item : MuxerKillQItem) : Prop :=
  ∃ conn, connMap.get? item.key = some conn ∧ conn.expiry = some item.killTime ∧ conn.state ≠ .killed

variable {connMap : Dict ConnMapKey VsockConnection}

theorem awaited_set (awaited : Awaited (connMap.set key next) item) :
  (item.key ≠ key ∧ Awaited connMap item) ∨
    (item.key = key ∧ next.expiry = some item.killTime ∧ next.state ≠ .killed) := by
  obtain ⟨conn, found, armed, alive⟩ := awaited
  rw [Dict.get?_set] at found
  split at found
  · rename_i same
    cases found
    exact .inr ⟨same, armed, alive⟩
  rename_i different
  exact .inl ⟨different, conn, found, armed, alive⟩

theorem awaited_erase (awaited : Awaited (connMap.erase key) item) :
  item.key ≠ key ∧ Awaited connMap item := by
  obtain ⟨conn, found, armed, alive⟩ := awaited
  rw [Dict.get?_erase] at found
  split at found
  · cases found
  rename_i different
  exact ⟨different, conn, found, armed, alive⟩

variable {next muxer : VsockMuxer}

namespace VsockMuxer

/-- The kill queue knows every armed timer, or knows that it does not; the connections of `skip`
are left out. -/
structure Attended (skip : ConnMapKey → Prop) (muxer : VsockMuxer) : Prop where
  clocked : muxer.connMap.Each fun key conn => ¬skip key → conn.Clocked key
  covers : muxer.killq.Covers fun item => ¬skip item.key ∧ Awaited muxer.connMap item

section

variable (attended : muxer.Attended skip)
include attended

theorem schedule_attended {next : VsockConnection} (found : muxer.connMap.get? key = some conn)
  (timed : ¬skip key → next.Clocked key ∧ conn.Timed next env.after) :
  (muxer.schedule key conn next env).Attended skip := by
  refine ⟨attended.clocked.set fun kept => (timed kept).1, ?_⟩
  -- what has to be in the queue was there before, or is pushed
  have needed : ∀ item, ¬skip item.key ∧ Awaited (muxer.connMap.set key next) item →
      (¬skip item.key ∧ Awaited muxer.connMap item) ∨
        (item = ⟨key, next.expiry.getD 0⟩ ∧ conn.willExpire env.before = false ∧
          next.willExpire env.after = true) := by
    rintro ⟨other, time⟩ ⟨kept, awaited⟩
    rcases awaited_set awaited with ⟨_, old⟩ | ⟨same, armed, alive⟩
    · exact .inl ⟨kept, old⟩
    subst same
    rcases (timed kept).2 alive time armed with ⟨lived, before⟩ | ⟨before, later⟩
    · exact .inl ⟨kept, conn, found, before, lived⟩
    refine .inr ⟨?_, ?_, ?_⟩
    · rw [armed]
      rfl
    · rw [VsockConnection.willExpire, before]
    rw [VsockConnection.willExpire, armed]
    exact decide_eq_true later
  change SyncQueue.Covers (if _ then _ else _) _
  split
  · apply attended.covers.offer
    intro item wanted
    exact (needed item wanted).imp id fun pushed => pushed.1
  rename_i unpushed
  apply attended.covers.mono
  intro item wanted
  rcases needed item wanted with old | ⟨_, before, later⟩
  · exact old
  · exact absurd (by rw [before, later]; rfl) unpushed

theorem killConnection_attended (key : ConnMapKey) : (muxer.killConnection key).Attended skip := by
  cases found : muxer.connMap.get? key with
  | none =>
    rw [killConnection_none found]
    exact { attended with }
  | some conn =>
    rw [killConnection_some found]
    refine ⟨?_, attended.covers.mono ?_⟩
    · apply attended.clocked.set
      exact fun kept => conn.kill_proceeds.clocked (attended.clocked key conn found kept)
    rintro item ⟨kept, awaited⟩
    rcases awaited_set awaited with ⟨_, old⟩ | ⟨_, _, alive⟩
    · exact ⟨kept, old⟩
    · exact absurd rfl alive

theorem removeConnection_attended (key : ConnMapKey) : (muxer.removeConnection key).Attended skip := by
  unfold removeConnection
  split
  · refine ⟨attended.clocked.erase key, attended.covers.mono ?_⟩
    exact fun item wanted => ⟨wanted.1, (awaited_erase wanted.2).2⟩
  · exact { attended with }

omit attended

theorem attended_closed : Closed (Attended skip) where
  listeners _ _ attended := { attended with }
  ports _ _ _ attended := { attended with }
  kill _ key attended := killConnection_attended attended key
  remove _ key attended := removeConnection_attended attended key
  reset _ _ _ attended := { attended with }

end

abbrev Attentive (muxer : VsockMuxer) : Prop := muxer.Attended fun _ => False

theorem Attended.skip (attended : muxer.Attentive) (skip : ConnMapKey → Prop) : muxer.Attended skip :=
  ⟨fun key conn found _ => attended.clocked key conn found id,
    attended.covers.mono fun _ wanted => ⟨id, wanted.2⟩⟩

theorem Attended.remove (attended : muxer.Attended fun other => other = key) :
  (muxer.removeConnection key).Attentive := by
  have removed := removeConnection_attended attended key
  have gone : (muxer.removeConnection key).connMap.get? key = none := by
    unfold removeConnection
    split
    · exact (Dict.get?_erase _ key key).trans (if_pos rfl)
    rename_i absent
    exact absent
  have others {other : ConnMapKey} {conn : VsockConnection}
      (found : (muxer.removeConnection key).connMap.get? other = some conn) : other ≠ key := by
    rintro rfl
    cases gone.symm.trans found
  refine ⟨fun other conn found _ => removed.clocked other conn found (others found), removed.covers.mono ?_⟩
  rintro item ⟨_, conn, found, armed⟩
  exact ⟨others found, conn, found, armed⟩

theorem new_attended (cid : UInt64) (hostSock : Nat) : (new cid hostSock).Attentive := by
  constructor
  · intro key conn found
    cases found
  rintro _ item ⟨_, conn, found, _⟩
  cases found

theorem recvConn_attended (attended : muxer.Attentive) (mem : GuestLayout) (key : ConnMapKey)
  (pkt : VsockPacket) (prompt : VsockConnection.Prompt env.now env.mutation.after) :
  let received := recvConn mem muxer key pkt env
  received.channel.Attentive ∨ received.result = .ok () ∧ received.pkt.hdr.op = vsockOpRst ∧
    received.pkt.hdr.srcPort = key.localPort ∧ received.pkt.hdr.dstPort = key.peerPort ∧
    received.channel.Attended fun other => other = key := by
  intro received
  cases found : muxer.connMap.get? key with
  | none =>
    have absent : received = _ := recvConn_none found
    rw [absent]
    exact .inl { attended with }
  | some conn =>
    have present : received = _ := recvConn_some found
    have clocked := attended.clocked key conn found id
    have receives := conn.recvPkt_receives mem pkt env.answer env.now
    have acked := VsockConnection.ackHost_proceeds
      (conn.recvPkt mem pkt env.answer env.now).channel conn.state key.localPort
      env.mutation.ack
    have timed := acked.timed (receives.timed clocked prompt)
    have popped {skip : ConnMapKey → Prop} (holds : (muxer.applyConnMutation key
        (fun _ => (conn.recvPkt mem pkt env.answer env.now).channel)
        env.mutation).Attended skip) : received.channel.Attended skip := by
      rw [present]
      dsimp only
      split
      · exact holds
      · exact { holds with }
    rcases receives.clocked clocked with ⟨ok, reset⟩ | kept
    · rw [present] at popped ⊢
      right
      have ports := receives.ports
      have known := Prod.mk.inj clocked.ports
      refine ⟨ok, reset, ports.1.trans known.1, ports.2.trans known.2, popped ?_⟩
      apply attended_closed.applyConnMutation (attended.skip _)
      intro other present
      cases found.symm.trans present
      exact schedule_attended (attended.skip _) found fun other => absurd rfl other
    left
    apply popped
    apply attended_closed.applyConnMutation attended
    intro other present
    cases found.symm.trans present
    exact schedule_attended attended found fun _ => ⟨acked.clocked kept, timed⟩

theorem recvLoop_attended (attended : muxer.Attentive) {received : Received VsockMuxer}
  (prompt : ∀ turn, VsockConnection.Prompt (env turn).now (env turn).mutation.after)
  (returned : recvLoop mem env turns turn muxer pkt = some received) : received.channel.Attentive := by
  induction turns generalizing turn muxer pkt with
  | zero => cases returned
  | succ turns ih =>
    unfold recvLoop at returned
    split at returned
    · cases returned
      exact attended
    · cases returned
      exact { attended with }
    rename_i key rest items
    have turned := recvConn_attended attended mem key pkt (prompt turn)
    dsimp only at returned
    split at returned
    · cases returned
      rcases turned with kept | ⟨_, reset, localPort, peerPort, others⟩
      · split
        · exact removeConnection_attended kept _
        · exact kept
      rw [if_pos reset, localPort, peerPort]
      exact others.remove
    rename_i err failed
    rcases turned with kept | ⟨ok, _⟩
    · exact ih kept returned
    rw [ok] at failed
    cases failed

theorem expire_tracked (items : muxer.killq.q = item :: rest) (due : item.killTime ≤ now)
  {good : MuxerKillQItem → Prop}
  (tracked : ∀ other, Awaited muxer.connMap other → other ∈ muxer.killq.q ∨ good other)
  {other : MuxerKillQItem}
  (awaited : Awaited ({ muxer with killq := muxer.killq.pop }.expire item.key now).connMap other) :
  other ∈ rest ∨ good other := by
  -- awaited before, and not the front: its connection would have expired
  have old : Awaited muxer.connMap other ∧ other ≠ item := by
    unfold expire at awaited
    split at awaited
    · rename_i conn found
      split at awaited
      · rw [@killConnection_some { muxer with killq := muxer.killq.pop } item.key conn found] at awaited
        rcases awaited_set awaited with ⟨different, old⟩ | ⟨_, _, alive⟩
        · exact ⟨old, fun same => different (congrArg _ same)⟩
        · exact absurd rfl alive
      rename_i running
      refine ⟨awaited, ?_⟩
      rintro rfl
      obtain ⟨other, present, armed, _⟩ := awaited
      cases found.symm.trans present
      apply running
      rw [VsockConnection.hasExpired, armed]
      exact decide_eq_true due
    rename_i absent
    refine ⟨awaited, ?_⟩
    rintro rfl
    obtain ⟨conn, present, _⟩ := awaited
    cases absent.symm.trans present
  rcases tracked other old.1 with member | fine
  · rw [items, List.mem_cons] at member
    exact .inl (member.resolve_left old.2)
  · exact .inr fine

theorem expire_killq : (muxer.expire key now).killq = muxer.killq := by
  unfold expire
  split
  · split <;> rfl
  · rfl

theorem reap_synced (round : Round) (items turn : Nat) (muxer : VsockMuxer) :
  (reap round items turn muxer).killq.synced = muxer.killq.synced := by
  induction items generalizing turn muxer with
  | zero => rfl
  | succ items ih =>
    unfold reap
    split
    · rfl
    split
    · rw [ih, expire_killq]
      rfl
    · rfl

variable {round : Round}

theorem reap_tracked (good : MuxerKillQItem → Prop)
  (tracked : ∀ item, Awaited muxer.connMap item → item ∈ muxer.killq.q ∨ good item)
  (awaited : Awaited (reap round items turn muxer).connMap item) :
  item ∈ (reap round items turn muxer).killq.q ∨ good item := by
  induction items generalizing turn muxer with
  | zero => exact tracked item awaited
  | succ items ih =>
    unfold reap at awaited ⊢
    split at awaited
    · exact tracked item awaited
    rename_i front rest queued
    split at awaited
    · rename_i due
      rw [if_pos due]
      refine ih ?_ awaited
      intro other later
      rw [expire_killq, SyncQueue.pop_q, queued]
      exact expire_tracked queued (by omega) tracked later
    rename_i early
    rw [if_neg early]
    exact tracked item awaited

theorem reap_attended (attended : muxer.Attentive) : (reap round items turn muxer).Attentive := by
  constructor
  · let Inv (muxer : VsockMuxer) : Prop :=
      muxer.connMap.Each fun key conn => ¬False → conn.Clocked key
    have killed : ∀ muxer key, Inv muxer → Inv (muxer.killConnection key) := by
      intro muxer key clocked
      apply Dict.Each.modify clocked
      exact fun conn good kept => conn.kill_proceeds.clocked (good kept)
    exact reap_keeps killed (fun _ _ clocked => clocked) attended.clocked
  rintro synced item ⟨_, awaited⟩
  rw [reap_synced] at synced
  have tracked := reap_tracked (fun _ => False) (fun other old =>
    .inl (attended.covers synced other ⟨id, old⟩)) awaited
  exact tracked.resolve_right id

/-- No timer that a kill queue out of sync has lost runs out before the queue is built anew. -/
def TimersLast (muxer : VsockMuxer) (rounds : List Round) : Prop :=
  muxer.killq.synced = false → ∀ item, Awaited muxer.connMap item →
    item ∈ muxer.killq.q ∨ ∀ round ∈ rounds, round.clock item.key < item.killTime

theorem fromConnMap_covers (lasts : ∀ item, Awaited connMap item → round.clock item.key < item.killTime) :
  (MuxerKillQ.fromConnMap round.clock (connMap.walk round.order)).Covers
    fun item => ¬False ∧ Awaited connMap item := by
  rintro synced ⟨key, time⟩ ⟨_, awaited⟩
  have later := lasts _ awaited
  obtain ⟨conn, found, armed, _⟩ := awaited
  have present := (Dict.walk_get? connMap round.order key conn).mpr found
  have selected : MuxerKillQ.expiringItem round.clock (key, conn) = some ⟨key, time⟩ := by
    rw [MuxerKillQ.expiringItem, VsockConnection.willExpire, armed]
    exact if_pos (decide_eq_true later)
  have member := SyncQueue.gather_complete synced present selected
  exact (List.perm_insertionSort _ _).mem_iff.mpr member

theorem sweepKillq_attended (attended : muxer.Attentive) (lasts : muxer.TimersLast rounds)
  (swept : muxer.sweepKillq rounds = some next) : next.Attentive := by
  induction rounds generalizing muxer with
  | nil => cases swept
  | cons round rounds ih =>
    have reaped : (reap round muxer.killq.q.length 0 muxer).Attentive := reap_attended attended
    have synced := reap_synced round muxer.killq.q.length 0 muxer
    unfold sweepKillq at swept
    dsimp only at swept
    split at swept
    · rename_i drained
      rw [Bool.and_eq_true, SyncQueue.isEmpty, List.isEmpty_iff, Bool.not_eq_true'] at drained
      rw [drained.2] at synced
      have left {item : MuxerKillQItem}
          (awaited : Awaited (reap round muxer.killq.q.length 0 muxer).connMap item) :
          ∀ other ∈ round :: rounds, other.clock item.key < item.killTime := by
        have tracked := reap_tracked _ (lasts synced.symm) awaited
        rw [drained.1] at tracked
        exact tracked.resolve_left List.not_mem_nil
      refine ih ?_ ?_ swept
      · refine ⟨reaped.clocked, fromConnMap_covers ?_⟩
        exact fun item awaited => left awaited round List.mem_cons_self
      intro _ item awaited
      exact .inr fun other later => left awaited other (List.mem_cons_of_mem round later)
    cases swept
    exact reaped

theorem addConnection_attended (attended : muxer.Attentive) (clocked : conn.Clocked key)
  (unarmed : conn.expiry = none) (lasts : muxer.TimersLast rounds)
  (done : muxer.addConnection key conn rounds epollOk = some (added, next)) : next.Attentive := by
  obtain ⟨swept, sweeps, rest⟩ := Option.bind_eq_some_iff.mp done
  have clean := sweepKillq_attended attended lasts sweeps
  split at rest
  · cases rest
    exact clean
  split at rest
  · cases rest
    refine ⟨clean.clocked.set fun _ => clocked, clean.covers.mono ?_⟩
    rintro item ⟨kept, awaited⟩
    rcases awaited_set awaited with ⟨_, old⟩ | ⟨_, armed, _⟩
    · exact ⟨kept, old⟩
    rw [unarmed] at armed
    cases armed
  cases rest
  exact clean

/-- The conditions under which a step loses no timer: it is checked before a timer it sets can
run out, the guest does not answer a request that it has not seen, and a kill queue that is out
of sync is built anew before any timer that it lost runs out. -/
def Timely (muxer : VsockMuxer) : MuxerEvent → Prop
  | .recv _ env _ _ => ∀ turn, VsockConnection.Prompt (env turn).now (env turn).mutation.after
  | .send pkt env =>
    VsockConnection.Prompt env.now env.mutation.after ∧ muxer.TimersLast env.rounds ∧
      ∀ conn, muxer.connMap.get? ⟨pkt.hdr.dstPort, pkt.hdr.srcPort⟩ = some conn → ¬conn.Premature pkt
  | .epoll event => muxer.TimersLast event.rounds
  | .sweep rounds => muxer.TimersLast rounds

variable (attended : muxer.Attentive)
include attended

theorem sendPkt_attended (timely : muxer.Timely (.send pkt env))
  (sent : muxer.sendPkt mem pkt env = some next) : next.Attentive := by
  obtain ⟨prompt, lasts, seen⟩ := timely
  refine attended_closed.sendPkt attended ?_ ?_ sent
  · intro conn found
    have clocked := attended.clocked _ conn found id
    have acked := VsockConnection.ackHost_proceeds
      (conn.sendPkt mem env.memory pkt env.answer env.now) conn.state pkt.hdr.dstPort
      env.mutation.ack
    apply schedule_attended attended found
    intro _
    exact ⟨acked.clocked (VsockConnection.sendPkt_clocked clocked (seen conn found) mem),
      acked.timed (VsockConnection.sendPkt_timed clocked prompt mem pkt)⟩
  intro fd added other adds
  exact addConnection_attended attended
    (VsockConnection.newPeerInit_clocked _ _ _ ⟨pkt.hdr.dstPort, pkt.hdr.srcPort⟩ _) rfl lasts
    adds

theorem handleEvent_attended (lasts : muxer.TimersLast event.rounds)
  (handled : muxer.handleEvent event = some next) : next.Attentive := by
  refine attended_closed.handleEvent attended ?_ ?_ handled
  · intro key conn found
    have notified := (conn.notify_proceeds event.evset event.answers).trans
      (VsockConnection.ackHost_proceeds _ conn.state key.localPort event.mutation.ack)
    apply schedule_attended attended found
    intro _
    exact ⟨notified.clocked (attended.clocked key conn found id),
      notified.timed (VsockConnection.Timed.refl conn _)⟩
  intro listeners used last stream localPort peerPort added other adds
  refine addConnection_attended ?_
    (VsockConnection.newLocalInit_clocked _ _ _ ⟨localPort, peerPort⟩) rfl ?_ adds
  · exact { attended with }
  · exact lasts

theorem step_attended (timely : muxer.Timely event)
  (stepped : muxer.step mem event = some next) : next.Attentive := by
  cases event with
  | recv pkt env order turns =>
    obtain ⟨received, returned, rfl⟩ := Option.map_eq_some_iff.mp stepped
    refine recvLoop_attended ?_ timely returned
    unfold resync
    split
    · exact { attended with }
    · exact attended
  | send pkt env => exact sendPkt_attended attended timely stepped
  | epoll event => exact handleEvent_attended attended timely stepped
  | sweep rounds => exact sweepKillq_attended attended timely stepped

omit attended

def RunsTimely (mem : GuestLayout) : VsockMuxer → List MuxerEvent → Prop
  | _, [] => True
  | muxer, event :: events =>
    muxer.Timely event ∧ ∀ next, muxer.step mem event = some next → RunsTimely mem next events

theorem expired_reaped (mem : GuestLayout) (cid : UInt64) (hostSock : Nat)
  (events : List MuxerEvent) (timely : RunsTimely mem (new cid hostSock) events)
  (muxer : VsockMuxer) (reached : (new cid hostSock).run mem events = some muxer)
  (key : ConnMapKey) (conn : VsockConnection) (time : Nat)
  (found : muxer.connMap.get? key = some conn) (armed : conn.expiry = some time) :
  (conn.state = .killed ∧ conn.pendingRx.contains .rst = true) ∨
    ⟨key, time⟩ ∈ muxer.killq.q ∨ muxer.killq.synced = false := by
  have attended : muxer.Attentive := by
    have both := run_invariant (fun events muxer => muxer.Attentive ∧ RunsTimely mem muxer events)
      (fun _ _ _ next holds stepped =>
        ⟨step_attended holds.1 holds.2.1 stepped, holds.2.2 next stepped⟩)
      ⟨new_attended cid hostSock, timely⟩ reached
    exact both.1
  by_cases killed : conn.state = .killed
  · exact .inl ⟨killed, (attended.clocked key conn found id).killed killed⟩
  right
  cases synced : muxer.killq.synced with
  | false => exact .inr rfl
  | true => exact .inl (attended.covers synced ⟨key, time⟩ ⟨id, conn, found, armed, killed⟩)

def hostEvent (fd : Nat) (accepted : Option Nat) (peerPort : Option UInt32) : MuxerEvent :=
  .epoll ⟨fd, ⟨true, false⟩, [], calm 0, accepted, peerPort, [roundAt 0], true⟩

def hostConnects : List MuxerEvent :=
  [hostEvent 0 (some 1) none, hostEvent 1 none (some 52), guestAsks 0]

theorem expired_reaped_unanswered : ∃ muxer conn, (new 3 0).run Session.roomyLayout
    (hostConnects ++ [.sweep [roundAt (fromMillis 3000)]]) = some muxer ∧
  muxer.connMap.get? ⟨0x40000000, 52⟩ = some conn ∧
  conn.expiry = some (fromMillis 2000) ∧
  ((conn.state = .killed ∧ conn.pendingRx.contains .rst = true) ∨
    ⟨⟨0x40000000, 52⟩, fromMillis 2000⟩ ∈ muxer.killq.q ∨ muxer.killq.synced = false) := by
  have prompt : VsockConnection.Prompt 0 0 := ⟨by decide, by decide⟩
  have timely : RunsTimely Session.roomyLayout (new 3 0)
      (hostConnects ++ [.sweep [roundAt (fromMillis 3000)]]) := by
    refine ⟨(nofun), ?_⟩
    intro accepted stepped
    cases stepped
    refine ⟨(nofun), ?_⟩
    intro connected stepped
    cases stepped
    refine ⟨fun _ => prompt, ?_⟩
    intro asked stepped
    cases stepped
    exact ⟨(nofun), fun _ _ => trivial⟩
  refine ⟨_, _, rfl, rfl, rfl, ?_⟩
  exact expired_reaped _ 3 0 _ timely _ rfl ⟨0x40000000, 52⟩ _ _ rfl rfl

/-- The guest resets 128 connections of the host, whose items stay in the kill queue; there is no
place for that of the next connection. -/
def overcrowded : List MuxerEvent :=
  ((List.range 128).flatMap fun index => hostConnects ++
    [guestSends 0 (guestPacket vsockTypeStream vsockOpRst 52 (0x40000000 + UInt32.ofNat index))]) ++
  hostConnects

/-- A second after the timer ran out the queue is drained and built anew, without it. -/
theorem overcrowded_never_reaped : ((new 3 0).run Session.roomyLayout (overcrowded ++
    [.sweep [roundAt (fromMillis 3000), roundAt (fromMillis 3000)]])).map (fun muxer =>
      (muxer.killq.synced, muxer.killq.q,
        (muxer.connMap.get? ⟨0x40000080, 52⟩).map fun conn => (conn.state, conn.expiry))) =
    some (true, [], some (.localInit, some (fromMillis 2000))) := by
  decide +kernel

end VsockMuxer

end Spacer.Vsock
