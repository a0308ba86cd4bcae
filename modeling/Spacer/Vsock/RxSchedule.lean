import Spacer.Vsock.Muxer
import Spacer.Vsock.Steps

/-! The RX queue of the muxer against the connections that have something to say. -/

namespace Spacer.Vsock

open Lib Virtio List

theorem MuxerRxQ.displace_covers {queue : MuxerRxQ} (covers : queue.Covers needed) :
  (queue.displace rx).Covers needed := by
  unfold displace
  split
  · intro synced
    cases synced
  · exact covers

theorem MuxerRxQ.push_covers {queue : MuxerRxQ} (covers : queue.Covers needed) :
  (queue.push rx).Covers needed := by
  cases rx with
  | connRx key => exact covers.offer fun other wanted => .inl wanted
  | rstPkt localPort peerPort =>
    unfold push
    dsimp only
    split
    · exact covers.offer fun other wanted => .inl wanted
    · exact displace_covers covers

def Waiting (connMap : Dict ConnMapKey VsockConnection) : MuxerRx → Prop
  | .connRx key => ∃ conn, connMap.get? key = some conn ∧ conn.hasPendingRx = true
  | .rstPkt _ _ => False

variable {connMap : Dict ConnMapKey VsockConnection}

theorem waiting_set {next : VsockConnection} (waiting : Waiting (connMap.set key next) item) :
  (item ≠ .connRx key ∧ Waiting connMap item) ∨ (item = .connRx key ∧ next.hasPendingRx = true) := by
  cases item with
  | rstPkt => exact absurd waiting id
  | connRx other =>
    obtain ⟨conn, found, pending⟩ := waiting
    rw [Dict.get?_set] at found
    split at found
    · rename_i same
      cases found
      exact .inr ⟨congrArg _ same, pending⟩
    rename_i different
    exact .inl ⟨fun same => different (MuxerRx.connRx.inj same), conn, found, pending⟩

theorem waiting_erase (waiting : Waiting (connMap.erase key) item) : Waiting connMap item := by
  cases item with
  | rstPkt => exact waiting
  | connRx other =>
    obtain ⟨conn, found, pending⟩ := waiting
    rw [Dict.get?_erase] at found
    split at found
    · cases found
    · exact ⟨conn, found, pending⟩

variable {next muxer : VsockMuxer}

namespace VsockMuxer

structure Scheduled (muxer : VsockMuxer) : Prop where
  covers : muxer.rxq.Covers (Waiting muxer.connMap)
  answers : muxer.connMap.Each fun _ conn => conn.AnswersGuest

theorem new_scheduled (cid : UInt64) (hostSock : Nat) : (new cid hostSock).Scheduled := by
  constructor
  · intro _ item waiting
    cases item with
    | rstPkt => exact absurd waiting id
    | connRx key =>
      obtain ⟨conn, found, _⟩ := waiting
      cases found
  intro key conn found
  cases found

variable (scheduled : muxer.Scheduled)
include scheduled

theorem set_scheduled (key : ConnMapKey) {next : VsockConnection}
  (answers : next.AnswersGuest) (queued : Bool)
  (known : queued = false → next.hasPendingRx = true → Waiting muxer.connMap (.connRx key)) :
  { muxer with
    connMap := muxer.connMap.set key next
    rxq := if queued then muxer.rxq.push (.connRx key) else muxer.rxq }.Scheduled := by
  refine ⟨?_, scheduled.answers.set answers⟩
  cases queued with
  | true =>
    apply scheduled.covers.offer
    intro other waiting
    rcases waiting_set waiting with old | new
    · exact .inl old.2
    · exact .inr new.1
  | false =>
    apply scheduled.covers.mono
    intro other waiting
    rcases waiting_set waiting with old | ⟨rfl, pending⟩
    · exact old.2
    · exact known rfl pending

theorem schedule_scheduled {next : VsockConnection} (found : muxer.connMap.get? key = some conn)
  (answers : next.AnswersGuest) (env : MutationEnv) : (muxer.schedule key conn next env).Scheduled := by
  have stored := set_scheduled scheduled key answers (!conn.hasPendingRx && next.hasPendingRx)
  refine ⟨(stored ?_).covers, (stored ?_).answers⟩ <;>
  · intro unqueued pending
    refine ⟨conn, found, ?_⟩
    simpa [pending] using unqueued

theorem killConnection_scheduled (key : ConnMapKey) : (muxer.killConnection key).Scheduled := by
  cases found : muxer.connMap.get? key with
  | none =>
    rw [killConnection_none found]
    exact ⟨MuxerRxQ.push_covers scheduled.covers, scheduled.answers⟩
  | some conn =>
    rw [killConnection_some found]
    have answers := conn.kill_proceeds.answersGuest (scheduled.answers key conn found)
    apply set_scheduled scheduled key answers
    intro queued _
    exact ⟨conn, found, (Bool.not_eq_false' _).mp queued⟩

theorem removeConnection_scheduled (key : ConnMapKey) : (muxer.removeConnection key).Scheduled := by
  unfold removeConnection
  split
  · exact ⟨scheduled.covers.mono fun _ => waiting_erase, scheduled.answers.erase key⟩
  · exact { scheduled with }

omit scheduled

theorem scheduled_closed : Closed Scheduled where
  listeners _ _ scheduled := { scheduled with }
  ports _ _ _ scheduled := { scheduled with }
  kill _ key scheduled := killConnection_scheduled scheduled key
  remove _ key scheduled := removeConnection_scheduled scheduled key
  reset _ _ _ scheduled := ⟨MuxerRxQ.push_covers scheduled.covers, scheduled.answers⟩

variable (scheduled : muxer.Scheduled)
include scheduled

theorem sweepKillq_scheduled (swept : muxer.sweepKillq rounds = some next) : next.Scheduled := by
  induction rounds generalizing muxer with
  | nil => cases swept
  | cons round rounds ih =>
    have reaped : (reap round muxer.killq.q.length 0 muxer).Scheduled :=
      reap_keeps scheduled_closed.kill
        (fun _ _ scheduled => { scheduled with }) scheduled
    unfold sweepKillq at swept
    dsimp only at swept
    split at swept
    · refine ih ?_ swept
      exact { reaped with }
    cases swept
    exact reaped

theorem addConnection_scheduled (answers : conn.AnswersGuest)
  (done : muxer.addConnection key conn rounds epollOk = some (added, next)) : next.Scheduled := by
  obtain ⟨swept, sweeps, rest⟩ := Option.bind_eq_some_iff.mp done
  have clean := sweepKillq_scheduled scheduled sweeps
  split at rest
  · cases rest
    exact clean
  split at rest
  · cases rest
    have stored := set_scheduled clean key answers conn.hasPendingRx fun idle pending =>
      absurd (idle.symm.trans pending) (by decide)
    exact { stored with }
  cases rest
  exact clean

theorem sendPkt_scheduled {env : SendEnv}
  (sent : muxer.sendPkt mem pkt env = some next) : next.Scheduled := by
  refine scheduled_closed.sendPkt scheduled ?_ ?_ sent
  · intro conn found
    have answers := VsockConnection.sendPkt_answersGuest (scheduled.answers _ conn found) mem
      env.memory pkt env.answer env.now
    exact schedule_scheduled scheduled found
      ((VsockConnection.ackHost_proceeds _ _ _ _).answersGuest answers) _
  intro fd added other adds
  exact addConnection_scheduled scheduled (fun _ => .inl rfl) adds

theorem handleEvent_scheduled (handled : muxer.handleEvent event = some next) : next.Scheduled := by
  refine scheduled_closed.handleEvent scheduled ?_ ?_ handled
  · intro key conn found
    have answers := (conn.notify_proceeds event.evset event.answers).answersGuest
      (scheduled.answers _ conn found)
    exact schedule_scheduled scheduled found
      ((VsockConnection.ackHost_proceeds _ _ _ _).answersGuest answers) _
  intro listeners used last stream localPort peerPort added other adds
  refine addConnection_scheduled ?_ ?_ adds
  · exact { scheduled with }
  intro due
  cases due

theorem resync_scheduled (order : List ConnMapKey) : (muxer.resync order).Scheduled := by
  unfold resync
  split
  · refine ⟨?_, scheduled.answers⟩
    intro synced item waiting
    cases item with
    | rstPkt => exact absurd waiting id
    | connRx key =>
      obtain ⟨conn, found, pending⟩ := waiting
      have present := (Dict.walk_get? muxer.connMap order key conn).mpr found
      exact SyncQueue.gather_complete synced present (if_pos pending)
  · exact scheduled

omit scheduled

inductive Passes (muxer : VsockMuxer) (key : ConnMapKey) (epollOk : Bool) (next : VsockMuxer) :
  Prop
  | quiet (others : ∀ other, other ≠ key →
        next.connMap.get? other = muxer.connMap.get? other)
      (silent : ∀ conn, next.connMap.get? key = some conn → conn.hasPendingRx = false)
      (rxq : next.rxq = muxer.rxq.pop)
  | killed (failed : epollOk = false)
      (others : ∀ other, other ≠ key → next.connMap.get? other = muxer.connMap.get? other)
      (conn : VsockConnection) (found : next.connMap.get? key = some conn)
      (rst : conn.pendingRx.contains .rst = true)
      (rxq : next.rxq = (muxer.rxq.offer (.connRx key)).pop)

variable (connMap)

def unready : MuxerRx → Bool
  | .rstPkt _ _ => false
  | .connRx key =>
    match connMap.get? key with
    | some conn => !conn.pendingRx.contains .rst
    | none => true

def Listed (muxer : VsockMuxer) : Prop :=
  ∀ item, Waiting muxer.connMap item → item ∈ muxer.rxq.q

def KeepsKilled (muxer : VsockMuxer) (env : Nat → RecvEnv) : Prop :=
  (∀ turn, (env turn).mutation.epollOk = true) ∨ muxer.rxq.synced = true ∧ muxer.rxq.isFull = false

section

variable (passes : muxer.Passes key epollOk next)
include passes

theorem Passes.others (different : other ≠ key) :
  next.connMap.get? other = muxer.connMap.get? other := by
  cases passes with
  | quiet others | killed _ others => exact others other different

theorem Passes.waiting {item : MuxerRx} (different : item ≠ .connRx key) : Waiting next.connMap item ↔ Waiting muxer.connMap item := by
  cases item with
  | rstPkt => exact Iff.rfl
  | connRx other =>
    have same := passes.others fun equal => different (congrArg _ equal)
    simp only [Waiting, same]

variable (items : muxer.rxq.q = .connRx key :: rest)
include items

theorem Passes.covers (covers : muxer.rxq.Covers (Waiting muxer.connMap)) :
  next.rxq.Covers (Waiting next.connMap) := by
  have moved := @passes.waiting
  cases passes with
  | quiet others silent rxq =>
    rw [rxq]
    apply covers.pop
    intro other waiting
    have different : other ≠ .connRx key := by
      rintro rfl
      obtain ⟨conn, found, pending⟩ := waiting
      rw [silent conn found] at pending
      cases pending
    refine ⟨(moved different).mp waiting, ?_⟩
    rw [items, head?_cons]
    exact fun same => different (Option.some.inj same).symm
  | killed failed others conn found rst rxq =>
    rw [rxq]
    apply covers.offer_pop (by rw [items, head?_cons])
    intro other waiting
    by_cases same : other = .connRx key
    · exact .inr same
    · exact .inl ((moved same).mp waiting)

theorem Passes.left :
  next.rxq.q = rest ∨ next.rxq.q = rest ++ [.connRx key] ∧ unready next.connMap (.connRx key) = false := by
  cases passes with
  | quiet others silent rxq =>
    left
    rw [rxq, SyncQueue.pop_q, items, tail_cons]
  | killed failed others conn found rst rxq =>
    have ready : unready next.connMap (.connRx key) = false := by
      rw [unready, found]
      simp [rst]
    rw [rxq, SyncQueue.pop_q]
    rcases SyncQueue.offer_items muxer.rxq (.connRx key) with queued | full
    · right
      rw [queued, items, cons_append, tail_cons]
      exact ⟨rfl, ready⟩
    left
    rw [full, items, tail_cons]

theorem Passes.fewer (idle : unready muxer.connMap (.connRx key) = true) :
  next.rxq.q.countP (unready next.connMap) < muxer.rxq.q.countP (unready muxer.connMap) := by
  have kept : rest.countP (unready next.connMap) ≤ rest.countP (unready muxer.connMap) := by
    apply countP_mono_left
    intro item _ still
    cases item with
    | rstPkt => exact still
    | connRx other =>
      by_cases same : other = key
      · rw [same]
        exact idle
      rw [unready, passes.others same] at still
      exact still
  rw [items, countP_cons_of_pos idle]
  rcases passes.left items with left | ⟨left, ready⟩
  · rw [left]
    omega
  rw [left, countP_append, countP_singleton, ready, if_neg (by decide)]
  omega

theorem Passes.listed (listed : muxer.Listed)
  (kept : epollOk = true ∨ muxer.rxq.synced = true ∧ muxer.rxq.isFull = false) : next.Listed := by
  have moved := @passes.waiting
  have later {item : MuxerRx} (different : item ≠ .connRx key)
      (waiting : Waiting next.connMap item) : item ∈ rest := by
    have member := listed item ((moved different).mp waiting)
    rw [items, mem_cons] at member
    exact member.resolve_left different
  intro item waiting
  cases passes with
  | quiet others silent rxq =>
    have different : item ≠ .connRx key := by
      rintro rfl
      obtain ⟨conn, found, pending⟩ := waiting
      rw [silent conn found] at pending
      cases pending
    rw [rxq, SyncQueue.pop_q, items, tail_cons]
    exact later different waiting
  | killed failed others conn found rst rxq =>
    rcases kept with ok | room
    · rw [failed] at ok
      cases ok
    rw [rxq, SyncQueue.pop_q, (SyncQueue.offer_room _ room).2, items]
    by_cases same : item = .connRx key
    · simp [same]
    · exact mem_append_left _ (later same waiting)

theorem Passes.room (room : muxer.rxq.synced = true ∧ muxer.rxq.isFull = false) :
  next.rxq.synced = true ∧ next.rxq.isFull = false := by
  have small := (SyncQueue.isFull_eq_false muxer.rxq).mp room.2
  rw [items, length_cons] at small
  rw [SyncQueue.isFull_eq_false]
  cases passes with
  | quiet others silent rxq =>
    rw [rxq, SyncQueue.pop_q, items, tail_cons]
    exact ⟨room.1, by omega⟩
  | killed failed others conn found rst rxq =>
    obtain ⟨synced, queued⟩ := SyncQueue.offer_room (.connRx key) room
    rw [rxq, SyncQueue.pop_q, queued, items, cons_append, tail_cons, length_append, length_singleton]
    exact ⟨synced, small⟩

omit passes items

end

theorem updateListener_passes {stored : VsockMuxer} (found : stored.connMap.get? key = some conn)
  (silent : conn.hasPendingRx = false)
  (others : ∀ other, other ≠ key → stored.connMap.get? other = muxer.connMap.get? other)
  (kept : stored.rxq = muxer.rxq) :
  muxer.Passes key epollOk { stored.updateListener key conn epollOk with
      rxq := (stored.updateListener key conn epollOk).rxq.pop } := by
  obtain ⟨listeners, same | ⟨failed, same⟩⟩ := updateListener_cases stored key conn epollOk
  · rw [same]
    refine .quiet others ?_ (congrArg SyncQueue.pop kept)
    intro other present
    cases found.symm.trans present
    exact silent
  have dead := @killConnection_some { stored with listenerMap := listeners } key conn found
  rw [same, dead, silent]
  refine .killed failed ?_ conn.kill ?_ conn.kill_rst ?_
  · intro other different
    simp [others other different, different]
  · simp
  · exact congrArg (fun queue => (SyncQueue.offer queue (.connRx key)).pop) kept

theorem recvConn_passes (scheduled : muxer.Scheduled) (mem : GuestLayout) (key : ConnMapKey)
  (pkt : VsockPacket) (env : RecvEnv)
  (spent : ∀ conn, muxer.connMap.get? key = some conn →
    (conn.recvPkt mem pkt env.answer env.now).channel.hasPendingRx = false) :
  muxer.Passes key env.mutation.epollOk (recvConn mem muxer key pkt env).channel := by
  unfold recvConn applyConnMutation
  cases found : muxer.connMap.get? key with
  | none =>
    refine .quiet (fun _ _ => rfl) ?_ rfl
    intro conn present
    cases found.symm.trans present
  | some conn =>
    have silent := spent conn found
    have receives := conn.recvPkt_receives mem pkt env.answer env.now
    dsimp only
    rw [receives.ackHost_eq (scheduled.answers key conn found), silent, if_neg (by decide)]
    apply updateListener_passes
    · simp [schedule]
    · exact silent
    · intro other different
      simp [schedule, different]
    · simp [schedule, silent]

theorem recvConn_scheduled (scheduled : muxer.Scheduled)
  (items : muxer.rxq.q = .connRx key :: rest) (mem : GuestLayout) (pkt : VsockPacket)
  (env : RecvEnv) : (recvConn mem muxer key pkt env).channel.Scheduled := by
  cases found : muxer.connMap.get? key with
  | none =>
    have passes := recvConn_passes scheduled mem key pkt env fun conn present => by
      cases found.symm.trans present
    refine ⟨passes.covers items scheduled.covers, ?_⟩
    rw [recvConn_none found]
    exact scheduled.answers
  | some conn =>
    have mutated : (muxer.applyConnMutation key (fun _ => (conn.recvPkt mem pkt env.answer env.now).channel)
        env.mutation).Scheduled := by
      apply scheduled_closed.applyConnMutation scheduled
      intro other present
      cases found.symm.trans present
      have answers := (conn.recvPkt_receives mem pkt env.answer env.now).answersGuest
        (scheduled.answers key conn found)
      exact schedule_scheduled scheduled found
        ((VsockConnection.ackHost_proceeds _ _ _ _).answersGuest answers) _
    cases pending : (conn.recvPkt mem pkt env.answer env.now).channel.hasPendingRx with
    | true =>
      rw [recvConn_some found]
      dsimp only
      rw [pending, if_pos rfl]
      exact mutated
    | false =>
      have passes := recvConn_passes scheduled mem key pkt env fun other present => by
        cases found.symm.trans present
        exact pending
      refine ⟨passes.covers items scheduled.covers, ?_⟩
      rw [recvConn_some found]
      dsimp only
      rw [pending, if_neg (by decide)]
      exact mutated.answers

theorem recvConn_of_error (scheduled : muxer.Scheduled) {env : RecvEnv}
  (failed : (recvConn mem muxer key pkt env).result = .error err) :
  (∀ conn, muxer.connMap.get? key = some conn → conn.pendingRx.contains .rst = false) ∧
    muxer.Passes key env.mutation.epollOk (recvConn mem muxer key pkt env).channel := by
  have silent : ∀ conn, muxer.connMap.get? key = some conn → conn.pendingRx.contains .rst = false ∧
        (conn.recvPkt mem pkt env.answer env.now).channel.hasPendingRx = false := by
    intro conn found
    rw [recvConn_some found] at failed
    exact (conn.recvPkt_receives mem pkt env.answer env.now).of_error failed
  exact ⟨fun conn found => (silent conn found).1,
    recvConn_passes scheduled mem key pkt env fun conn found => (silent conn found).2⟩

variable (scheduled : muxer.Scheduled)
include scheduled

/-- Every turn without a packet is the last for an item of the queue. -/
theorem recvLoop_returns (pkt : VsockPacket) (enough : muxer.rxq.q.countP (unready muxer.connMap) < turns) :
  ∃ received, recvLoop mem env turns turn muxer pkt = some received := by
  induction turns generalizing turn muxer pkt with
  | zero => omega
  | succ turns ih =>
    unfold recvLoop
    split
    · exact ⟨_, rfl⟩
    · exact ⟨_, rfl⟩
    rename_i key rest items
    dsimp only
    split
    · exact ⟨_, rfl⟩
    rename_i err failed
    obtain ⟨noRst, passes⟩ := recvConn_of_error scheduled failed
    have idle : unready muxer.connMap (.connRx key) = true := by
      rw [unready]
      cases found : muxer.connMap.get? key with
      | none => rfl
      | some conn =>
        dsimp only
        rw [noRst conn found]
        rfl
    have fewer := passes.fewer items idle
    exact ih (recvConn_scheduled scheduled items mem pkt (env turn)) _ (by omega)

theorem recvLoop_scheduled (returned : recvLoop mem env turns turn muxer pkt = some received) :
  received.channel.Scheduled := by
  induction turns generalizing turn muxer pkt with
  | zero => cases returned
  | succ turns ih =>
    unfold recvLoop at returned
    split at returned
    · cases returned
      exact scheduled
    · rename_i localPort peerPort rest items
      cases returned
      refine ⟨scheduled.covers.pop ?_, scheduled.answers⟩
      intro other waiting
      refine ⟨waiting, ?_⟩
      rw [items, head?_cons]
      rintro ⟨⟩
      exact waiting
    rename_i key rest items
    have turned := recvConn_scheduled scheduled items mem pkt (env turn)
    dsimp only at returned
    split at returned
    · cases returned
      split
      · exact removeConnection_scheduled turned _
      · exact turned
    · exact ih turned returned

theorem step_scheduled (stepped : muxer.step mem event = some next) : next.Scheduled := by
  cases event with
  | recv pkt env order turns =>
    obtain ⟨received, returned, rfl⟩ := Option.map_eq_some_iff.mp stepped
    exact recvLoop_scheduled (resync_scheduled scheduled order) returned
  | send pkt env => exact sendPkt_scheduled scheduled stepped
  | epoll event => exact handleEvent_scheduled scheduled stepped
  | sweep rounds => exact sweepKillq_scheduled scheduled stepped

omit scheduled

theorem run_scheduled {cid : UInt64} {hostSock : Nat}
  (reached : (new cid hostSock).run mem events = some muxer) : muxer.Scheduled :=
  run_invariant (fun _ => Scheduled) (fun _ _ _ _ scheduled stepped => step_scheduled scheduled stepped)
    (new_scheduled cid hostSock) reached

structure Idle (muxer : VsockMuxer) : Prop where
  silent : ∀ key conn, muxer.connMap.get? key = some conn → conn.hasPendingRx = false
  noRst : ∀ localPort peerPort, .rstPkt localPort peerPort ∉ muxer.rxq.q

theorem recvLoop_idle {turns turn : Nat} (scheduled : muxer.Scheduled) (listed : muxer.Listed)
  (kept : muxer.KeepsKilled env) (returned : recvLoop mem env turns turn muxer pkt = some received)
  (failed : received.result = .error err) : received.channel.Idle := by
  induction turns generalizing turn muxer pkt with
  | zero => cases returned
  | succ turns ih =>
    unfold recvLoop at returned
    split at returned
    · rename_i items
      cases returned
      constructor
      · intro key conn found
        rw [← Bool.not_eq_true]
        intro pending
        have member := listed (.connRx key) ⟨conn, found, pending⟩
        rw [items] at member
        cases member
      intro localPort peerPort
      rw [items]
      exact not_mem_nil
    · cases returned
      cases failed
    rename_i key rest items
    dsimp only at returned
    split at returned
    · rename_i done
      cases returned
      rw [done] at failed
      cases failed
    rename_i silent
    have passes := (recvConn_of_error scheduled silent).2
    refine ih (recvConn_scheduled scheduled items mem pkt (env turn)) ?_ ?_ returned
    · apply passes.listed items listed
      exact kept.imp (fun ok => ok turn) id
    · exact kept.imp id (passes.room items)

theorem recvLoop_unlisted {turns turn : Nat} (scheduled : muxer.Scheduled)
  (waiting : Waiting muxer.connMap item) (unlisted : item ∉ muxer.rxq.q)
  (returned : recvLoop mem env turns turn muxer pkt = some received)
  (failed : received.result = .error err) : Waiting received.channel.connMap item := by
  induction turns generalizing turn muxer pkt with
  | zero => cases returned
  | succ turns ih =>
    unfold recvLoop at returned
    split at returned
    · cases returned
      exact waiting
    · cases returned
      cases failed
    rename_i key rest items
    rw [items, mem_cons, not_or] at unlisted
    dsimp only at returned
    split at returned
    · rename_i done
      cases returned
      rw [done] at failed
      cases failed
    rename_i silent
    have passes := (recvConn_of_error scheduled silent).2
    refine ih (recvConn_scheduled scheduled items mem pkt (env turn))
      ((passes.waiting unlisted.1).mpr waiting) ?_ returned
    rcases passes.left items with left | ⟨left, _⟩
    · rw [left]
      exact unlisted.2
    rw [left, mem_append, mem_singleton, not_or]
    exact unlisted.symm

theorem Scheduled.hasPendingRx (scheduled : muxer.Scheduled) (waiting : Waiting muxer.connMap item) :
  muxer.hasPendingRx = true := by
  unfold VsockMuxer.hasPendingRx
  cases synced : muxer.rxq.synced with
  | false => simp
  | true =>
    have member := scheduled.covers synced item waiting
    have nonempty : muxer.rxq.isEmpty = false := by
      rw [SyncQueue.isEmpty, isEmpty_eq_false_iff]
      exact ne_nil_of_mem member
    rw [nonempty]
    rfl

theorem rx_scheduling (mem : GuestLayout) (cid : UInt64) (hostSock : Nat)
  (events : List MuxerEvent) (muxer : VsockMuxer)
  (reached : (new cid hostSock).run mem events = some muxer) :
  (muxer.rxq.synced = true → ∀ key conn, muxer.connMap.get? key = some conn →
    conn.hasPendingRx = true → .connRx key ∈ muxer.rxq.q) ∧
  ((∃ key conn, muxer.connMap.get? key = some conn ∧ conn.hasPendingRx = true) →
    muxer.hasPendingRx = true) ∧
  ∀ pkt env order, (∃ received, muxer.recvPkt mem pkt env order (muxerRxqSize + 1) = some received) ∧
    ∀ turns received err, muxer.recvPkt mem pkt env order turns = some received →
      received.result = .error err →
      (received.channel.Idle → (muxer.resync order).Listed) ∧
      ((muxer.resync order).Listed → (muxer.resync order).KeepsKilled env →
        received.channel.Idle) := by
  have scheduled := run_scheduled reached
  refine ⟨?_, ?_, ?_⟩
  · intro synced key conn found pending
    exact scheduled.covers synced (.connRx key) ⟨conn, found, pending⟩
  · rintro ⟨key, conn, found, pending⟩
    have waiting : Waiting muxer.connMap (.connRx key) := ⟨conn, found, pending⟩
    exact scheduled.hasPendingRx waiting
  intro pkt env order
  have asked := resync_scheduled scheduled order
  constructor
  · apply recvLoop_returns asked pkt
    have small := countP_le_length (p := unready (muxer.resync order).connMap)
      (l := (muxer.resync order).rxq.q)
    have bounded := (muxer.resync order).rxq.bounded
    omega
  intro turns received err returned failed
  constructor
  · intro idle item waiting
    by_contra unlisted
    have left := recvLoop_unlisted asked waiting unlisted returned failed
    cases item with
    | rstPkt => exact left
    | connRx key =>
      obtain ⟨conn, found, pending⟩ := left
      rw [idle.silent key conn found] at pending
      cases pending
  intro listed kept
  exact recvLoop_idle asked listed kept returned failed

theorem rx_scheduling_request : ∃ muxer received,
  (new 3 0).run Session.roomyLayout [guestSends 0 (guestPacket vsockTypeStream vsockOpRequest 5 1024)] =
    some muxer ∧
  muxer.recvPkt Session.roomyLayout (guestPacket 0 0 0 0) (recvAt 0) [] (muxerRxqSize + 1) =
    some received := by
  have runs : ((new 3 0).run Session.roomyLayout
      [guestSends 0 (guestPacket vsockTypeStream vsockOpRequest 5 1024)]).isSome = true := by
    decide +kernel
  obtain ⟨muxer, reached⟩ := Option.isSome_iff_exists.mp runs
  obtain ⟨received, returned⟩ := ((rx_scheduling _ 3 0 _ muxer reached).2.2
    (guestPacket 0 0 0 0) (recvAt 0) []).1
  exact ⟨muxer, received, reached, returned⟩

/-- All places but one are taken by resets when port 5 connects; there is none for port 6.  Then
port 5 resets its connection, and the guest takes the resets. -/
def crowded : List MuxerEvent :=
  List.replicate 255 (guestSends 0 (guestPacket 0 0 9 1024)) ++
    [guestSends 0 (guestPacket vsockTypeStream vsockOpRequest 5 1024),
      guestSends 0 (guestPacket vsockTypeStream vsockOpRequest 6 1024),
      guestSends 0 (guestPacket vsockTypeStream vsockOpRst 5 1024)] ++
    List.replicate 255 (guestAsks 0)

theorem stale_entry_hides_connection : (((new 3 0).run Session.roomyLayout crowded).bind fun muxer =>
    (muxer.recvPkt Session.roomyLayout (guestPacket 0 0 0 0) (recvAt 0) []
      (muxerRxqSize + 1)).map fun received =>
        (received.result.isOk,
          (received.channel.connMap.get? ⟨1024, 6⟩).map VsockConnection.hasPendingRx)) =
    some (false, some true) := by
  decide +kernel

end VsockMuxer

end Spacer.Vsock
