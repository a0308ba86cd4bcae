import Spacer.Lib.Counters
import Spacer.Vsock.Forward

/-! Flow control from the guest to the host. -/

namespace Spacer.Vsock

open Lib Virtio VsockConnection

structure Flow where
  conn : VsockConnection
  -- a reset was delivered, and the muxer has removed the connection
  gone : Bool
  -- the length of all data packets of the guest
  sent : Nat
  -- the headers that were delivered and that the guest did not look at yet
  inbox : List VsockPacketHeader
  -- the last header it received
  credit : Option VsockPacketHeader

inductive FlowEvent
  | rx (buffer : RxBuffer) (answer : ReadAnswer) (now : Nat)
  | tx (buffer : TxBuffer) (answer ack : WriteAnswer) (now : Nat)
  | notify (evset : EventSet) (answers : List WriteAnswer)
  | kill
  | look

namespace Flow

def opened (opening : Opening) : Flow where
  conn := VsockConnection.opened opening
  gone := false
  sent := 0
  inbox := []
  credit := none

variable (mem : GuestLayout)

def transmit (conn : VsockConnection) (buffer : TxBuffer)
  (answer ack : WriteAnswer) (now : Nat) : VsockConnection :=
  match VsockPacket.fromTxVirtqHead mem buffer.head buffer.hdr buffer.next with
  | .error _ => conn
  | .ok pkt => (conn.sendPkt mem buffer.memory pkt answer now).ackHost conn.state conn.localPort ack

def length (buffer : TxBuffer) : Nat :=
  if buffer.hdr.op = vsockOpRw then buffer.hdr.len.toNat else 0

variable (flow : Flow)

def received (conn : VsockConnection) (header : Option VsockPacketHeader) : Flow :=
  { flow with
    conn := conn
    inbox := flow.inbox ++ header.toList
    gone := header.toList.any (·.op = vsockOpRst) }

def receive (buffer : RxBuffer) (answer : ReadAnswer) (now : Nat) : Flow :=
  let turn := processRxBuffer (recvWith mem) mem flow.conn buffer (answer, now)
  flow.received turn.2 (turn.1.bind UsedPacket.header)

def look : Flow :=
  match flow.inbox with
  | [] => flow
  | hdr :: inbox => { flow with inbox := inbox, credit := some hdr }

def apply : FlowEvent → Flow
  | .rx buffer answer now => if flow.gone then flow else flow.receive mem buffer answer now
  | .tx buffer answer ack now =>
    { flow with
      sent := flow.sent + length buffer
      conn :=
        if flow.gone then flow.conn else transmit mem flow.conn buffer answer ack now }
  | .notify evset answers =>
    if flow.gone then flow else { flow with conn := flow.conn.notify evset answers }
  | .kill => if flow.gone then flow else { flow with conn := flow.conn.kill }
  | .look => flow.look

def run (events : List FlowEvent) : Flow :=
  events.foldl (apply mem) flow

def Conforms : FlowEvent → Prop
  | .tx buffer _ _ _ =>
    buffer.hdr.op = vsockOpRw → ∃ hdr, flow.credit = some hdr ∧
      (UInt32.ofNat flow.sent - hdr.fwdCnt).toNat + buffer.hdr.len.toNat ≤ hdr.bufAlloc.toNat
  | _ => True

def Conforming (mem : GuestLayout) (flow : Flow) : List FlowEvent → Prop
  | [] => True
  | event :: events => flow.Conforms event ∧ Conforming mem (flow.apply mem event) events

/-- The guest's packet gets the connection killed because the TX buffer has no room for it;
an error of the stream itself is another matter. -/
def Overflows : FlowEvent → Prop
  | .tx buffer answer _ _ =>
    flow.gone = false ∧ flow.conn.maySend = true ∧ ∃ pkt,
      VsockPacket.fromTxVirtqHead mem buffer.head buffer.hdr buffer.next = .ok pkt ∧
      pkt.hdr.op = vsockOpRw ∧
      ((flow.conn.updatePeerCredit pkt).sendBytes mem buffer.memory pkt answer).1 =
        .error (.guestMemoryMmap .txBufFull) ∧
      answer ≠ .fail .txBufFull
  | _ => False

end Flow

variable {conn other : VsockConnection}

namespace VsockConnection

variable (conn)

def Behind : Prop :=
  connTxBufSize - connCreditUpdateThreshold < conn.fwdCnt - conn.lastFwdCntToPeer

def watched : Bool :=
  match conn.state with
  | .killed => false
  | .peerClosed true true => false
  | _ => true

variable {conn}

theorem watched_of_maySend (allowed : conn.maySend = true) : conn.watched = true := by
  unfold maySend at allowed
  unfold watched
  cases state : conn.state with
  | established | localInit | peerInit | localClosed => rfl
  | peerClosed recvOff sendOff =>
    rw [state] at allowed
    cases sendOff with
    | false => cases recvOff <;> rfl
    | true => cases allowed
  | killed =>
    rw [state] at allowed
    cases allowed

theorem alive_of_maySend (allowed : conn.maySend = true) : conn.state ≠ .killed := by
  intro killed
  rw [maySend, killed] at allowed
  cases allowed

def Informed (conn : VsockConnection) : Prop :=
  conn.watched = true → conn.Behind → conn.pendingRx.contains .creditUpdate = true

theorem not_behind_of_same (same : conn.lastFwdCntToPeer = conn.fwdCnt) : ¬conn.Behind := by
  unfold Behind
  rw [same, UInt32.sub_self]
  decide

theorem informed_of_same (same : conn.lastFwdCntToPeer = conn.fwdCnt) : conn.Informed :=
  fun _ behind => absurd behind (not_behind_of_same same)

theorem informed_of_unwatched (unwatched : conn.watched = false) : conn.Informed := by
  intro watched
  rw [unwatched] at watched
  cases watched

def Near (conn : VsockConnection) : Prop :=
  (conn.fwdCnt - conn.lastFwdCntToPeer).toNat ≤ connTxBufSize.toNat

theorem peerNeedsCreditUpdate_of_behind (near : conn.Near)
  (behind : conn.Behind) : conn.peerNeedsCreditUpdate = true := by
  have size : connTxBufSize.toNat = 65536 := rfl
  have threshold : connCreditUpdateThreshold.toNat = 4096 := rfl
  have limit : (connTxBufSize - connCreditUpdateThreshold).toNat = 61440 := rfl
  unfold Behind at behind
  rw [UInt32.lt_iff_toNat_lt] at behind
  unfold peerNeedsCreditUpdate
  rw [decide_eq_true_iff, UInt32.lt_iff_toNat_lt,
    UInt32.toNat_sub_of_le _ _ (UInt32.le_iff_toNat_le.mpr near)]
  omega

theorem updateCredit_informed (near : conn.updateCredit.state ≠ .killed → conn.updateCredit.Near) :
  conn.updateCredit.Informed := by
  by_cases needs : conn.peerNeedsCreditUpdate = true
  · intro _ _
    rw [updateCredit, if_pos needs]
    rfl
  have same : conn.updateCredit = conn := by rw [updateCredit, if_neg needs]
  rw [same] at near ⊢
  by_cases killed : conn.state = .killed
  · apply informed_of_unwatched
    rw [watched, killed]
  intro _ behind
  exact absurd (peerNeedsCreditUpdate_of_behind (near killed) behind) needs

theorem Informed.congr (informed : conn.Informed) (watched : other.watched = true → conn.watched = true)
  (fwdCnt : other.fwdCnt = conn.fwdCnt) (last : other.lastFwdCntToPeer = conn.lastFwdCntToPeer)
  (pending : conn.pendingRx.contains .creditUpdate = true → other.pendingRx.contains .creditUpdate = true) :
  other.Informed := by
  intro still behind
  apply pending
  apply informed (watched still)
  unfold Behind at behind ⊢
  rw [← fwdCnt, ← last]
  exact behind

theorem Proceeds.doomed (proceeds : conn.Proceeds other)
  (doomed : conn.state = .killed → conn.pendingRx.contains .rst = true)
  (killed : other.state = .killed) : other.pendingRx.contains .rst = true := by
  rcases proceeds.state with same | ⟨_, pending⟩
  · exact proceeds.pending.kept .rst (doomed (same.symm.trans killed))
  · exact pending

theorem Controls.informed (controls : conn.Controls now other) (informed : conn.Informed) :
  other.Informed := by
  cases controls with
  | ignored => exact informed
  | answered init =>
    refine informed.congr ?_ rfl rfl id
    intro _
    rw [watched, init]
  | closing recvOff sendOff opened =>
    refine informed.congr ?_ rfl rfl id
    intro still
    rcases opened with established | ⟨recvOff', sendOff', closed, recv, send⟩
    · rw [watched, established]
    rw [watched, closed]
    cases recvOff' with
    | false => rfl
    | true =>
      cases sendOff' with
      | false => rfl
      | true =>
        rw [recv rfl, send rfl] at still
        cases still
  | drained | lingering => exact informed_of_unwatched rfl
  | creditUpdate =>
    intro _ _
    simp [insertRx, PendingRxSet.insert]

theorem Controls.killed (controls : conn.Controls now other) :
  other.state = .killed ↔ conn.state = .killed := by
  cases controls with
  | ignored | creditUpdate => exact Iff.rfl
  | answered init => simp [init]
  | closing recvOff sendOff opened =>
    rcases opened with established | ⟨_, _, closed, _⟩
    · simp [established]
    · simp [closed]
  | drained opened =>
    rcases opened with established | ⟨_, _, closed⟩
    · simp [established, insertRx]
    · simp [closed, insertRx]
  | lingering established => simp [established]

end VsockConnection

def Grants (hdr : VsockPacketHeader) (mark : Nat) : Prop :=
  hdr.fwdCnt = UInt32.ofNat mark ∧ hdr.bufAlloc = connTxBufSize

/-- Headers in the order of their marks, from `low` up to what the guest was told last. -/
def Marked (told : Nat) : Nat → List VsockPacketHeader → Prop
  | low, [] => low ≤ told
  | low, hdr :: hdrs => ∃ mark, low ≤ mark ∧ Grants hdr mark ∧ Marked told mark hdrs

variable (marked : Marked told low hdrs)
include marked

theorem Marked.low_le : low ≤ told := by
  induction hdrs generalizing low with
  | nil => exact marked
  | cons hdr hdrs ih =>
    obtain ⟨mark, above, _, rest⟩ := marked
    exact Nat.le_trans above (ih rest)

theorem Marked.mono (later : told ≤ told') : Marked told' low hdrs := by
  induction hdrs generalizing low with
  | nil => exact Nat.le_trans marked later
  | cons hdr hdrs ih =>
    obtain ⟨mark, above, grants, rest⟩ := marked
    exact ⟨mark, above, grants, ih rest⟩

theorem Marked.append (later : told ≤ told')
  (grants : Grants hdr told') : Marked told' low (hdrs ++ [hdr]) := by
  induction hdrs generalizing low with
  | nil => exact ⟨told', Nat.le_trans marked later, grants, Nat.le_refl _⟩
  | cons first hdrs ih =>
    obtain ⟨mark, above, grants', rest⟩ := marked
    exact ⟨mark, above, grants', ih rest⟩

omit marked

def View (sent told : Nat) (inbox : List VsockPacketHeader) : Option VsockPacketHeader → Prop
  | none => sent = 0 ∧ Marked told 0 inbox
  | some hdr => ∃ mark, Grants hdr mark ∧ sent ≤ mark + TxBuf.size ∧ Marked told mark inbox

theorem View.near (view : View sent told inbox credit) : sent ≤ told + TxBuf.size := by
  cases credit with
  | none =>
    have zero := view.1
    omega
  | some hdr =>
    obtain ⟨mark, _, within, marked⟩ := view
    have := marked.low_le
    omega

theorem View.change (view : View sent told inbox credit)
  (marks : ∀ low, Marked told low inbox → Marked told' low inbox') : View sent told' inbox' credit := by
  cases credit with
  | none => exact ⟨view.1, marks 0 view.2⟩
  | some hdr =>
    obtain ⟨mark, grants, within, marked⟩ := view
    exact ⟨mark, grants, within, marks mark marked⟩

theorem View.look (view : View sent told (hdr :: inbox) credit) : View sent told inbox (some hdr) := by
  cases credit with
  | none =>
    obtain ⟨zero, mark, _, grants, marked⟩ := view
    exact ⟨mark, grants, by omega, marked⟩
  | some last =>
    obtain ⟨low, _, within, mark, above, grants, marked⟩ := view
    exact ⟨mark, grants, by omega, marked⟩

theorem View.send (view : View sent told inbox (some hdr)) (order : told ≤ sent)
  (fits : (UInt32.ofNat sent - hdr.fwdCnt).toNat + len ≤ hdr.bufAlloc.toNat) :
  View (sent + len) told inbox (some hdr) := by
  obtain ⟨mark, grants, within, marked⟩ := view
  have low := marked.low_le
  have size : TxBuf.size = 65536 := rfl
  have granted : connTxBufSize.toNat = 65536 := rfl
  rw [grants.1, grants.2, distance_words32 (by omega) (by omega)] at fits
  exact ⟨mark, grants, by omega, marked⟩

/-- The counters of both sides, before they wrap: the guest was told of no more than was
forwarded, and what was forwarded and what waits was sent. -/
structure Accounts (conn : VsockConnection) (sent : Nat) (inbox : List VsockPacketHeader)
  (credit : Option VsockPacketHeader) (forwarded told : Nat) : Prop where
  fwdCnt : conn.fwdCnt = UInt32.ofNat forwarded
  last : conn.lastFwdCntToPeer = UInt32.ofNat told
  order : told ≤ forwarded
  waiting : forwarded + conn.txBuf.len ≤ sent
  view : View sent told inbox credit
  -- the opening packet is the first
  response : conn.pendingRx.contains .response = true →
    conn.pendingRx.contains .request = false ∧ credit = none ∧ inbox = []
  request : conn.pendingRx.contains .request = true → credit = none ∧ inbox = []

section

variable (accounts : Accounts conn sent inbox credit forwarded told)
include accounts

theorem Accounts.near : conn.Near := by
  have size : TxBuf.size = 65536 := rfl
  have granted : connTxBufSize.toNat = 65536 := rfl
  have order := accounts.order
  have waiting := accounts.waiting
  have near := accounts.view.near
  rw [Near, accounts.fwdCnt, accounts.last, distance_words32 order (by omega)]
  omega

theorem Accounts.forwards (forwards : conn.Forwards other bytes) (last : other.lastFwdCntToPeer = conn.lastFwdCntToPeer)
  (grows : Grows conn.pendingRx other.pendingRx) (view : View sent' told inbox credit)
  (more : sent + bytes.length ≤ sent') :
  ∃ forwarded', Accounts other sent' inbox credit forwarded' told := by
  obtain ⟨accepted, _, waits, counts⟩ := forwards
  have lengths := congrArg List.length waits
  simp only [List.length_append, TxBuf.contents_length] at lengths
  have order := accounts.order
  have waiting := accounts.waiting
  refine ⟨forwarded + accepted.length, ?_, last.trans accounts.last, by omega, by omega, view,
    ?_, ?_⟩
  · rw [counts, accounts.fwdCnt, UInt32.ofNat_add]
  · rw [grows.response, grows.request]
    exact accounts.response
  rw [grows.request]
  exact accounts.request

theorem Accounts.tell {base : VsockConnection} (settled : base.Settled)
  (pending : other.pendingRx = base.pendingRx) (fwdCnt : other.fwdCnt = conn.fwdCnt)
  (last : other.lastFwdCntToPeer = conn.fwdCnt) (txBuf : other.txBuf = conn.txBuf)
  (grants : ∀ hdr, header = some hdr → Grants hdr forwarded) :
  Accounts other sent (inbox ++ header.toList) credit forwarded forwarded := by
  refine ⟨fwdCnt.trans accounts.fwdCnt, last.trans accounts.fwdCnt, Nat.le_refl _, ?_, ?_, ?_, ?_⟩
  · rw [txBuf]
    exact accounts.waiting
  · apply accounts.view.change
    intro low marked
    cases header with
    | none =>
      rw [Option.toList_none, List.append_nil]
      exact marked.mono accounts.order
    | some hdr => exact marked.append accounts.order (grants hdr rfl)
  · rw [pending, settled.noResponse]
    exact nofun
  rw [pending, settled.noRequest]
  exact nofun

theorem Accounts.open (fresh : credit = none ∧ inbox = []) (fwdCnt : other.fwdCnt = conn.fwdCnt)
  (last : other.lastFwdCntToPeer = conn.lastFwdCntToPeer) (txBuf : other.txBuf = conn.txBuf)
  (noResponse : other.pendingRx.contains .response = false)
  (noRequest : other.pendingRx.contains .request = false)
  (fills : hdr.fwdCnt = conn.fwdCnt ∧ hdr.bufAlloc = connTxBufSize) :
  conn.lastFwdCntToPeer = conn.fwdCnt ∧ Accounts other sent (inbox ++ [hdr]) credit forwarded told := by
  obtain ⟨rfl, rfl⟩ := fresh
  have order := accounts.order
  have waiting := accounts.waiting
  have zero := accounts.view.1
  have same : told = forwarded := by omega
  refine ⟨by rw [accounts.last, accounts.fwdCnt, same], ?_⟩
  refine ⟨fwdCnt.trans accounts.fwdCnt, last.trans accounts.last, order, ?_, ?_, ?_, ?_⟩
  · rw [txBuf]
    exact waiting
  · have granted : Grants hdr told := ⟨by rw [fills.1, accounts.fwdCnt, same], fills.2⟩
    exact ⟨zero, accounts.view.2.append (Nat.le_refl _) granted⟩
  · rw [noResponse]
    exact nofun
  rw [noRequest]
  exact nofun

omit accounts

end

variable {flow : Flow}

namespace Flow

structure Sound (conn : VsockConnection) (sent : Nat) (inbox : List VsockPacketHeader)
  (credit : Option VsockPacketHeader) : Prop where
  accounts : conn.state ≠ .killed → ∃ forwarded told, Accounts conn sent inbox credit forwarded told
  -- the next packet of a killed connection is a reset
  doomed : conn.state = .killed → conn.pendingRx.contains .rst = true
  informed : conn.Informed

structure Inv (flow : Flow) : Prop where
  sound : flow.gone = false → Sound flow.conn flow.sent flow.inbox flow.credit
  informed : flow.conn.Informed

theorem Inv.accounts (inv : flow.Inv) (present : flow.gone = false) (alive : flow.conn.state ≠ .killed) :
  ∃ forwarded told, Accounts flow.conn flow.sent flow.inbox flow.credit forwarded told :=
  (inv.sound present).accounts alive

theorem Inv.living (inv : flow.Inv) (present : flow.gone = false)
  (noRst : flow.conn.pendingRx.contains .rst = false) : flow.conn.state ≠ .killed := by
  intro killed
  rw [(inv.sound present).doomed killed] at noRst
  cases noRst

theorem inv_of_sound (sound : Sound flow.conn flow.sent flow.inbox flow.credit) : flow.Inv :=
  ⟨fun _ => sound, sound.informed⟩

theorem opened_inv (opening : Opening) : (opened opening).Inv := by
  have empty : 0 + TxBuf.new.len ≤ 0 := by rw [TxBuf.len_new]
  refine inv_of_sound ⟨?_, ?_, ?_⟩
  · intro _
    refine ⟨0, 0, ?_⟩
    cases opening with
    | peerInit =>
      exact ⟨rfl, rfl, Nat.le_refl _, empty, ⟨rfl, Nat.le_refl _⟩, fun _ => ⟨rfl, rfl, rfl⟩,
        fun _ => ⟨rfl, rfl⟩⟩
    | localInit =>
      exact ⟨rfl, rfl, Nat.le_refl _, empty, ⟨rfl, Nat.le_refl _⟩, (nofun), fun _ => ⟨rfl, rfl⟩⟩
  · intro killed
    cases opening <;> cases killed
  apply informed_of_same
  cases opening <;> rfl

theorem received_reset (reset : hdr.op = vsockOpRst) (informed : conn.Informed) :
  (flow.received conn (some hdr)).Inv := by
  have gone : (flow.received conn (some hdr)).gone = true := by simp [received, reset]
  refine ⟨?_, informed⟩
  intro present
  rw [gone] at present
  cases present

theorem received_open (inv : flow.Inv) (present : flow.gone = false) (alive : flow.conn.state ≠ .killed)
  (pending : flow.conn.pendingRx.contains .response = true ∨ flow.conn.pendingRx.contains .request = true)
  (state : conn.state ≠ .killed) (fwdCnt : conn.fwdCnt = flow.conn.fwdCnt)
  (last : conn.lastFwdCntToPeer = flow.conn.lastFwdCntToPeer) (txBuf : conn.txBuf = flow.conn.txBuf)
  (noResponse : conn.pendingRx.contains .response = false)
  (noRequest : conn.pendingRx.contains .request = false)
  (fills : hdr.fwdCnt = flow.conn.fwdCnt ∧ hdr.bufAlloc = connTxBufSize) :
  (flow.received conn (some hdr)).Inv := by
  obtain ⟨forwarded, told, accounts⟩ := inv.accounts present alive
  have fresh : flow.credit = none ∧ flow.inbox = [] := by
    rcases pending with response | request
    · exact (accounts.response response).2
    · exact accounts.request request
  obtain ⟨same, after⟩ := accounts.open fresh fwdCnt last txBuf noResponse noRequest fills
  refine inv_of_sound ⟨?_, ?_, ?_⟩
  · intro _
    exact ⟨forwarded, told, after⟩
  · intro killed
    exact absurd killed state
  · exact informed_of_same (last.trans (same.trans fwdCnt.symm))

def committed (mem : GuestLayout) (index : UInt16) (result : Received VsockConnection) :
  Option VsockPacketHeader :=
  match result.result with
  | .error _ => none
  | .ok () => (commitUsed mem index result).header

theorem committed_filled {pkt : VsockPacket} (index : UInt16)
  (inside : checkRange mem pkt.hdrAddr vsockPktHdrSize = true) (empty : pkt.hdr.len = 0) :
  committed mem index (conn.filled (pkt.setOp op)) = some (pkt.setOp op).hdr := by
  have empty' : (pkt.setOp op).hdr.len = 0 := empty
  simp only [committed, filled, commitUsed]
  rw [commitHdr_eq (by exact inside), empty']
  rfl

theorem committed_some (found : committed mem index result = some hdr) : hdr = result.pkt.hdr := by
  unfold committed at found
  split at found
  · cases found
  unfold commitUsed VsockPacket.commitHdr at found
  split at found
  · rename_i done
    obtain ⟨_, _, rest⟩ := ok_of_bind done
    split at rest
    · cases rest
      cases found
      rfl
    · cases rest
  · cases found

theorem received_told {result : Received VsockConnection} {base : VsockConnection} (inv : flow.Inv)
  (present : flow.gone = false) (settled : flow.conn.Settled) (settled' : base.Settled)
  (pending : result.channel.pendingRx = base.pendingRx)
  (state : result.channel.state = flow.conn.state ∨ result.channel.state = .localClosed)
  (fwdCnt : result.channel.fwdCnt = flow.conn.fwdCnt)
  (last : result.channel.lastFwdCntToPeer = flow.conn.fwdCnt)
  (txBuf : result.channel.txBuf = flow.conn.txBuf)
  (fills : result.pkt.hdr.fwdCnt = flow.conn.fwdCnt ∧ result.pkt.hdr.bufAlloc = connTxBufSize)
  (index : UInt16) : (flow.received result.channel (committed mem index result)).Inv := by
  have alive := inv.living present settled.noRst
  obtain ⟨forwarded, told, accounts⟩ := inv.accounts present alive
  refine inv_of_sound ⟨?_, ?_, ?_⟩
  · intro _
    refine ⟨forwarded, forwarded, accounts.tell settled' pending fwdCnt last txBuf ?_⟩
    intro hdr found
    rw [committed_some found]
    exact ⟨fills.1.trans accounts.fwdCnt, fills.2⟩
  · intro killed
    rcases state with same | closed
    · exact absurd (same.symm.trans killed) alive
    · cases closed.symm.trans killed
  · exact informed_of_same (last.trans fwdCnt.symm)

theorem receives_inv (receives : flow.conn.Receives pkt now result) (inv : flow.Inv)
  (present : flow.gone = false)
  (fills : pkt.hdr.fwdCnt = flow.conn.fwdCnt ∧ pkt.hdr.bufAlloc = connTxBufSize)
  (empty : pkt.hdr.len = 0) (inside : checkRange mem pkt.hdrAddr vsockPktHdrSize = true)
  (index : UInt16) : (flow.received result.channel (committed mem index result)).Inv := by
  have removed (it : PendingRx) (other : it ≠ .creditUpdate) : (flow.conn.removeRx it).Informed := by
    refine inv.informed.congr id rfl rfl ?_
    intro pending
    simp [removeRx, PendingRxSet.remove, pending, other.symm]
  cases receives with
  | reset pending =>
    rw [committed_filled index inside empty]
    exact received_reset rfl (removed .rst (by decide))
  | response noRst pending =>
    rw [committed_filled index inside empty]
    obtain ⟨forwarded, before, accounts⟩ := inv.accounts present (inv.living present noRst)
    refine received_open inv present (inv.living present noRst) (.inl pending) (ConnState.noConfusion ·) rfl rfl rfl ?_ ?_ fills
    · simp [filled, removeRx, PendingRxSet.remove]
    · simp [filled, removeRx, PendingRxSet.remove, (accounts.response pending).1]
  | request noRst noResponse pending =>
    rw [committed_filled index inside empty]
    refine received_open inv present (inv.living present noRst) (.inr pending) (inv.living present noRst) rfl rfl rfl ?_ ?_ fills
    · simp [filled, removeRx, PendingRxSet.remove, noResponse]
    · simp [filled, removeRx, PendingRxSet.remove]
  | refused settled pending closed =>
    rw [committed_filled index inside empty]
    exact received_reset rfl (removed .rw (by decide))
  | starved settled | data settled =>
    exact received_told inv present settled (removeRx_settled settled .rw) rfl (.inl rfl) rfl rfl rfl fills index
  | eof settled pending readable =>
    exact received_told inv present settled (removeRx_settled settled .rw) rfl (.inr rfl) rfl rfl rfl fills index
  | failed settled pending readable =>
    rw [committed_filled index inside empty]
    exact received_reset rfl (informed_of_same rfl)
  | creditUpdate settled pending =>
    exact received_told inv present settled (removeRx_settled (removeRx_settled settled .rw) .creditUpdate)
      rfl (.inl rfl) rfl rfl rfl fills index
  | noData settled noCredit =>
    have settled' := removeRx_settled settled .rw
    obtain ⟨forwarded, before, accounts⟩ := inv.accounts present (inv.living present settled.noRst)
    refine inv_of_sound ⟨?_, ?_, removed .rw (by decide)⟩
    · intro _
      refine ⟨forwarded, before, accounts.fwdCnt, accounts.last, accounts.order,
        accounts.waiting, ?_, ?_, ?_⟩
      · change View flow.sent before (flow.inbox ++ []) flow.credit
        rw [List.append_nil]
        exact accounts.view
      · intro response
        exact absurd response ((Bool.not_eq_true _).mpr settled'.noResponse)
      intro request
      exact absurd request ((Bool.not_eq_true _).mpr settled'.noRequest)
    intro killed
    exact absurd killed (inv.living present settled.noRst)

theorem received_nothing (present : flow.gone = false) : flow.received flow.conn none = flow := by
  unfold received
  rw [Option.toList_none, List.append_nil, List.any_nil, ← present]

theorem receive_inv (inv : flow.Inv) (present : flow.gone = false) (mem : GuestLayout) (buffer : RxBuffer)
  (answer : ReadAnswer) (now : Nat) : (flow.receive mem buffer answer now).Inv := by
  unfold receive processRxBuffer
  cases accepted : VsockPacket.fromRxVirtqHead mem buffer.head buffer.next with
  | error err =>
    change (flow.received flow.conn none).Inv
    rw [received_nothing present]
    exact inv
  | ok pkt =>
    obtain ⟨inside, fresh⟩ := fromRxVirtqHead_ok accepted
    have empty : pkt.hdr.len = 0 := by rw [fresh]; rfl
    have receives := flow.conn.recvPkt_receives mem pkt answer now
    have after := receives_inv receives inv present ⟨rfl, rfl⟩ empty inside buffer.head.index
    unfold committed at after
    dsimp only [recvWith]
    cases outcome : (flow.conn.recvPkt mem pkt answer now).result with
    | error | ok =>
      rw [outcome] at after
      exact after

section

variable {pkt : VsockPacket}

theorem pushBytes_full
  (full : (conn.pushBytes mem memory pkt offset count).1 = .error (.guestMemoryMmap .txBufFull)) :
  TxBuf.size < conn.txBuf.len + count := by
  unfold pushBytes VsockPacket.writeFromOffsetTo at full
  cases place : pkt.bufRegionAddr mem offset count with
  | error err =>
    rw [place] at full
    cases full
    exact absurd place bufRegionAddr_error
  | ok addr =>
    rw [place] at full
    unfold TxBuf.write at full
    cases pushed : conn.txBuf.push (load memory addr count) with
    | ok txBuf =>
      simp only [pushed] at full
      cases full
    | error err =>
      have large := TxBuf.push_error pushed
      rw [load_length] at large
      exact large

theorem pushRest_full
  (full : (conn.pushRest mem memory pkt written len).1 = .error (.guestMemoryMmap .txBufFull)) :
  TxBuf.size < conn.txBuf.len + len := by
  unfold pushRest at full
  split at full
  · have large := pushBytes_full full
    dsimp only at large
    omega
  · cases full

theorem writeStream_full {stream : Stream}
  (full : (pkt.writeFromOffsetTo (Stream.write answer) mem memory 0 stream count).1 =
    .error (.guestMemoryMmap .txBufFull)) : answer = .fail .txBufFull := by
  unfold VsockPacket.writeFromOffsetTo at full
  split at full
  · rename_i place
    cases full
    exact absurd place bufRegionAddr_error
  cases answer with
  | accept count => cases full
  | fail err =>
    cases full
    rfl

theorem sendBytes_full
  (full : (conn.sendBytes mem memory pkt answer).1 = .error (.guestMemoryMmap .txBufFull)) :
  answer = .fail .txBufFull ∨ TxBuf.size < conn.txBuf.len + pkt.hdr.len.toNat := by
  have rest {stream : Stream} {written : Nat}
      (full : ({ conn with stream := stream }.pushRest mem memory pkt written
        pkt.hdr.len.toNat).1 = .error (.guestMemoryMmap .txBufFull)) :
      TxBuf.size < conn.txBuf.len + pkt.hdr.len.toNat := by
    have large := pushRest_full full
    exact large
  unfold sendBytes at full
  dsimp only at full
  split at full
  · exact .inr (pushBytes_full full)
  split at full
  · exact .inr (rest full)
  · rename_i err wrote
    cases full
    exact .inl (writeStream_full wrote)
  · exact .inr (rest full)

theorem fromTxVirtqHead_hdr (accepted : VsockPacket.fromTxVirtqHead mem head hdr next = .ok pkt) :
  pkt.hdr = hdr := by
  obtain ⟨_, _, rest⟩ := ok_of_bind accepted
  split at rest
  · cases rest
  dsimp only at rest
  split at rest
  · cases rest
    rfl
  obtain ⟨_, _, rest⟩ := ok_of_bind rest
  obtain ⟨filled, init, rest⟩ := ok_of_bind rest
  split at rest
  · cases rest
  cases rest
  obtain ⟨addr, size, rfl⟩ := initBuf_ok init
  rfl

variable {sent sent' : Nat} {inbox : List VsockPacketHeader} {credit : Option VsockPacketHeader}

theorem sendRw_informed (informed : conn.Informed)
  (near : (conn.sendRw mem memory pkt answer).state ≠ .killed → (conn.sendRw mem memory pkt answer).Near) :
  (conn.sendRw mem memory pkt answer).Informed := by
  unfold sendRw at near ⊢
  split at near
  · rename_i none
    rw [if_pos none]
    exact informed
  rename_i some
  rw [if_neg some]
  split at near
  · exact informed_of_unwatched rfl
  · exact updateCredit_informed near

theorem Accounts.grow (accounts : Accounts conn sent inbox credit forwarded told)
  (fits : buffer.hdr.op = vsockOpRw → ∃ hdr, credit = some hdr ∧
    (UInt32.ofNat sent - hdr.fwdCnt).toNat + buffer.hdr.len.toNat ≤ hdr.bufAlloc.toNat) :
  View (sent + length buffer) told inbox credit := by
  unfold length
  split
  · rename_i data
    obtain ⟨hdr, rfl, small⟩ := fits data
    have order := accounts.order
    have waiting := accounts.waiting
    exact accounts.view.send (by omega) small
  · exact accounts.view

variable (sound : Sound conn sent inbox credit)
include sound

theorem ackHost_sound (localPort : UInt32) :
  Sound (conn.ackHost prevState localPort answer) sent inbox credit := by
  have proceeds := conn.ackHost_proceeds prevState localPort answer
  rcases conn.ackHost_cases prevState localPort answer with killed | same | ⟨_, taken, same⟩
  · refine ⟨fun alive => absurd killed alive, proceeds.doomed sound.doomed, ?_⟩
    apply informed_of_unwatched
    rw [watched, killed]
  · rw [same]
    exact sound
  rw [same]
  refine ⟨?_, sound.doomed, sound.informed⟩
  intro alive
  obtain ⟨forwarded, told, accounts⟩ := sound.accounts alive
  exact ⟨forwarded, told, { accounts with }⟩

theorem sendRw_sound (alive : conn.state ≠ .killed) (answer : WriteAnswer)
  (sized : pkt.bufSize = 0 → pkt.data memory = []) (more : sent + (pkt.data memory).length ≤ sent')
  (view : ∀ forwarded told, Accounts conn sent inbox credit forwarded told → View sent' told inbox credit) :
  Sound (conn.sendRw mem memory pkt answer) sent' inbox credit := by
  have proceeds := conn.sendRw_proceeds mem memory pkt answer
  obtain ⟨forwarded, told, accounts⟩ := sound.accounts alive
  have kept (alive' : (conn.sendRw mem memory pkt answer).state ≠ .killed) :
      ∃ forwarded', Accounts (conn.sendRw mem memory pkt answer) sent' inbox credit forwarded'
        told :=
    accounts.forwards ((sendRw_forwards conn answer sized).resolve_left alive')
      proceeds.lastFwdCntToPeer proceeds.pending (view _ _ accounts) more
  refine ⟨?_, proceeds.doomed sound.doomed, ?_⟩
  · intro alive'
    obtain ⟨forwarded', accounts'⟩ := kept alive'
    exact ⟨forwarded', told, accounts'⟩
  apply sendRw_informed sound.informed
  intro alive'
  obtain ⟨forwarded', accounts'⟩ := kept alive'
  exact accounts'.near

theorem sendControl_sound (now : Nat) (more : sent ≤ sent')
  (view : ∀ forwarded told, Accounts conn sent inbox credit forwarded told → View sent' told inbox credit) :
  Sound (conn.sendControl pkt now) sent' inbox credit := by
  have controls := conn.sendControl_controls pkt now
  have same := conn.sendControl_same pkt now
  refine ⟨?_, ?_, controls.informed sound.informed⟩
  · intro alive
    obtain ⟨forwarded, told, accounts⟩ :=
      sound.accounts fun killed => alive (controls.killed.mpr killed)
    obtain ⟨forwarded', accounts'⟩ := accounts.forwards same.forwards same.lastFwdCntToPeer
      controls.grows (view _ _ accounts) more
    exact ⟨forwarded', told, accounts'⟩
  intro killed
  exact controls.grows.kept .rst (sound.doomed (controls.killed.mp killed))

theorem updatePeerCredit_sound (pkt : VsockPacket) :
  Sound (conn.updatePeerCredit pkt) sent inbox credit := by
  refine ⟨?_, sound.doomed, sound.informed⟩
  intro alive
  obtain ⟨forwarded, told, accounts⟩ := sound.accounts alive
  exact ⟨forwarded, told, { accounts with }⟩

theorem transmit_sound (fits : buffer.hdr.op = vsockOpRw → ∃ hdr, credit = some hdr ∧
    (UInt32.ofNat sent - hdr.fwdCnt).toNat + buffer.hdr.len.toNat ≤ hdr.bufAlloc.toNat)
  (answer ack : WriteAnswer) (now : Nat) :
  Sound (transmit mem conn buffer answer ack now) (sent + length buffer) inbox credit := by
  unfold transmit
  split
  · refine ⟨?_, sound.doomed, sound.informed⟩
    intro alive
    obtain ⟨forwarded, told, accounts⟩ := sound.accounts alive
    exact ⟨forwarded, told, { accounts with
      waiting := Nat.le_trans accounts.waiting (Nat.le_add_right _ _), view := Accounts.grow accounts fits }⟩
  rename_i pkt accepted
  have same := fromTxVirtqHead_hdr accepted
  have before := updatePeerCredit_sound sound pkt
  apply ackHost_sound
  unfold sendPkt
  dsimp only
  split
  · rename_i data
    rw [Bool.and_eq_true, decide_eq_true_iff] at data
    apply sendRw_sound before (alive_of_maySend data.1) answer (fromTxVirtqHead_data accepted)
    · have short : (pkt.data buffer.memory).length ≤ pkt.hdr.len.toNat := data_length_le
      rw [length, ← same, if_pos data.2]
      omega
    intro forwarded told accounts
    exact Accounts.grow accounts fits
  apply sendControl_sound before now (Nat.le_add_right _ _)
  intro forwarded told accounts
  exact Accounts.grow accounts fits

omit sound

theorem notifyWritable_informed (informed : conn.Informed)
  (near : (conn.notifyWritable answers).state ≠ .killed → (conn.notifyWritable answers).Near) :
  (conn.notifyWritable answers).Informed := by
  unfold notifyWritable at near ⊢
  dsimp only at near ⊢
  split at near
  · rename_i empty
    rw [if_pos empty]
    exact informed
  rename_i waits
  rw [if_neg waits]
  split at near
  · rename_i drained
    rw [if_pos drained]
    rw [Bool.and_eq_true, decide_eq_true_iff] at drained
    apply informed_of_unwatched
    rw [watched, insertRx, drained.1]
  rename_i more
  rw [if_neg more]
  exact updateCredit_informed near

theorem notifyWritable_sound (sound : Sound conn sent inbox credit)
  (answers : List WriteAnswer) : Sound (conn.notifyWritable answers) sent inbox credit := by
  have proceeds := conn.notifyWritable_proceeds answers
  have kept (alive : (conn.notifyWritable answers).state ≠ .killed) :
      ∃ forwarded told, Accounts (conn.notifyWritable answers) sent inbox credit forwarded
        told := by
    have before : conn.state ≠ .killed := by
      intro killed
      rcases proceeds.state with same | ⟨killed', _⟩
      · exact alive (same.trans killed)
      · exact alive killed'
    obtain ⟨forwarded, told, accounts⟩ := sound.accounts before
    obtain ⟨forwarded', accounts'⟩ :=
      accounts.forwards ((notifyWritable_forwards conn answers).resolve_left alive)
        proceeds.lastFwdCntToPeer proceeds.pending accounts.view (Nat.le_refl _)
    exact ⟨forwarded', told, accounts'⟩
  refine ⟨kept, proceeds.doomed sound.doomed, ?_⟩
  apply notifyWritable_informed sound.informed
  intro alive
  obtain ⟨forwarded, told, accounts⟩ := kept alive
  exact accounts.near

theorem notify_sound (sound : Sound conn sent inbox credit) (evset : EventSet)
  (answers : List WriteAnswer) : Sound (conn.notify evset answers) sent inbox credit := by
  have readable : Sound (if evset.readable then conn.insertRx .rw else conn) sent inbox
      credit := by
    split
    · refine ⟨?_, ?_, ?_⟩
      · intro alive
        obtain ⟨forwarded, told, accounts⟩ := sound.accounts alive
        obtain ⟨forwarded', accounts'⟩ := accounts.forwards (insertRx_same conn .rw).forwards rfl
          (insert_grows _ (by decide)) accounts.view (Nat.le_refl _)
        exact ⟨forwarded', told, accounts'⟩
      · exact (insertRx_proceeds conn (by decide)).doomed sound.doomed
      refine sound.informed.congr id rfl rfl ?_
      exact (insert_grows _ (by decide)).kept .creditUpdate
    · exact sound
  unfold notify
  dsimp only
  split
  · exact notifyWritable_sound readable answers
  · exact readable

theorem kill_sound (conn : VsockConnection) : Sound conn.kill sent inbox credit :=
  ⟨fun alive => absurd rfl alive, fun _ => kill_rst conn, informed_of_unwatched rfl⟩

end

theorem look_inv (inv : flow.Inv) : flow.look.Inv := by
  unfold look
  split
  · exact inv
  rename_i hdr inbox waiting
  refine ⟨?_, inv.informed⟩
  intro present
  have sound := inv.sound present
  refine ⟨?_, sound.doomed, sound.informed⟩
  intro alive
  obtain ⟨forwarded, told, accounts⟩ := sound.accounts alive
  rw [waiting] at accounts
  refine ⟨forwarded, told, accounts.fwdCnt, accounts.last, accounts.order, accounts.waiting,
    accounts.view.look, ?_, ?_⟩
  · intro response
    cases (accounts.response response).2.2
  intro request
  cases (accounts.request request).2

theorem apply_inv (inv : flow.Inv) (conforms : flow.Conforms event) : (flow.apply mem event).Inv := by
  cases gone : flow.gone with
  | true =>
    cases event with
    | look => exact look_inv inv
    | tx buffer answer ack now =>
      refine ⟨?_, by simpa [apply, gone] using inv.informed⟩
      intro present
      cases gone.symm.trans present
    | rx | notify | kill => simpa [apply, gone] using inv
  | false =>
    have sound := inv.sound gone
    unfold apply
    simp only [gone]
    cases event with
    | rx buffer answer now => exact receive_inv inv gone mem buffer answer now
    | tx buffer answer ack now => exact inv_of_sound (transmit_sound sound conforms answer ack now)
    | notify evset answers => exact inv_of_sound (notify_sound sound evset answers)
    | kill => exact inv_of_sound (kill_sound flow.conn)
    | look => exact look_inv inv

theorem run_inv (inv : flow.Inv) (conforming : flow.Conforming mem events) : (flow.run mem events).Inv := by
  induction events generalizing flow with
  | nil => exact inv
  | cons event events ih => exact ih (apply_inv inv conforming.1) conforming.2

theorem Conforming.split (conforming : flow.Conforming mem (before ++ event :: after)) :
  flow.Conforming mem before ∧ (flow.run mem before).Conforms event := by
  induction before generalizing flow with
  | nil => exact ⟨trivial, conforming.1⟩
  | cons first before ih =>
    obtain ⟨now, later⟩ := ih conforming.2
    exact ⟨⟨conforming.1, now⟩, later⟩

theorem not_overflows (inv : flow.Inv) (conforms : flow.Conforms event) : ¬flow.Overflows mem event := by
  cases event with
  | tx buffer answer ack now =>
    rintro ⟨present, allowed, pkt, accepted, data, full, other⟩
    have same := fromTxVirtqHead_hdr accepted
    obtain ⟨forwarded, told, accounts⟩ := inv.accounts present (alive_of_maySend allowed)
    rcases sendBytes_full full with own | large
    · exact other own
    have order := accounts.order
    have waiting := accounts.waiting
    have near := (Accounts.grow accounts conforms).near
    change TxBuf.size < flow.conn.txBuf.len + _ at large
    rw [length, ← same, if_pos data] at near
    omega
  | rx | notify | kill | look => exact id

/-- A guest that stays within the credit of the last header it received never gets its
connection killed for a full buffer, and whenever its view of the free space has dropped below
the threshold while it may send, a credit update is pending. -/
theorem conforming_guest_served (mem : GuestLayout) (opening : Opening)
  (events : List FlowEvent) (conforming : Conforming mem (opened opening) events) :
  (∀ before event after, events = before ++ event :: after →
    ¬(run mem (opened opening) before).Overflows mem event) ∧
  ((run mem (opened opening) events).conn.maySend = true → (run mem (opened opening) events).conn.Behind →
    (run mem (opened opening) events).conn.pendingRx.contains .creditUpdate = true) := by
  constructor
  · rintro before event after rfl
    obtain ⟨earlier, conforms⟩ := conforming.split
    exact not_overflows (run_inv (opened_inv opening) earlier) conforms
  intro allowed behind
  exact (run_inv (opened_inv opening) conforming).informed (watched_of_maySend allowed) behind

def shortSend : List FlowEvent :=
  [.rx (Session.roomyBuffer 1) (.fail .wouldBlock) 0, .look,
    .tx Session.fourBytes (.accept 1) (.accept 0) 0]

def answerHeader : VsockPacketHeader := ⟨2, 3, 1024, 5000, 0, 1, vsockOpResponse, 0, 65536, 0⟩

theorem shortSend_conforming : Conforming Session.roomyLayout (opened Session.guestRequest) shortSend := by
  have looked : (run Session.roomyLayout (opened Session.guestRequest)
      (shortSend.take 2)).credit = some answerHeader := by decide
  refine ⟨trivial, trivial, ?_, trivial⟩
  intro _
  exact ⟨answerHeader, looked, by decide⟩

theorem conforming_guest_served_short :
  Conforming Session.roomyLayout (opened Session.guestRequest) shortSend ∧
  (∀ before event after, shortSend = before ++ event :: after →
    ¬(run Session.roomyLayout (opened Session.guestRequest) before).Overflows Session.roomyLayout event) ∧
  ((run Session.roomyLayout (opened Session.guestRequest) shortSend).conn.maySend = true →
    (run Session.roomyLayout (opened Session.guestRequest) shortSend).conn.Behind →
    (run Session.roomyLayout (opened Session.guestRequest)
      shortSend).conn.pendingRx.contains .creditUpdate = true) :=
  ⟨shortSend_conforming, conforming_guest_served Session.roomyLayout Session.guestRequest shortSend
      shortSend_conforming⟩

end Flow

end Spacer.Vsock
