import Mathlib.Tactic.LiftLets
import H2oHttp2.HeaderBlocks

/-!
# GOAWAY order and the writer's bookkeeping: the invariant

`WireOrdered` is the invariant behind two properties of a connection. The last-stream-ids of
the GOAWAY frames it sends never increase: none is below `pull_stream_ids.max_open`, and while
the connection is open only the advisory GOAWAY of a graceful shutdown has been sent. Its
writer keeps at most one write outstanding: `_write.buf_in_flight` is set exactly while the
socket writes, the write timer is linked only while the socket neither writes nor waits to,
the idle timer is linked while a write is in flight, and none of the writer's assertions
fails.

The invariant reads only `Conn.wire`. A function that leaves that view alone has a `_wire`
lemma; every function of the model has an `_ordered` lemma saying that it keeps the
invariant. This module covers the functions of `Stream` and `Requests`.
-/
namespace H2oHttp2

/-- The writer's assertions: lines 151 (`update_idle_timeout`), 368 and 407
    (`close_connection_now`), 1422 (`on_write_complete`) and 1505 (`do_emit_writereq`). -/
def Check.aboutWriter : Check → Bool
  | .updateIdleTimeoutLinked | .closeNowWriteTimer | .writeCompleteInFlight | .doEmitWritereqInFlight => true
  | _ => false

/-- What a connection's GOAWAY frames and its writer depend on. -/
structure WireView where
  state : ConnState
  pullMaxOpen : Nat
  goawayIds : List Nat
  inFlight : Bool
  writeTimer : Bool
  idleTimer : Bool
  writing : Bool
  notifying : Bool
  writerChecksHeld : Bool

/-- The part of a connection `WireOrdered` reads. -/
def Conn.wire (c : Conn) : WireView where
  state := c.state
  pullMaxOpen := c.pullMaxOpen
  goawayIds := c.goawayIds
  inFlight := c.write.bufInFlight.isSome
  writeTimer := c.write.timeoutEntry
  idleTimer := c.timeoutEntry
  writing := c.sock.writing
  notifying := c.sock.notifying
  writerChecksHeld := c.failed.all fun k => !k.aboutWriter

/-- The invariant, on the view. -/
structure WireView.Ordered (v : WireView) : Prop where
  nonincreasing : v.goawayIds.Pairwise (· ≥ ·)
  maxOpenBelow : ∀ g ∈ v.goawayIds, v.pullMaxOpen ≤ g
  advisoryWhileOpen : v.state = .opened → ∀ g ∈ v.goawayIds, g = int32Max
  maxOpenBounded : v.pullMaxOpen ≤ int32Max
  inFlightWriting : v.inFlight = v.writing
  timerIdle : v.writeTimer = true → v.writing = false ∧ v.notifying = false
  inFlightTimed : v.inFlight = true → v.idleTimer = true
  notBoth : v.writing = true → v.notifying = false
  checksHeld : v.writerChecksHeld = true

/-- GOAWAY frames in order and one write at a time. -/
def WireOrdered (c : Conn) : Prop := c.wire.Ordered

theorem WireOrdered.of_wire {c c' : Conn} (same : c'.wire = c.wire) (h : WireOrdered c) : WireOrdered c' := by
  unfold WireOrdered
  rw [same]
  exact h

theorem WireOrdered.ite {p : Prop} [Decidable p] {a b : Conn} (ha : WireOrdered a) (hb : WireOrdered b) :
    WireOrdered (if p then a else b) := by
  split
  · exact ha
  · exact hb

/-! ### Functions that leave the view alone -/

namespace Conn

variable (c : Conn)

@[simp] theorem modifyStream_wire (id : Nat) (f : Stream → Stream) : (c.modifyStream id f).wire = c.wire := rfl
@[simp] theorem unlink_wire (id : Nat) : (c.unlink id).wire = c.wire := rfl
@[simp] theorem mapSlot_wire (slot : Slot) (f : NumStreamsSlot → NumStreamsSlot) :
    (c.mapSlot slot f).wire = c.wire := rfl
@[simp] theorem setStreamState_wire (id : Nat) (new : StreamState) : (c.setStreamState id new).wire = c.wire := rfl
@[simp] theorem entityFromBuffer_wire (id : Nat) : (c.entityFromBuffer id).wire = c.wire := rfl

/-! Updates of the fields the view does not read. -/

@[simp] theorem with_numStreams_wire (n : NumStreams) : { c with numStreams := n }.wire = c.wire := rfl
@[simp] theorem with_streams_wire (l : List Stream) : { c with streams := l }.wire = c.wire := rfl
@[simp] theorem with_pendingReqs_wire (l : List Nat) : { c with pendingReqs := l }.wire = c.wire := rfl
@[simp] theorem with_inputWindow_wire (w : Int) : { c with inputWindow := w }.wire = c.wire := rfl
@[simp] theorem with_pullMaxProcessed_wire (n : Nat) : { c with pullMaxProcessed := n }.wire = c.wire := rfl
@[simp] theorem with_pushMaxOpen_wire (n : Nat) : { c with pushMaxOpen := n }.wire = c.wire := rfl
@[simp] theorem with_readExpect_wire (r : ReadExpect) : { c with readExpect := r }.wire = c.wire := rfl
@[simp] theorem with_inputHeaderTable_wire (t : HeaderTable) : { c with inputHeaderTable := t }.wire = c.wire := rfl
@[simp] theorem with_headersUnparsed_wire (u : Option (List UInt8)) :
    { c with headersUnparsed := u }.wire = c.wire := rfl
@[simp] theorem with_receivedAnyRequest_wire (b : Bool) : { c with receivedAnyRequest := b }.wire = c.wire := rfl
@[simp] theorem with_peerSettings_wire (s : Settings) : { c with peerSettings := s }.wire = c.wire := rfl
@[simp] theorem with_pushMemo_wire (m : List (List UInt8)) : { c with pushMemo := m }.wire = c.wire := rfl
@[simp] theorem with_gracefulShutdown_wire (g : GracefulTimer) : { c with gracefulShutdown := g }.wire = c.wire := rfl
@[simp] theorem with_streamsToProceed_wire (l : List Nat) :
    { c with write := { c.write with streamsToProceed := l } }.wire = c.wire := rfl
@[simp] theorem with_window_wire (w : Int) : { c with write := { c.write with window := w } }.wire = c.wire := rfl
@[simp] theorem with_recentlyClosed_wire (r : RecentlyClosed) : { c with recentlyClosed := r }.wire = c.wire := rfl
@[simp] theorem with_state_wire (s : ConnState) : { c with state := s }.wire = { c.wire with state := s } := rfl
theorem wire_state : c.wire.state = c.state := rfl
theorem with_socketClosed_wire :
    { c with destroyed := true, sock := { c.sock with reading := false, writing := false, notifying := false } }.wire =
      { c.wire with writing := false, notifying := false } := rfl

@[simp] theorem check_wire {k : Check} (cond : Bool) (hk : k.aboutWriter = false) :
    (c.check cond k).wire = c.wire := by
  unfold check
  split
  · rfl
  · simp [wire, goawayIds, hk]

@[simp] theorem encode_wire {f : OutFrame} (hf : Trace.goawayLastStreamId (.frame f) = none) :
    (c.encode f).wire = c.wire := by
  simp [wire, encode, goawayIds, hf]

end Conn

variable (ctx : Ctx) (c : Conn) (id : Nat)

@[simp] theorem streamSetBlockedByServer_wire (turnOn : Bool) :
    (streamSetBlockedByServer c id turnOn).wire = c.wire := by
  unfold streamSetBlockedByServer
  split <;> exact Conn.check_wire c _ rfl

@[simp] theorem streamUpdateOpenSlot_wire (slot : Slot) : (streamUpdateOpenSlot c id slot).wire = c.wire := rfl

@[simp] theorem streamSetState_wire (new : StreamState) : (streamSetState c id new).wire = c.wire := by
  unfold streamSetState
  dsimp only
  repeat' split
  all_goals simp (disch := decide) only [Conn.check_wire, Conn.mapSlot_wire, Conn.setStreamState_wire,
    Conn.modifyStream_wire, streamSetBlockedByServer_wire, streamUpdateOpenSlot_wire]

@[simp] theorem connRegisterStream_wire (s : Stream) : (connRegisterStream c s).wire = c.wire := by
  unfold connRegisterStream
  split <;> rfl

@[simp] theorem streamOpen_wire (priority : Priority) : (streamOpen c id priority).wire = c.wire :=
  connRegisterStream_wire c _

@[simp] theorem schedulerOpen_wire (parent : SchedParent) (weight : Nat) :
    (schedulerOpen c id parent weight).wire = c.wire := rfl

@[simp] theorem schedulerSetActive_wire (active : Bool) : (schedulerSetActive c id active).wire = c.wire := rfl

@[simp] theorem setReqBodyState_wire (new : ReqBodyState) : (setReqBodyState c id new).wire = c.wire := by
  unfold setReqBodyState
  dsimp only
  repeat' split
  all_goals simp (disch := decide) only [Conn.check_wire, Conn.modifyStream_wire, Conn.with_numStreams_wire]

@[simp] theorem closeClosedNode_wire (node : ClosedNode) {k : Check} (hk : k.aboutWriter = false) :
    (closeClosedNode c node k).wire = c.wire := by
  rw [← Conn.check_wire c node.schedOpen hk]
  simp [closeClosedNode, Conn.wire, Conn.goawayIds, Trace.goawayLastStreamId]

@[simp] theorem closeRecentlyClosed_wire : (closeRecentlyClosed c).wire = c.wire :=
  foldl_closeClosedNode (P := fun d => d.wire = c.wire) (fun d _ same => (closeClosedNode_wire d _ (k := .closeNowClosedOpen) rfl).trans same) _ c rfl

@[simp] theorem disposeTimersAndBuffers_wire :
    (disposeTimersAndBuffers c).wire = { c.wire with inFlight := false, idleTimer := false } := rfl

@[simp] theorem connPreserveStreamScheduler_wire : (connPreserveStreamScheduler c id).wire = c.wire := by
  unfold connPreserveStreamScheduler
  dsimp only
  split <;> simp (disch := decide) only [Conn.with_recentlyClosed_wire, Conn.modifyStream_wire, closeClosedNode_wire,
    Conn.check_wire]

@[simp] theorem h2oProcessRequest_wire : (h2oProcessRequest c id).wire = c.wire := by
  simp [h2oProcessRequest, Conn.wire, Conn.goawayIds, Trace.goawayLastStreamId, Conn.modifyStream]

/-! ### The changes a function can make to the view -/

namespace WireView.Ordered

variable {v : WireView} (h : v.Ordered)
include h

/-- Linking the write timer while the socket neither writes nor waits to. -/
theorem linkWriteTimer (idle : v.writing = false ∧ v.notifying = false) :
    { v with writeTimer := true }.Ordered :=
  { h with timerIdle := fun _ => idle }

/-- Linking or unlinking the idle timer while no write is in flight. -/
theorem setIdleTimer (b : Bool) (notInFlight : v.inFlight = false) : { v with idleTimer := b }.Ordered :=
  { h with inFlightTimed := fun f => absurd (notInFlight ▸ f) Bool.false_ne_true }

/-- The GOAWAY of `enqueue_goaway`: `pull_stream_ids.max_open` as last-stream-id, and the
    connection half-closed. -/
theorem enqueueGoaway : { v with goawayIds := v.goawayIds ++ [v.pullMaxOpen], state := .halfClosed }.Ordered where
  nonincreasing := List.pairwise_append.2 ⟨h.nonincreasing, List.pairwise_singleton _ _,
    fun g hg _ hp => (List.mem_singleton.1 hp) ▸ h.maxOpenBelow g hg⟩
  maxOpenBelow g hg := by
    rcases List.mem_append.1 hg with hg | hg
    · exact h.maxOpenBelow g hg
    · exact (List.mem_singleton.1 hg) ▸ le_refl _
  advisoryWhileOpen := fun opened => nomatch opened
  maxOpenBounded := h.maxOpenBounded
  inFlightWriting := h.inFlightWriting
  timerIdle := h.timerIdle
  inFlightTimed := h.inFlightTimed
  notBoth := h.notBoth
  checksHeld := h.checksHeld

/-- The advisory GOAWAY of a graceful shutdown, sent while the connection is open. -/
theorem advisoryGoaway (opened : v.state = .opened) :
    { v with goawayIds := v.goawayIds ++ [int32Max] }.Ordered where
  nonincreasing := List.pairwise_append.2 ⟨h.nonincreasing, List.pairwise_singleton _ _,
    fun g hg _ hp => (List.mem_singleton.1 hp) ▸ (h.advisoryWhileOpen opened g hg).ge⟩
  maxOpenBelow g hg := by
    rcases List.mem_append.1 hg with hg | hg
    · exact h.maxOpenBelow g hg
    · exact (List.mem_singleton.1 hg) ▸ h.maxOpenBounded
  advisoryWhileOpen _ g hg := by
    rcases List.mem_append.1 hg with hg | hg
    · exact h.advisoryWhileOpen opened g hg
    · exact List.mem_singleton.1 hg
  maxOpenBounded := h.maxOpenBounded
  inFlightWriting := h.inFlightWriting
  timerIdle := h.timerIdle
  inFlightTimed := h.inFlightTimed
  notBoth := h.notBoth
  checksHeld := h.checksHeld

/-- Raising `pull_stream_ids.max_open` to a 31-bit stream id while the connection is open. -/
theorem raiseMaxOpen (opened : v.state = .opened) {id : Nat} (bound : id ≤ int32Max) :
    { v with pullMaxOpen := max v.pullMaxOpen id }.Ordered :=
  { h with
    maxOpenBelow := fun g hg => (h.advisoryWhileOpen opened g hg) ▸ max_le h.maxOpenBounded bound
    maxOpenBounded := max_le h.maxOpenBounded bound }

/-- Marking the connection as closing. -/
theorem close : { v with state := .isClosing }.Ordered :=
  { h with advisoryWhileOpen := fun closing => nomatch closing }

/-- `close_connection_now`: the connection is closing, the buffers are gone and the socket
    is closed. -/
theorem closeNow :
    ({ v with state := .isClosing, inFlight := false, idleTimer := false, writing := false, notifying := false } :
      WireView).Ordered :=
  { h.close with
    inFlightWriting := rfl
    timerIdle := fun _ => ⟨rfl, rfl⟩
    inFlightTimed := fun f => absurd f Bool.false_ne_true
    notBoth := fun _ => rfl }

end WireView.Ordered

/-! ### Functions that change the view -/

theorem WireOrdered.close {c : Conn} (h : WireOrdered c) : WireOrdered { c with state := .isClosing } :=
  WireView.Ordered.close h

theorem Conn.check_ordered {c : Conn} {k : Check} (cond : Bool) (hk : k.aboutWriter = false)
    (h : WireOrdered c) : WireOrdered (c.check cond k) :=
  WireOrdered.of_wire (Conn.check_wire c cond hk) h

theorem Conn.encode_ordered {c : Conn} {f : OutFrame} (hf : Trace.goawayLastStreamId (.frame f) = none)
    (h : WireOrdered c) : WireOrdered (c.encode f) :=
  WireOrdered.of_wire (Conn.encode_wire c hf) h

variable {c}

theorem streamSetBlockedByServer_ordered (h : WireOrdered c) (turnOn : Bool) :
    WireOrdered (streamSetBlockedByServer c id turnOn) := WireOrdered.of_wire (by simp) h

theorem streamSetState_ordered (h : WireOrdered c) (new : StreamState) : WireOrdered (streamSetState c id new) :=
  WireOrdered.of_wire (by simp) h

theorem streamOpen_ordered (h : WireOrdered c) (priority : Priority) : WireOrdered (streamOpen c id priority) :=
  WireOrdered.of_wire (by simp) h

theorem setReqBodyState_ordered (h : WireOrdered c) (new : ReqBodyState) : WireOrdered (setReqBodyState c id new) :=
  WireOrdered.of_wire (by simp) h

theorem h2oProcessRequest_ordered (h : WireOrdered c) : WireOrdered (h2oProcessRequest c id) :=
  WireOrdered.of_wire (by simp) h

/-- `request_gathered_write` changes the view at most by linking the write timer while the
    socket is idle. -/
theorem requestGatheredWrite_wire (c : Conn) : (requestGatheredWrite c).wire = c.wire ∨
    (c.sock.writing = false ∧ c.sock.notifying = false ∧
      (requestGatheredWrite c).wire = { c.wire with writeTimer := true }) := by
  unfold requestGatheredWrite
  dsimp only
  split
  · rename_i idle
    simp only [Socket.isWriting, Bool.and_eq_true, Bool.not_eq_true', Bool.or_eq_false_iff,
      Conn.check_sock, Conn.check_write] at idle
    exact .inr ⟨idle.1.1, idle.1.2, congrArg (fun v => { v with writeTimer := true })
      (Conn.check_wire c _ (show Check.aboutWriter .requestGatheredWriteState = false from rfl))⟩
  · exact .inl (Conn.check_wire c _ (by decide))

theorem requestGatheredWrite_ordered (h : WireOrdered c) : WireOrdered (requestGatheredWrite c) := by
  rcases requestGatheredWrite_wire c with same | ⟨writing, notifying, linked⟩
  · exact WireOrdered.of_wire same h
  · unfold WireOrdered
    rw [linked]
    exact h.linkWriteTimer ⟨writing, notifying⟩

theorem connRequestWrite_wire (c : Conn) : (connRequestWrite c).wire = c.wire ∨
    (c.sock.writing = false ∧ c.sock.notifying = false ∧
      (connRequestWrite c).wire = { c.wire with writeTimer := true }) := by
  unfold connRequestWrite
  split
  · exact .inl rfl
  · exact requestGatheredWrite_wire c

theorem connRequestWrite_ordered (h : WireOrdered c) : WireOrdered (connRequestWrite c) := by
  unfold connRequestWrite
  split
  · exact h
  · exact requestGatheredWrite_ordered h

theorem enqueueGoaway_ordered (h : WireOrdered c) (errnum : Int) (data : Option String) :
    WireOrdered (enqueueGoaway c errnum data) := by
  unfold enqueueGoaway
  split
  · let c' := c.encode (.goaway c.pullMaxOpen errnum data)
    have sent : c'.wire = { c.wire with goawayIds := c.wire.goawayIds ++ [c.pullMaxOpen] } := by
      simp [c', Conn.wire, Conn.encode, Conn.goawayIds, Trace.goawayLastStreamId]
    unfold WireOrdered
    rcases connRequestWrite_wire c' with same | ⟨writing, notifying, linked⟩
    · rw [Conn.with_state_wire, same, sent]
      exact h.enqueueGoaway
    · rw [Conn.with_state_wire, linked, sent]
      exact h.enqueueGoaway.linkWriteTimer ⟨writing, notifying⟩
  · exact h

theorem updateIdleTimeout_ordered (h : WireOrdered c) : WireOrdered (updateIdleTimeout c) := by
  unfold updateIdleTimeout
  split
  · rename_i inFlight
    rw [show c.timeoutEntry = true from h.inFlightTimed inFlight]
    simpa [Conn.check] using h
  · rename_i notInFlight
    have idle := fun b => h.setIdleTimer b (by simpa [Conn.wire] using notInFlight)
    split
    · exact idle true
    · split
      · exact idle false
      · exact idle true

theorem streamPrepareForRequest_ordered (h : WireOrdered c) (bound : id < 0x80000000) :
    WireOrdered (streamPrepareForRequest c id) := by
  unfold streamPrepareForRequest
  lift_lets
  intro c1 c2
  have h1 : WireOrdered c1 := Conn.check_ordered _ rfl h
  have h2 : WireOrdered c2 := by
    dsimp only [c2]
    split
    · exact WireOrdered.of_wire (Conn.with_pushMaxOpen_wire c1 _) h1
    · split
      · rename_i opened
        exact h1.raiseMaxOpen opened (by unfold int32Max; omega)
      · exact h1
  exact WireOrdered.of_wire (Conn.modifyStream_wire _ _ _) (streamSetState_ordered id h2 _)

theorem sendWindowUpdate_ordered (h : WireOrdered c) (streamId delta : Nat) :
    WireOrdered (sendWindowUpdate c streamId delta) := by
  unfold sendWindowUpdate
  lift_lets
  intro c1 avail
  have h1 : WireOrdered c1 := connRequestWrite_ordered (Conn.encode_ordered rfl (Conn.check_ordered _ rfl h))
  split
  · exact h1
  · split
    · exact WireOrdered.of_wire (Conn.with_inputWindow_wire c1 _) h1
    · exact WireOrdered.of_wire (Conn.modifyStream_wire c1 _ _) h1

theorem updateStreamInputWindow_ordered (h : WireOrdered c) (delta : Nat) :
    WireOrdered (updateStreamInputWindow c id delta) := by
  unfold updateStreamInputWindow
  lift_lets
  intro c1 s
  have h1 : WireOrdered c1 := WireOrdered.of_wire (Conn.modifyStream_wire c _ _) h
  split
  · exact WireOrdered.of_wire (Conn.modifyStream_wire _ _ _) (sendWindowUpdate_ordered h1 _ _)
  · exact h1

theorem processRequest_ordered (h : WireOrdered c) : WireOrdered (processRequest ctx c id) := by
  unfold processRequest processRequestWith
  lift_lets
  intro s c2 _ c3 c1 c4
  have h3 : WireOrdered c3 := WireOrdered.of_wire (Conn.with_numStreams_wire c2 _) (Conn.check_ordered _ rfl h)
  have h1 : WireOrdered c1 := by
    dsimp only [c1]
    split
    · exact updateStreamInputWindow_ordered id (WireOrdered.of_wire (Conn.modifyStream_wire c3 _ _) h3) _
    · split
      · exact streamSetState_ordered id (streamSetState_ordered id h _) _
      · exact h
  have h4 : WireOrdered c4 := by
    dsimp only [c4]
    split
    · exact WireOrdered.of_wire (Conn.with_pullMaxProcessed_wire c1 _) h1
    · exact h1
  exact h2oProcessRequest_ordered id h4

theorem runPendingPass_ordered (ids : List Nat) (h : WireOrdered c) : WireOrdered (runPendingPass h2oProcessRequest ctx c ids).1 := by
  induction ids generalizing c with
  | nil => exact h
  | cons next rest ih =>
    unfold runPendingPass
    split
    · exact h
    · split
      · exact ih h
      · exact ih (processRequest_ordered ctx next (WireOrdered.of_wire (Conn.unlink_wire c next) h))

theorem runPendingLoop_ordered (fuel : Nat) (h : WireOrdered c) : WireOrdered (runPendingLoop h2oProcessRequest ctx fuel c) := by
  induction fuel generalizing c with
  | zero => exact h
  | succ n ih =>
    have pass := runPendingPass_ordered ctx c.pendingReqs h
    unfold runPendingLoop
    dsimp only
    split
    · exact ih pass
    · exact pass

theorem runPendingRequests_ordered (h : WireOrdered c) : WireOrdered (runPendingRequests ctx c) :=
  runPendingLoop_ordered ctx _ h

theorem executeOrEnqueueRequestCore_ordered (h : WireOrdered c) :
    WireOrdered (executeOrEnqueueRequestCore ctx c id) :=
  updateIdleTimeout_ordered (runPendingRequests_ordered ctx (WireOrdered.of_wire (Conn.with_pendingReqs_wire c _) h))

variable (c) in
@[simp] theorem connReleaseStream_wire : (connReleaseStream c id).wire = c.wire := by
  unfold connReleaseStream
  lift_lets
  intro c1 s c2 c3 c4 c5
  have w2 : c2.wire = c.wire := by dsimp only [c2]; split <;> simp [c1]
  have w3 : c3.wire = c.wire := by dsimp only [c3]; split <;> simp [w2]
  have w4 : c4.wire = c.wire := by dsimp only [c4]; split <;> (try split) <;> simp (disch := decide) [w3]
  have w5 : c5.wire = c.wire := by dsimp only [c5]; split <;> simp [w4]
  exact (Conn.with_streams_wire c5 _).trans w5

theorem connUnregisterStream_ordered (h : WireOrdered c) : WireOrdered (connUnregisterStream ctx c id) := by
  have h1 := WireOrdered.of_wire (connReleaseStream_wire c id) h
  unfold connUnregisterStream
  dsimp only
  split
  · exact updateIdleTimeout_ordered (runPendingRequests_ordered ctx h1)
  · exact h1

/-- Once the connection is closing, unregistering a stream leaves the view alone: the pending
    requests are not run and the idle timer is not touched. -/
theorem connUnregisterStream_wire_of_closing (closing : c.wire.state = .isClosing) :
    (connUnregisterStream ctx c id).wire = c.wire := by
  have w := connReleaseStream_wire c id
  have released : ¬ (connReleaseStream c id).state < .isClosing := by
    rw [← Conn.wire_state, w, closing]
    decide
  simp only [connUnregisterStream, released, if_false, w]

theorem streamClose_ordered (h : WireOrdered c) : WireOrdered (streamClose ctx c id) :=
  connUnregisterStream_ordered ctx id h

/-- Closing the streams of a closing connection one after another leaves the view alone. -/
theorem foldl_streamClose_wire (ids : List Nat) (closing : c.wire.state = .isClosing) :
    (ids.foldl (streamClose ctx) c).wire = c.wire := by
  induction ids generalizing c with
  | nil => rfl
  | cons next rest ih =>
    have w : (streamClose ctx c next).wire = c.wire := connUnregisterStream_wire_of_closing ctx next closing
    rw [List.foldl_cons, ih ((congrArg WireView.state w).trans closing), w]

theorem streamReset_ordered (h : WireOrdered c) : WireOrdered (streamReset ctx c id) := by
  unfold streamReset
  lift_lets
  intro deferClose
  have deferred : ∀ c', WireOrdered c' → WireOrdered (deferClose c') := by
    intro c' h'
    dsimp only [deferClose]
    split
    · exact h'
    · exact h'
  split
  case h_1 | h_2 | h_3 | h_4 => exact streamClose_ordered ctx id h
  case h_5 | h_6 | h_7 => exact deferred _ (streamSetState_ordered id h _)
  case h_8 => exact deferred _ h

theorem resetStreamIfDisregarded_ordered (h : WireOrdered c) : WireOrdered (resetStreamIfDisregarded ctx c id).1 := by
  unfold resetStreamIfDisregarded
  split
  · exact streamReset_ordered ctx id h
  · exact h

theorem executeOrEnqueueRequest_ordered (h : WireOrdered c) : WireOrdered (executeOrEnqueueRequest ctx c id) := by
  unfold executeOrEnqueueRequest
  lift_lets
  intro s c1 r c2 c3
  have h1 : WireOrdered c1 := Conn.check_ordered _ rfl h
  have h3 : WireOrdered c3 := by
    dsimp only [c3]
    split
    · exact streamSetBlockedByServer_ordered id (streamSetState_ordered id h1 _) _
    · exact streamSetState_ordered id h1 _
  split
  · exact resetStreamIfDisregarded_ordered ctx id h1
  · exact executeOrEnqueueRequestCore_ordered ctx id h3

variable (c) in
/-- With the write timer unlinked, `close_connection_now` closes the connection, drops the
    write in flight, unlinks the idle timer and closes the socket. -/
theorem closeConnectionNow_wire (idle : c.write.timeoutEntry = false) :
    (closeConnectionNow ctx c).wire = ({ c.wire with
      state := .isClosing, inFlight := false, idleTimer := false, writing := false, notifying := false } : WireView) := by
  unfold closeConnectionNow
  lift_lets
  intro c1 c2 c3 c4 c5 c6 c7 c8 c9 sock9
  have w2 : c2.wire = { c.wire with state := .isClosing } := by simp [c2, c1, idle]
  have w3 : c3.wire = c2.wire := foldl_streamClose_wire ctx _ (congrArg WireView.state w2)
  have w6 : c6.wire = c3.wire := by simp (disch := decide) [c6, c5, c4]
  have idle6 : c6.write.timeoutEntry = false := (congrArg WireView.writeTimer (w6.trans (w3.trans w2))).trans idle
  have w7 : c7.wire = { c6.wire with inFlight := false, idleTimer := false } := by
    rw [show c7 = closeRecentlyClosed (disposeTimersAndBuffers c6) from rfl, closeRecentlyClosed_wire,
      disposeTimersAndBuffers_wire]
  have w9 : c9.wire = c7.wire := by simp (disch := decide) [c9, c8, c7, disposeTimersAndBuffers, idle6]
  calc _ = { c9.wire with writing := false, notifying := false } := Conn.with_socketClosed_wire c9
    _ = _ := by rw [w9, w7, w6, w3, w2]

theorem closeConnectionNow_ordered (h : WireOrdered c) (idle : c.write.timeoutEntry = false) :
    WireOrdered (closeConnectionNow ctx c) := by
  unfold WireOrdered
  rw [closeConnectionNow_wire ctx c idle]
  exact h.closeNow

theorem closeConnection_ordered (h : WireOrdered c) : WireOrdered (closeConnection ctx c).1 := by
  unfold closeConnection
  dsimp only
  split
  · exact h.close
  · rename_i idle
    simp only [Bool.or_eq_true, not_or, Bool.not_eq_true] at idle
    exact closeConnectionNow_ordered ctx h.close idle.2

theorem streamSendError_ordered (h : WireOrdered c) (streamId : Nat) (errnum : Int) :
    WireOrdered (streamSendError c streamId errnum) :=
  connRequestWrite_ordered (Conn.encode_ordered rfl (Conn.check_ordered _ rfl (Conn.check_ordered _ rfl h)))

theorem updateStreamOutputWindow_ordered (h : WireOrdered c) (delta : Int) :
    WireOrdered (updateStreamOutputWindow c id delta).1 := by
  unfold updateStreamOutputWindow
  dsimp only
  split
  · exact h
  · split
    · exact WireOrdered.of_wire (by simp (disch := decide)) h
    · exact WireOrdered.of_wire (Conn.modifyStream_wire c _ _) h

theorem connRegisterForProceedCallback_ordered (h : WireOrdered c) :
    WireOrdered (connRegisterForProceedCallback c id) := by
  have h1 := connRequestWrite_ordered h
  unfold connRegisterForProceedCallback
  lift_lets
  intro c1 s _
  split
  · split
    · exact WireOrdered.of_wire (by simp (disch := decide)) h1
    · exact h1
  · exact WireOrdered.of_wire (Conn.with_streamsToProceed_wire c1 _) h1

theorem finalostreamSend_ordered (h : WireOrdered c) (bytes : Nat) (final : Bool) :
    WireOrdered (finalostreamSend c id bytes final) := by
  unfold finalostreamSend
  lift_lets
  intro c0 c1 sendHeaders queue
  have h1 : WireOrdered c1 := by
    dsimp only [c1]
    split
    · exact streamSetBlockedByServer_ordered id (Conn.check_ordered _ (by decide) h) _
    · exact Conn.check_ordered _ (by decide) h
  have headers : ∀ c', WireOrdered c' → WireOrdered (sendHeaders c') := by
    intro c' h'
    have h2 : WireOrdered (streamSetState (c'.encode (.headers id)) id .sendBody) :=
      streamSetState_ordered id (Conn.encode_ordered (by rfl) h') _
    dsimp only [sendHeaders]
    split
    · exact streamSetState_ordered id h2 _
    · exact h2
  have queued : ∀ c', WireOrdered c' → WireOrdered (queue c') := fun c' h' =>
    connRegisterForProceedCallback_ordered id (WireOrdered.of_wire (Conn.modifyStream_wire c' _ _) h')
  split
  case h_1 => exact queued _ (headers _ (streamSetState_ordered id (streamSetState_ordered id h1 _) _))
  case h_2 => exact queued _ (headers _ (streamSetState_ordered id h1 _))
  case h_3 => exact queued _ (headers _ h1)
  case h_4 =>
    refine queued _ ?_
    split
    · exact streamSetState_ordered id h1 _
    · exact h1
  case h_5 => exact h1
  case h_6 => exact Conn.check_ordered _ rfl h1

theorem h2oSendError400_ordered (h : WireOrdered c) (desc : String) : WireOrdered (h2oSendError400 c id desc) :=
  finalostreamSend_ordered id h _ _


end H2oHttp2
