import Mathlib.Tactic.LiftLets
import H2oHttp2.FlowControl

/-!
# The push maximum and the receive window: the functions that leave them alone

Few functions change `push_stream_ids.max_open`, the connection's receive window
`_input_window`, or the connection-level WINDOW_UPDATE frames sent: `SERVER_PREFACE`,
`handle_data_frame`, `handle_goaway_frame`, and `h2o_http2_stream_prepare_for_request` on a
push stream. `FlowKept v c` says that `c` has the view `v` of these (`Conn.flow`) and no stream
with id 0; every other function keeps it (`_flowKept`). Without a stream 0,
`update_stream_input_window` moves a stream's window and never the connection's
(`updateStreamInputWindow_flowKept`). The module `FlowEvents` treats the functions that change
the view, and the events.
-/
namespace H2oHttp2

/-- The increment of a connection-level WINDOW_UPDATE frame. -/
def Trace.connIncrement : Trace → Option Nat
  | .frame (.windowUpdate 0 n) => some n
  | _ => none

/-- The increments of the connection-level WINDOW_UPDATE frames encoded, in order. -/
def Conn.connIncrements (c : Conn) : List Nat := c.log.filterMap Trace.connIncrement

/-- What the push ids and the connection's receive window depend on, and whether the client
    preface has been read. -/
structure FlowView where
  pushMaxOpen : Nat
  inputWindow : Int
  connIncrements : List Nat
  prefaceRead : Bool

theorem Trace.connIncrement_windowUpdate (id n : Nat) :
    Trace.connIncrement (.frame (.windowUpdate id n)) = if id = 0 then some n else none := by
  cases id <;> rfl

/-- The view of a connection. -/
def Conn.flow (c : Conn) : FlowView := ⟨c.pushMaxOpen, c.inputWindow, c.connIncrements, c.readExpect != .preface⟩

/-- `c` has the view `v`, and no stream with id 0. -/
structure FlowKept (v : FlowView) (c : Conn) : Prop where
  flow : c.flow = v
  noZero : ∀ s ∈ c.streams, s.streamId ≠ 0

namespace FlowKept

variable {v : FlowView} {c c' : Conn}

theorem of_flow (h : FlowKept v c) (same : c'.flow = c.flow) (streams : c'.streams = c.streams) : FlowKept v c' :=
  ⟨same.trans h.flow, streams ▸ h.noZero⟩

theorem ite {p : Prop} [Decidable p] {a b : Conn} (ha : FlowKept v a) (hb : FlowKept v b) :
    FlowKept v (if p then a else b) := by
  split
  · exact ha
  · exact hb

theorem setNumStreams (h : FlowKept v c) (n : NumStreams) : FlowKept v { c with numStreams := n } :=
  h.of_flow rfl rfl

theorem getStream_zero (h : FlowKept v c) : c.getStream 0 = none :=
  List.find?_eq_none.2 fun s mem same => h.noZero s mem (of_decide_eq_true same)

theorem modifyStream (h : FlowKept v c) (id : Nat) (f : Stream → Stream) (hf : ∀ s, (f s).streamId = s.streamId) :
    FlowKept v (c.modifyStream id f) := by
  refine ⟨h.flow, fun s mem => ?_⟩
  obtain ⟨s', mem', rfl⟩ := List.mem_map.1 mem
  split
  · rw [hf]
    exact h.noZero s' mem'
  · exact h.noZero s' mem'

theorem check (h : FlowKept v c) (cond : Bool) (k : Check) : FlowKept v (c.check cond k) :=
  h.of_flow (by rw [Conn.check_eq]; rfl) (Conn.check_streams c cond k)

theorem encode (h : FlowKept v c) {f : OutFrame} (hf : Trace.connIncrement (.frame f) = none) :
    FlowKept v (c.encode f) :=
  h.of_flow (by simp [Conn.flow, Conn.encode, Conn.connIncrements, hf]) rfl

theorem unlink (h : FlowKept v c) (id : Nat) : FlowKept v (c.unlink id) := h.of_flow rfl rfl

theorem mapSlot (h : FlowKept v c) (slot : Slot) (f : NumStreamsSlot → NumStreamsSlot) :
    FlowKept v (c.mapSlot slot f) := h.of_flow rfl rfl

theorem setStreamState (h : FlowKept v c) (id : Nat) (new : StreamState) : FlowKept v (c.setStreamState id new) :=
  h.modifyStream id _ (by intros; rfl)

theorem entityFromBuffer (h : FlowKept v c) (id : Nat) : FlowKept v (c.entityFromBuffer id) :=
  h.modifyStream id _ (by intros; rfl)

/-- Setting `_read_expect` to a state after the preface, once the preface is read. -/
theorem readExpect (h : FlowKept v c) (read : v.prefaceRead = true) (r : ReadExpect) (after : r ≠ .preface) :
    FlowKept v { c with readExpect := r } := by
  obtain ⟨rfl, noZero⟩ := h
  have before : (c.readExpect != .preface) = true := read
  have now : (r != .preface) = true := by simpa using after
  refine ⟨?_, noZero⟩
  show (⟨c.pushMaxOpen, c.inputWindow, c.connIncrements, r != .preface⟩ : FlowView) = ⟨_, _, _, c.readExpect != .preface⟩
  rw [before, now]

/-- Dropping streams keeps stream 0 out. -/
theorem filter (h : FlowKept v c) (p : Stream → Bool) : FlowKept v { c with streams := c.streams.filter p } :=
  ⟨h.flow, fun s mem => h.noZero s (List.mem_filter.1 mem).1⟩

end FlowKept

variable (ctx : Ctx) {v : FlowView} {c : Conn} (id : Nat)

/-! ### Streams -/

theorem streamSetBlockedByServer_flowKept (h : FlowKept v c) (turnOn : Bool) :
    FlowKept v (streamSetBlockedByServer c id turnOn) := by
  unfold streamSetBlockedByServer
  split
  · exact ((h.check _ _).modifyStream id _ (by intros; rfl)).setNumStreams _
  · exact ((h.check _ _).modifyStream id _ (by intros; rfl)).setNumStreams _

theorem streamUpdateOpenSlot_flowKept (h : FlowKept v c) (slot : Slot) :
    FlowKept v (streamUpdateOpenSlot c id slot) :=
  ((h.mapSlot _ _).mapSlot _ _).modifyStream id _ (by intros; rfl)

theorem streamSetState_flowKept (h : FlowKept v c) (new : StreamState) : FlowKept v (streamSetState c id new) := by
  unfold streamSetState
  dsimp only
  split
  · exact h.check _ _
  · exact (streamUpdateOpenSlot_flowKept id (h.check _ _) _).setStreamState id _
  · exact ((h.check _ _).mapSlot _ _).setStreamState id _
  · exact (h.check _ _).setStreamState id _
  · have ended : FlowKept v (match (c.stream id).state with
        | .sendHeaders | .sendBody | .sendBodyIsFinal =>
          c.mapSlot (c.stream id).slot fun n => { n with halfClosed := n.halfClosed - 1 }
        | .endStream => c.check false .setStateEndStream
        | _ => c) := by
      split
      · exact h.mapSlot _ _
      · exact h.mapSlot _ _
      · exact h.mapSlot _ _
      · exact h.check _ _
      · exact h
    have h3 := ((ended.setStreamState id .endStream).mapSlot (c.stream id).slot
      fun n => { n with opened := n.opened - 1 }).modifyStream id (fun s => { s with slot := .none }) (by intros; rfl)
    exact .ite (streamSetBlockedByServer_flowKept id h3 _) h3
  · exact h.setStreamState id _

/-- Registering a stream whose id is not 0. -/
theorem connRegisterStream_flowKept (h : FlowKept v c) {s : Stream} (nonzero : s.streamId ≠ 0) :
    FlowKept v (connRegisterStream c s) := by
  unfold connRegisterStream
  split
  · refine ⟨h.flow, fun s' mem => ?_⟩
    obtain ⟨s'', mem', rfl⟩ := List.mem_map.1 mem
    split
    · exact nonzero
    · exact h.noZero s'' mem'
  · refine ⟨h.flow, fun s' mem => ?_⟩
    rcases List.mem_append.1 mem with mem | mem
    · exact h.noZero s' mem
    · rw [List.mem_singleton.1 mem]
      exact nonzero

theorem streamOpen_flowKept (h : FlowKept v c) (nonzero : id ≠ 0) (priority : Priority) :
    FlowKept v (streamOpen c id priority) :=
  (connRegisterStream_flowKept h nonzero).mapSlot _ _

theorem schedulerOpen_flowKept (h : FlowKept v c) (parent : SchedParent) (weight : Nat) :
    FlowKept v (schedulerOpen c id parent weight) := h.modifyStream id _ (by intros; rfl)

theorem schedulerSetActive_flowKept (h : FlowKept v c) (active : Bool) :
    FlowKept v (schedulerSetActive c id active) := h.modifyStream id _ (by intros; rfl)

/-- Preparing a pull stream leaves the view alone; a push stream raises the push maximum. -/
theorem streamPrepareForRequest_flowKept (h : FlowKept v c) (pull : streamIsPush id = false) :
    FlowKept v (streamPrepareForRequest c id) := by
  unfold streamPrepareForRequest
  lift_lets
  intro c1 c2
  have h2 : FlowKept v c2 := by
    simp only [c2, pull, Bool.false_eq_true, if_false]
    exact .ite ((h.check _ _).of_flow rfl rfl) (h.check _ _)
  exact (streamSetState_flowKept id h2 _).modifyStream id _ (by intros; rfl)

/-! ### Requests and teardown -/

theorem requestGatheredWrite_flowKept (h : FlowKept v c) : FlowKept v (requestGatheredWrite c) := by
  unfold requestGatheredWrite
  exact .ite ((h.check _ _).of_flow rfl rfl) (h.check _ _)

theorem connRequestWrite_flowKept (h : FlowKept v c) : FlowKept v (connRequestWrite c) :=
  .ite h (requestGatheredWrite_flowKept h)

theorem enqueueGoaway_flowKept (h : FlowKept v c) (errnum : Int) (data : Option String) :
    FlowKept v (enqueueGoaway c errnum data) :=
  .ite ((connRequestWrite_flowKept (h.encode (by rfl))).of_flow rfl rfl) h

theorem updateIdleTimeout_flowKept (h : FlowKept v c) : FlowKept v (updateIdleTimeout c) :=
  .ite (h.check _ _) (.ite (h.of_flow rfl rfl) (.ite (h.of_flow rfl rfl) (h.of_flow rfl rfl)))

/-- A WINDOW_UPDATE on a stream moves that stream's window only. -/
theorem sendWindowUpdate_flowKept (h : FlowKept v c) {streamId : Nat} (nonzero : streamId ≠ 0) (delta : Nat) :
    FlowKept v (sendWindowUpdate c streamId delta) := by
  unfold sendWindowUpdate
  lift_lets
  intro c1 avail
  have h1 : FlowKept v c1 :=
    connRequestWrite_flowKept ((h.check _ _).encode (by rw [Trace.connIncrement_windowUpdate, if_neg nonzero]))
  split
  · exact h1
  · rw [if_neg nonzero]
    exact h1.modifyStream streamId _ (by intros; rfl)

/-- `update_stream_input_window` on a connection without a stream 0 moves a stream's window,
    never the connection's: on an id that names no stream it sends nothing. -/
theorem updateStreamInputWindow_flowKept (h : FlowKept v c) (delta : Nat) :
    FlowKept v (updateStreamInputWindow c id delta) := by
  unfold updateStreamInputWindow
  lift_lets
  intro c1 s
  have h1 : FlowKept v c1 := h.modifyStream id _ (by intros; rfl)
  by_cases zero : id = 0
  · have fresh : c1.stream id = Stream.fresh id 0 defaultPriority := by
      rw [Conn.stream, zero, h1.getStream_zero]
      rfl
    rw [if_neg (by simp only [s, fresh, Stream.fresh]; decide)]
    exact h1
  · exact .ite ((sendWindowUpdate_flowKept h1 zero _).modifyStream id _ (by intros; rfl)) h1

theorem setReqBodyState_flowKept (h : FlowKept v c) (new : ReqBodyState) :
    FlowKept v (setReqBodyState c id new) := by
  unfold setReqBodyState
  dsimp only
  apply FlowKept.modifyStream
  · split
    · exact (h.check _ _).check _ _
    · exact .ite (((h.check _ _).check _ _).of_flow rfl rfl) ((h.check _ _).check _ _)
    · exact h.check _ _
  · intros
    rfl

theorem h2oProcessRequest_flowKept (h : FlowKept v c) : FlowKept v (h2oProcessRequest c id) :=
  (h.modifyStream id (fun s => { s with processCalled := true }) (by intros; rfl)).of_flow
    (by simp [h2oProcessRequest, Conn.flow, Conn.connIncrements, Conn.modifyStream, Trace.connIncrement]) rfl

theorem processRequest_flowKept (h : FlowKept v c) : FlowKept v (processRequest ctx c id) := by
  unfold processRequest processRequestWith
  lift_lets
  intro s c2 _ c3 c1 c4
  have h3 : FlowKept v c3 := (h.check _ _).of_flow rfl rfl
  have h1 : FlowKept v c1 := by
    dsimp only [c1]
    split
    · exact updateStreamInputWindow_flowKept id (h3.modifyStream id _ (by intros; rfl)) _
    · exact .ite (streamSetState_flowKept id (streamSetState_flowKept id h _) _) h
  have h4 : FlowKept v c4 := .ite (h1.of_flow rfl rfl) h1
  exact h2oProcessRequest_flowKept id h4

theorem runPendingPass_flowKept (ids : List Nat) (h : FlowKept v c) : FlowKept v (runPendingPass h2oProcessRequest ctx c ids).1 := by
  induction ids generalizing c with
  | nil => exact h
  | cons next rest ih =>
    unfold runPendingPass
    split
    · exact h
    · split
      · exact ih h
      · exact ih (processRequest_flowKept ctx next (h.unlink next))

theorem runPendingLoop_flowKept (fuel : Nat) (h : FlowKept v c) : FlowKept v (runPendingLoop h2oProcessRequest ctx fuel c) := by
  induction fuel generalizing c with
  | zero => exact h
  | succ n ih =>
    have pass := runPendingPass_flowKept ctx c.pendingReqs h
    unfold runPendingLoop
    dsimp only
    split
    · exact ih pass
    · exact pass

theorem runPendingRequests_flowKept (h : FlowKept v c) : FlowKept v (runPendingRequests ctx c) :=
  runPendingLoop_flowKept ctx _ h

theorem executeOrEnqueueRequestCore_flowKept (h : FlowKept v c) :
    FlowKept v (executeOrEnqueueRequestCore ctx c id) :=
  updateIdleTimeout_flowKept (runPendingRequests_flowKept ctx (h.of_flow rfl rfl))

theorem closeClosedNode_flowKept (h : FlowKept v c) (node : ClosedNode) (k : Check) :
    FlowKept v (closeClosedNode c node k) :=
  (h.check node.schedOpen k).of_flow (by simp [closeClosedNode, Conn.flow, Conn.connIncrements, Trace.connIncrement]) rfl

theorem closeRecentlyClosed_flowKept (h : FlowKept v c) : FlowKept v (closeRecentlyClosed c) :=
  (foldl_closeClosedNode (P := FlowKept v) (fun _ _ hd => closeClosedNode_flowKept hd _ _) _ c h).of_flow rfl rfl

theorem connPreserveStreamScheduler_flowKept (h : FlowKept v c) : FlowKept v (connPreserveStreamScheduler c id) := by
  unfold connPreserveStreamScheduler
  lift_lets
  intro s c1 slot next c2 ring
  have h2 : FlowKept v c2 := by
    dsimp only [c2]
    split
    · exact closeClosedNode_flowKept (h.check _ _) _ _
    · exact h.check _ _
  clear_value ring c2
  exact (h2.modifyStream id _ (by intros; rfl)).of_flow rfl rfl

theorem connReleaseStream_flowKept (h : FlowKept v c) : FlowKept v (connReleaseStream c id) := by
  unfold connReleaseStream
  lift_lets
  intro c1 s c2 c3 c4 c5
  have h1 : FlowKept v c1 := connPreserveStreamScheduler_flowKept id h
  have h2 : FlowKept v c2 := .ite (setReqBodyState_flowKept id (h1.modifyStream id _ (by intros; rfl)) _) h1
  have h3 : FlowKept v c3 := .ite (streamSetBlockedByServer_flowKept id h2 _) h2
  have h4 : FlowKept v c4 := by
    dsimp only [c4]
    split
    · exact .ite (h3.unlink id) h3
    · exact h3.check _ _
    · exact h3.check _ _
    · exact (h3.check _ _).unlink id
    · exact .ite (h3.unlink id) h3
  have h5 : FlowKept v c5 := .ite (streamSetState_flowKept id h4 _) h4
  exact h5.filter _

theorem connUnregisterStream_flowKept (h : FlowKept v c) : FlowKept v (connUnregisterStream ctx c id) := by
  have h1 := connReleaseStream_flowKept id h
  unfold connUnregisterStream
  exact .ite (updateIdleTimeout_flowKept (runPendingRequests_flowKept ctx h1)) h1

theorem streamClose_flowKept (h : FlowKept v c) : FlowKept v (streamClose ctx c id) :=
  connUnregisterStream_flowKept ctx id h

theorem foldl_streamClose_flowKept (ids : List Nat) (h : FlowKept v c) :
    FlowKept v (ids.foldl (streamClose ctx) c) := by
  induction ids generalizing c with
  | nil => exact h
  | cons next rest ih =>
    rw [List.foldl_cons]
    exact ih (streamClose_flowKept ctx next h)

theorem streamReset_flowKept (h : FlowKept v c) : FlowKept v (streamReset ctx c id) := by
  unfold streamReset
  lift_lets
  intro deferClose
  have deferred : ∀ c', FlowKept v c' → FlowKept v (deferClose c') := fun c' h' =>
    .ite (schedulerSetActive_flowKept id h' _) ((schedulerSetActive_flowKept id h' _).of_flow rfl rfl)
  split
  case h_1 | h_2 | h_3 | h_4 => exact streamClose_flowKept ctx id h
  case h_5 | h_6 | h_7 => exact deferred _ (streamSetState_flowKept id h _)
  case h_8 => exact deferred _ h

theorem resetStreamIfDisregarded_flowKept (h : FlowKept v c) : FlowKept v (resetStreamIfDisregarded ctx c id).1 := by
  unfold resetStreamIfDisregarded
  split
  · exact streamReset_flowKept ctx id h
  · exact h

theorem executeOrEnqueueRequest_flowKept (h : FlowKept v c) : FlowKept v (executeOrEnqueueRequest ctx c id) := by
  unfold executeOrEnqueueRequest
  lift_lets
  intro s c1 r c2 c3
  have h1 : FlowKept v c1 := h.check _ _
  have h3 : FlowKept v c3 :=
    .ite (streamSetBlockedByServer_flowKept id (streamSetState_flowKept id h1 _) _) (streamSetState_flowKept id h1 _)
  exact .ite (resetStreamIfDisregarded_flowKept ctx id h1) (executeOrEnqueueRequestCore_flowKept ctx id h3)

theorem closeConnectionNow_flowKept (h : FlowKept v c) : FlowKept v (closeConnectionNow ctx c) := by
  unfold closeConnectionNow
  lift_lets
  intro c1 c2 c3 c4 c5 c6 c7 c8 c9 sock9
  have h1 : FlowKept v c1 := h.of_flow rfl rfl
  have h3 : FlowKept v c3 := foldl_streamClose_flowKept ctx _ (h1.check _ _)
  have h6 : FlowKept v c6 := ((h3.check _ _).check _ _).check _ _
  clear_value c6
  have h7 : FlowKept v c7 := closeRecentlyClosed_flowKept (h6.of_flow rfl rfl)
  have h9 : FlowKept v c9 := (h7.check _ _).check _ _
  exact h9.of_flow rfl rfl

theorem closeConnection_flowKept (h : FlowKept v c) : FlowKept v (closeConnection ctx c).1 := by
  unfold closeConnection
  dsimp only
  split
  · exact h.of_flow rfl rfl
  · exact closeConnectionNow_flowKept ctx (show FlowKept v { c with state := .isClosing } from h.of_flow rfl rfl)

theorem streamSendError_flowKept (h : FlowKept v c) (streamId : Nat) (errnum : Int) :
    FlowKept v (streamSendError c streamId errnum) :=
  connRequestWrite_flowKept (((h.check _ _).check _ _).encode (by rfl))

theorem updateStreamOutputWindow_flowKept (h : FlowKept v c) (delta : Int) :
    FlowKept v (updateStreamOutputWindow c id delta).1 := by
  unfold updateStreamOutputWindow
  dsimp only
  split
  · exact h
  · split
    · exact schedulerSetActive_flowKept id ((h.modifyStream id _ (by intros; rfl)).check _ _) _
    · exact h.modifyStream id _ (by intros; rfl)

theorem connRegisterForProceedCallback_flowKept (h : FlowKept v c) :
    FlowKept v (connRegisterForProceedCallback c id) := by
  have h1 := connRequestWrite_flowKept h
  unfold connRegisterForProceedCallback
  exact .ite (.ite (schedulerSetActive_flowKept id (h1.check _ _) _) h1) (h1.of_flow rfl rfl)

theorem finalostreamSend_flowKept (h : FlowKept v c) (bytes : Nat) (final : Bool) :
    FlowKept v (finalostreamSend c id bytes final) := by
  unfold finalostreamSend
  lift_lets
  intro c0 c1 sendHeaders queue
  have h1 : FlowKept v c1 := .ite (streamSetBlockedByServer_flowKept id (h.check _ _) _) (h.check _ _)
  have headers : ∀ c', FlowKept v c' → FlowKept v (sendHeaders c') := fun c' h' =>
    have h2 := streamSetState_flowKept id (h'.encode (by rfl)) .sendBody
    .ite (streamSetState_flowKept id h2 _) h2
  have queued : ∀ c', FlowKept v c' → FlowKept v (queue c') := fun c' h' =>
    connRegisterForProceedCallback_flowKept id (h'.modifyStream id _ (by intros; rfl))
  split
  case h_1 => exact queued _ (headers _ (streamSetState_flowKept id (streamSetState_flowKept id h1 _) _))
  case h_2 => exact queued _ (headers _ (streamSetState_flowKept id h1 _))
  case h_3 => exact queued _ (headers _ h1)
  case h_4 => exact queued _ (.ite (streamSetState_flowKept id h1 _) h1)
  case h_5 => exact h1
  case h_6 => exact h1.check _ _

theorem h2oSendError400_flowKept (h : FlowKept v c) (desc : String) : FlowKept v (h2oSendError400 c id desc) :=
  finalostreamSend_flowKept id h _ _

/-! ### Request bodies -/

theorem writeStreamingBody_flowKept (h : FlowKept v c) (writeOk : Bool) :
    FlowKept v (writeStreamingBody ctx c id writeOk) := by
  unfold writeStreamingBody
  lift_lets
  intro s c1
  have h1 : FlowKept v c1 := h.check _ _
  split
  rename_i c2 isEndStream pair
  have h2 : FlowKept v c2 := by
    split at pair <;> obtain ⟨rfl, -⟩ := Prod.mk.inj pair
    case h_3 => exact setReqBodyState_flowKept id (h1.modifyStream id _ (by intros; rfl)) _
    all_goals exact h1.check _ _
  lift_lets
  intro c3
  have h3 : FlowKept v c3 := (h2.entityFromBuffer id).modifyStream id _ (by intros; rfl)
  exact .ite (streamReset_flowKept ctx id (streamSendError_flowKept h3 _ _)) (.ite (streamClose_flowKept ctx id h3) h3)

theorem bufferRequestBodyChunk_flowKept (h : FlowKept v c) (payload : List UInt8) (isEndStream isFirst : Bool)
    (answers : Input) : FlowKept v (bufferRequestBodyChunk ctx c id payload isEndStream isFirst answers) := by
  unfold bufferRequestBodyChunk
  lift_lets
  intro reqQueued c3 c2 c1 c4 s c5 c6
  have h3 : FlowKept v c3 := streamSetState_flowKept id h _
  have h2 : FlowKept v c2 := .ite (.ite (streamSetState_flowKept id h3 _) h3) h
  have h1 : FlowKept v c1 :=
    .ite (.ite (setReqBodyState_flowKept id h2 _)
      (setReqBodyState_flowKept id (h2.modifyStream id _ (by intros; rfl)) _)) h
  have h4 : FlowKept v c4 := h1.modifyStream id _ (by intros; rfl)
  have h5 : FlowKept v c5 := h4.entityFromBuffer id
  have h6 : FlowKept v c6 := .ite (updateStreamInputWindow_flowKept id h5 _) h5
  exact .ite (.ite (.ite (writeStreamingBody_flowKept ctx id h4 _) h4) h5)
    (.ite (executeOrEnqueueRequestCore_flowKept ctx id (h5.modifyStream id _ (by intros; rfl)))
      (.ite (executeOrEnqueueRequest_flowKept ctx id h6) h6))

theorem handleRequestBodyChunk_flowKept (h : FlowKept v c) (payload : List UInt8) (isEndStream : Bool)
    (answers : Input) : FlowKept v (handleRequestBodyChunk ctx c id payload isEndStream answers) := by
  unfold handleRequestBodyChunk
  lift_lets
  intro state isFirst c1 c2 s c3 r
  have h1 : FlowKept v c1 := by
    dsimp only [c1, state]
    split
    · exact setReqBodyState_flowKept id h _
    · exact h
    · exact h.check _ _
  have h2 : FlowKept v c2 := h1.modifyStream id _ (by intros; rfl)
  have h3 : FlowKept v c3 := .ite (streamSetBlockedByServer_flowKept id h2 _) h2
  exact .ite (streamReset_flowKept ctx id (streamSendError_flowKept h2 _ _))
    (.ite (streamReset_flowKept ctx id (streamSendError_flowKept h2 _ _))
      (.ite (resetStreamIfDisregarded_flowKept ctx id h3) (bufferRequestBodyChunk_flowKept ctx id h3 _ _ _ _)))

theorem proceedRequest_flowKept (h : FlowKept v c) (errstr : Option String) (writeOk : Bool) :
    FlowKept v (proceedRequest ctx c id errstr writeOk) := by
  unfold proceedRequest
  lift_lets
  intro c1 written c2 c3 c4 _ c5 c3' c4'
  have h1 : FlowKept v c1 := h.check _ _
  have h2 : FlowKept v c2 := h1.modifyStream id _ (by intros; rfl)
  have h3 : FlowKept v c3 := setReqBodyState_flowKept id (h2.modifyStream id _ (by intros; rfl)) _
  have h4 : FlowKept v c4 := schedulerSetActive_flowKept id (streamSendError_flowKept h3 _ _) _
  clear_value c4
  have h5 : FlowKept v c5 := .ite h4 (h4.of_flow rfl rfl)
  have h3' : FlowKept v c3' := updateStreamInputWindow_flowKept id (h2.check _ _) _
  have h4' : FlowKept v c4' := .ite (updateIdleTimeout_flowKept (streamSetBlockedByServer_flowKept id h3' _)) h3'
  split
  · exact .ite (streamReset_flowKept ctx id h5) h3
  · split
    · exact .ite (writeStreamingBody_flowKept ctx id h4' _) h4'
    · exact writeStreamingBody_flowKept ctx id (h2.check _ _) _
    · exact h2.check _ _

/-! ### Header blocks -/

theorem FlowKept.handled {a : Conn} {r : Int} {d : Option String} (h : FlowKept v a) :
    FlowKept v (Handled.mk a r d).conn := h

theorem FlowKept.ite_conn {p : Prop} [Decidable p] {a b : Handled} (ha : FlowKept v a.conn)
    (hb : FlowKept v b.conn) : FlowKept v (if p then a else b).conn := by
  split
  · exact ha
  · exact hb

theorem setPriority_flowKept (h : FlowKept v c) (priority : Priority) : FlowKept v (setPriority c id priority) := by
  unfold setPriority
  split
  exact schedulerOpen_flowKept id h _ _

theorem sendInvalidRequestError_flowKept (h : FlowKept v c) (errDesc : String) :
    FlowKept v (sendInvalidRequestError c id errDesc) :=
  h2oSendError400_flowKept id (streamSetState_flowKept id (streamSetState_flowKept id h _) _) _

theorem handleIncomingRequest_flowKept (h : FlowKept v c) (src : List UInt8) :
    FlowKept v (handleIncomingRequest ctx c id src).conn := by
  unfold handleIncomingRequest
  lift_lets
  intro c1 decoded p c2 c3 isConnect c4
  have h2 : FlowKept v c2 := (h.check _ _).of_flow rfl rfl
  have h3 : FlowKept v c3 := h2.modifyStream id _ (by intros; rfl)
  have h4 : FlowKept v c4 := h3.modifyStream id _ (by intros; rfl)
  split
  · exact h2
  · exact .ite_conn (.handled (streamReset_flowKept ctx id (streamSendError_flowKept h3 _ _)))
      (.ite_conn (.handled (streamReset_flowKept ctx id (streamSendError_flowKept h3 _ _)))
        (.ite_conn (.handled (sendInvalidRequestError_flowKept id (h3.check _ _) _))
          (.ite_conn
            (.ite_conn (.handled (sendInvalidRequestError_flowKept id h3 _))
              (.handled (processRequest_flowKept ctx id
                (setReqBodyState_flowKept id (streamSetState_flowKept id h4 _) _))))
            (.ite_conn (.handled (executeOrEnqueueRequest_flowKept ctx id h3))
              (.handled (setReqBodyState_flowKept id (streamSetState_flowKept id h3 _) _))))))

theorem handleTrailingHeaders_flowKept (h : FlowKept v c) (src : List UInt8) (answers : Input) :
    FlowKept v (handleTrailingHeaders ctx c id src answers).conn := by
  unfold handleTrailingHeaders
  lift_lets
  intro decoded p c1
  have h1 : FlowKept v c1 := h.of_flow rfl rfl
  split
  · exact h1
  · exact handleRequestBodyChunk_flowKept ctx id h1 _ _ _

theorem expectContinuationOfHeaders_flowKept (h : FlowKept v c) (read : v.prefaceRead = true) (input : Input) :
    FlowKept v (expectContinuationOfHeaders ctx c input).conn := by
  dsimp only [expectContinuationOfHeaders]
  split
  · exact h
  · exact h
  · rename_i sid endHeaders fragment _ _ _
    have h1 : FlowKept v { c with headersUnparsed := some (c.headersUnparsed.getD [] ++ fragment) } := h.of_flow rfl rfl
    have h2 := h1.readExpect read .default (by decide)
    split
    · exact h
    · split
      · exact h
      · split
        · split
          · exact (FlowKept.ite_conn (handleIncomingRequest_flowKept ctx sid h2 _)
              (handleTrailingHeaders_flowKept ctx sid h2 _ _)).of_flow rfl rfl
          · exact h.of_flow rfl rfl
        · exact streamReset_flowKept ctx sid (streamSendError_flowKept h _ _)
  · exact h

/-- Waiting for CONTINUATION once the preface is read. -/
theorem prepareForContinuation_flowKept (h : FlowKept v c) (read : v.prefaceRead = true) (fragment : List UInt8) :
    FlowKept v (prepareForContinuation c fragment).conn :=
  (h.readExpect read .continuation (by decide)).of_flow rfl rfl

/-- `handle_headers_frame` prepares only pull streams, and opens streams with odd ids. -/
theorem handleHeadersFrame_flowKept (h : FlowKept v c) (read : v.prefaceRead = true) {sid : Nat}
    (endStream endHeaders hasPriority : Bool)
    (payload : Except DecodeError HeadersPayload) (answers : Input) :
    FlowKept v (handleHeadersFrame ctx c sid endStream endHeaders hasPriority payload answers).conn := by
  unfold handleHeadersFrame
  split
  · exact h
  · by_cases even : sid % 2 = 0
    · rw [if_pos even]
      exact h
    rw [if_neg even]
    refine .ite_conn ?_ (.ite_conn (.handled h) ?_)
    · split
      · exact h
      · exact .ite_conn (.handled h) (.ite_conn (.handled h) (.ite_conn (.handled h)
          (.ite_conn (prepareForContinuation_flowKept h read _) (handleTrailingHeaders_flowKept ctx sid h _ _))))
    · have pull : streamIsPush sid = false := by simpa [streamIsPush] using even
      lift_lets
      intro c1 c2 c3
      have h1 : FlowKept v c1 := by
        dsimp only [c1]
        split
        · exact .ite ((setPriority_flowKept sid h _).modifyStream sid _ (by intros; rfl)) h
        · have opened : FlowKept v { c with receivedAnyRequest := true } := h.of_flow rfl rfl
          exact setPriority_flowKept sid (streamOpen_flowKept sid opened (by omega) _) _
      have h2 : FlowKept v c2 := streamPrepareForRequest_flowKept sid h1 pull
      have h3 : FlowKept v c3 := .ite (h2.modifyStream sid _ (by intros; rfl)) h2
      exact .ite_conn (handleIncomingRequest_flowKept ctx sid h3 _) (prepareForContinuation_flowKept h3 read _)

theorem handlePriorityFrame_flowKept (h : FlowKept v c) (sid : Nat) (payload : Except DecodeError Priority) :
    FlowKept v (handlePriorityFrame ctx c sid payload).conn := by
  unfold handlePriorityFrame
  split
  · exact h
  · refine .ite_conn (.handled h) ?_
    split
    · lift_lets
      intro c1
      have h1 : FlowKept v c1 := h.modifyStream sid _ (by intros; rfl)
      exact .handled (.ite (setPriority_flowKept sid h1 _) h1)
    · split
      · exact .handled h
      · rename_i notIdle
        have above : sid ≠ 0 := by
          intro zero
          simp [zero] at notIdle
        exact .ite_conn (.handled h) (.handled (setPriority_flowKept sid (streamOpen_flowKept sid h above _) _))

end H2oHttp2
