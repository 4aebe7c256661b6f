import H2oHttp2.TableBody
import H2oHttp2.StreamLimit

/-!
# The stream table under request headers

`handle_incoming_request` keeps `TableOk` whatever the peer sends: a complete request is
dispatched or queued, one with a body is opened for it, a CONNECT request becomes a tunnel in one
step from RECV_HEADERS (`tunnelOpen_kept`), and a malformed one is answered with 400 or reset.
The last section states it, with running the pending queue, unregistering a stream and closing
the connection, as what a maintainer relies on: from a consistent table, each operation leaves
a consistent table unless one of the source's assertions fails.
-/
namespace H2oHttp2

section Headers

variable {A : Prop} {c : Conn} {id : Nat} (ctx : Ctx)

/-- `send_invalid_request_error` on a request whose headers were just read: its 400 response
    moves it through REQ_PENDING to SEND_HEADERS. -/
theorem sendInvalidRequestError_kept (errDesc : String) (h : A → TableOk c → (c.stream id).state = .recvHeaders) :
    TableKept A c (sendInvalidRequestError c id errDesc) :=
  (streamSetState_quiet_kept (.inr (.inl rfl)) fun a ok => by rw [h a ok]; decide).trans
    (streamSetState_sendHeaders_kept.trans (h2oSendError400_kept _))

/-- A CONNECT request becomes a tunnel in one step from RECV_HEADERS: marked, its body opened and
    streamed. The steps in between do not keep the table, the whole does. -/
theorem tunnelOpen_kept (h : A → TableOk c → (c.stream id).state = .recvHeaders) :
    TableKept A c (setReqBodyState (streamSetState (c.modifyStream id fun s =>
      { s with isTunnelReq := true, proceedReq := true }) id .recvBody) id .opened) := by
  have opened : TableKept A c (c.modifyStream id fun s =>
      { s with isTunnelReq := true, proceedReq := true, state := .recvBody, reqBodyState := .opened }) := by
    refine TableKept.modifyStream (by intro; rfl) fun a ok s found => ?_
    have headers := h a ok
    rw [Conn.stream_of_found found] at headers
    have sound := ok.core.sound_of_found found
    have sid := (Conn.mem_of_getStream found).2
    have unprocessed := sound.unprocessed (.inl (by rw [headers]; decide))
    refine ⟨rfl, by rw [headers]; rfl, rfl, ⟨?_, fun _ => (by decide : StreamState.recvHeaders < .recvBody),
      fun _ => unprocessed, fun _ => nofun,
      fun act => .inl ((sound.activeHasData act).resolve_right (by rw [headers]; decide)),
      fun called => absurd called (by rw [unprocessed]; nofun)⟩, fun memI => ?_,
      fun act => sid ▸ ok.core.not_proceeding found act⟩
    · rw [sound.slot]
      exact Eq.symm (Stream.expectedSlot_congr rfl (by rw [headers]; decide)
        (by decide : StreamState.recvBody ≠ .idle ∧ StreamState.recvBody ≠ .endStream))
    · have ready := (ok.core.waiting found (sid ▸ memI)).ready
      rw [headers] at ready
      exact absurd ready (Nat.lt_irrefl _)
  have grows : (c.modifyStream id fun s => { s with isTunnelReq := true, proceedReq := true }).failed <+:
      (setReqBodyState (streamSetState (c.modifyStream id fun s =>
        { s with isTunnelReq := true, proceedReq := true }) id .recvBody) id .opened).failed :=
    ((streamSetState_quiet_kept (.inl rfl) fun (f : False) _ => f.elim).trans
      (setReqBodyState_kept fun (f : False) _ => f.elim)).grows
  refine opened.trans (TableKept.of_table_grows ?_ (by simp) grows)
  rw [setReqBodyState_table, show ∀ c' : Conn, streamSetState c' id .recvBody = c'.setStreamState id .recvBody from
    fun _ => rfl, Conn.setStreamState, Conn.modifyStream_modifyStream _ _ (by intro; rfl),
    Conn.modifyStream_modifyStream _ _ (by intro; rfl)]
  rfl

/-- `handle_incoming_request`, on any stream: a complete request is dispatched, queued, opened
    for its body or turned into a tunnel; a malformed one is answered or reset. -/
theorem handleIncomingRequest_kept (src : List UInt8) : TableKept A c (handleIncomingRequest ctx c id src).conn := by
  refine TableKept.assume ?_
  unfold handleIncomingRequest
  lift_lets
  intro c1 decoded p c2 c3 isConnect c4
  refine TableKept.checked_of (rfl : c.check _ _ = c1) ((TableKept.of_table rfl rfl rfl : TableKept _ c1 c2).trans ?_)
  have same3 : TableSame c c3 :=
    ((TableSame.check c _ _).trans (TableSame.of_table rfl rfl rfl : TableSame c1 c2)).trans
      (TableSame.modifyStream_view c2 id fun _ => rfl)
  have view := same3.stream_view id
  have headers : ∀ {B : Prop}, (B ∧ TableOk c) ∧ ((c.stream id).state == .recvHeaders) = true →
      ∃ t, c.getStream id = some t ∧ t.state = .recvHeaders ∧ t.reqBodyState = .none ∧ t.processCalled = false ∧
        id ∉ c.pendingReqs := fun ⟨⟨_, ok⟩, pass⟩ => by
    have state : (c.stream id).state = .recvHeaders := by simpa using pass
    obtain ⟨t, found⟩ := Option.isSome_iff_exists.1 (Conn.present_of_state (by rw [state]; nofun))
    rw [Conn.stream_of_found found] at state
    have sound := ok.core.sound_of_found found
    refine ⟨t, found, state, ?_, sound.unprocessed (.inl (by rw [state]; decide)), fun memI => ?_⟩
    · by_contra started
      exact absurd (state ▸ sound.bodyStarted started) (Nat.lt_irrefl _)
    · exact absurd (state ▸ (ok.core.waiting found memI).ready) (Nat.lt_irrefl _)
  have state3 : ∀ {B : Prop}, (B ∧ TableOk c) ∧ ((c.stream id).state == .recvHeaders) = true →
      (c3.stream id).state = .recvHeaders := fun x => by
    obtain ⟨t, found, state, -⟩ := headers x
    rw [show (c3.stream id).state = (c.stream id).state from congrArg StreamView.state view,
      Conn.stream_of_found found, state]
  have present3 : (c3.getStream id).isSome = (c.getStream id).isSome := same3.getStream_isSome id
  split
  · exact TableKept.refl
  refine (TableSame.modifyStream_view c2 id fun _ => rfl : TableSame c2 c3).kept.trans ?_
  split
  · dsimp only
    exact (streamSendError_same c3 _ _).kept.trans (streamReset_kept ctx)
  split
  · dsimp only
    exact (streamSendError_same c3 _ _).kept.trans (streamReset_kept ctx)
  split
  · dsimp only
    exact (TableKept.check _ _).trans (sendInvalidRequestError_kept _ fun x _ => by rw [Conn.check_stream, state3 x])
  split
  · split
    · dsimp only
      exact sendInvalidRequestError_kept _ fun x _ => state3 x
    · dsimp only
      have tunnel : TableKept ((A ∧ TableOk c) ∧ _) c3 (setReqBodyState (streamSetState c4 id .recvBody) id .opened) :=
        tunnelOpen_kept fun x _ => state3 x
      refine tunnel.trans (processRequest_kept ctx fun x _ => ?_)
      obtain ⟨t, found, -, -, -, notPending⟩ := headers x
      have present4 : (c4.getStream id).isSome := by
        rw [Conn.getStream_isSome_modifyStream _ _ (by intro; rfl), present3, found]
        rfl
      have present5 : ((streamSetState c4 id .recvBody).getStream id).isSome := by
        rw [streamSetState_getStream _ _ (.inl rfl), Option.isSome_map']
        exact present4
      refine ⟨⟨?_, ?_⟩, ?_⟩
      · rw [show ∀ s : Stream, s.view.state = s.state from fun _ => rfl,
          Conn.stream_of_map id (setReqBodyState_getStream _ id .opened) (g := Stream.state) fun _ => rfl,
          streamSetState_stream_state _ _ (.inl rfl) present4]
        decide
      · rw [show ∀ s : Stream, s.view.reqBodyState = s.reqBodyState from fun _ => rfl,
          setReqBodyState_stream_reqBodyState _ _ _ present5]
        nofun
      · rw [setReqBodyState_pendingReqs, streamSetState_pendingReqs, show c4.pendingReqs = c3.pendingReqs from rfl,
          same3.pendingReqs]
        exact notPending
  split
  · dsimp only
    refine executeOrEnqueueRequest_kept ctx fun x _ => ?_
    obtain ⟨t, found, -, body, unprocessed, notPending⟩ := headers x
    rw [show (c3.stream id).reqBodyState = (c.stream id).reqBodyState from congrArg StreamView.reqBodyState view,
      show (c3.stream id).processCalled = (c.stream id).processCalled from congrArg StreamView.processCalled view,
      same3.pendingReqs, Conn.stream_of_found found, body]
    exact ⟨nofun, nofun, .inl unprocessed, notPending⟩
  · dsimp only
    refine (streamSetState_quiet_kept (.inl rfl) fun x _ => by rw [state3 x]; decide).trans
      (setReqBodyState_kept fun x _ => ?_)
    obtain ⟨t, found, -, -, unprocessed, notPending⟩ := headers x
    have present : (c3.getStream id).isSome := by rw [present3, found]; rfl
    rw [streamSetState_stream_state _ _ (.inl rfl) present,
      Conn.stream_of_map id (streamSetState_getStream c3 id (.inl rfl)) (g := Stream.processCalled) fun _ => rfl,
      show (c3.stream id).processCalled = (c.stream id).processCalled from congrArg StreamView.processCalled view,
      Conn.stream_of_found found, streamSetState_pendingReqs, same3.pendingReqs]
    exact ⟨by decide, fun _ => unprocessed, fun memI => absurd memI notPending⟩

end Headers

/-! ### Whole operations

Each of these operations, started from any connection whose stream table is consistent, leaves
it consistent, unless one of the assertions of the source fails on the way.
-/

section Operations

theorem createConn_tableOk : TableOk createConn := by
  refine ⟨⟨?_, ?_, fun σ _ => ?_, fun σ _ => ?_, rfl, ?_, ?_, ?_, ?_, ?_⟩, ?_⟩
  all_goals try cases σ
  all_goals simp [createConn, PushIdsBelow, NumStreams.slot]

/-- Stream 1 opened and waiting for its request headers, as `h2o_http2_handle_upgrade` leaves it. -/
def headersConn : Conn :=
  streamPrepareForRequest (schedulerOpen (streamOpen createConn 1 defaultPriority) 1 .root defaultPriority.weight) 1

theorem headersConn_tableOk : TableOk headersConn :=
  (streamPrepareForRequest_kept (A := True) fun _ _ => by rfl).keeps trivial
    ((schedulerOpen_kept (A := True) .root _).keeps trivial
      ((streamOpen_kept (A := True) defaultPriority fun _ _ => by exact ⟨rfl, rfl⟩).keeps trivial createConn_tableOk rfl) rfl) rfl

/-- Streams 1, 3 and 5 after the preface, 3 and 5 queued. Stream 1's body is streamed, so with
    one streamed request allowed, stream 3, streamed too, waits, while stream 5, a request
    without a body, can be dispatched. -/
def admissionConn : Conn :=
  { prefacedConn [{ bodyStream 1 with reqBodyState := .opened, proceedReq := true, streamed := true, processCalled := true },
      { bodyStream 3 with reqBodyState := .opened, proceedReq := true },
      { Stream.fresh 5 65535 defaultPriority with state := .reqPending, schedOpen := true, schedWeight := 16, slot := .pull }]
      5 ⟨⟨3, 0⟩, ⟨0, 0⟩, ⟨0, 0⟩, 0, 1, 0⟩ true with pendingReqs := [3, 5] }

theorem admissionConn_tableOk : TableOk admissionConn := by
  refine ⟨⟨by decide, ?_, fun σ _ => ?_, fun σ _ => ?_, rfl, by decide, ?_, List.nodup_nil, nofun, ?_⟩, ?_⟩
  · simp only [admissionConn, prefacedConn, List.mem_cons, List.mem_singleton, forall_eq_or_imp, forall_eq,
      List.not_mem_nil, false_imp_iff, implies_true, and_true]
    refine ⟨⟨rfl, fun _ => by decide, nofun, nofun, nofun, fun _ => .inl rfl⟩,
      ⟨rfl, fun _ => by decide, fun _ => rfl, nofun, nofun, nofun⟩,
      ⟨rfl, fun _ => by decide, fun _ => rfl, nofun, nofun, nofun⟩⟩
  all_goals try cases σ
  all_goals simp [admissionConn, prefacedConn, PushIdsBelow, NumStreams.slot, bodyStream, Stream.fresh,
    streamIsPush, StreamState.sending]
  exact ⟨⟨by decide, nofun, fun _ => rfl, rfl⟩, ⟨by decide, nofun, nofun, rfl⟩⟩

/-- `run_pending_requests` keeps the stream table consistent: each request it dispatches or leaves
    queued keeps the counters of `num_streams` equal to the streams they count, and the queue and
    the proceed list naming distinct streams of the map. -/
theorem pending_requests_keep_table (ctx : Ctx) {c : Conn} (ok : TableOk c)
    (held : (runPendingRequests ctx c).failed = c.failed) : TableOk (runPendingRequests ctx c) :=
  (runPendingRequests_kept (A := True) ctx).keeps trivial ok held

theorem pending_requests_keep_table_on_admission : TableOk admissionConn ∧
    (runPendingRequests sampleCtx admissionConn).failed = admissionConn.failed ∧
      TableOk (runPendingRequests sampleCtx admissionConn) ∧
      (runPendingRequests sampleCtx admissionConn).pendingReqs = [3] ∧
      (runPendingRequests sampleCtx admissionConn).log.count (.process 5) = 1 :=
  ⟨admissionConn_tableOk, rfl, pending_requests_keep_table sampleCtx admissionConn_tableOk rfl, rfl, by decide⟩

/-- `handle_incoming_request` keeps the stream table consistent whatever the peer sent: a request
    dispatched, queued, opened for its body, turned into a tunnel, answered with 400 or reset. -/
theorem incoming_request_keeps_table (ctx : Ctx) {c : Conn} (id : Nat) (src : List UInt8) (ok : TableOk c)
    (held : (handleIncomingRequest ctx c id src).conn.failed = c.failed) : TableOk (handleIncomingRequest ctx c id src).conn :=
  (handleIncomingRequest_kept (A := True) ctx src).keeps trivial ok held

theorem incoming_request_keeps_table_on_upgrade : TableOk headersConn ∧
    (handleIncomingRequest sampleCtx headersConn 1 []).conn.failed = headersConn.failed ∧
      TableOk (handleIncomingRequest sampleCtx headersConn 1 []).conn :=
  ⟨headersConn_tableOk, rfl, incoming_request_keeps_table sampleCtx 1 [] headersConn_tableOk rfl⟩

/-- Stream 1 with its request body open before the first DATA frame, as `handle_incoming_request`
    leaves it. -/
def firstChunkConn : Conn := prefacedConn [bodyStream 1] 1 (pullOpen 1) true

theorem firstChunkConn_tableOk : TableOk firstChunkConn := by
  refine ⟨⟨by decide, ?_, fun σ _ => ?_, fun σ _ => ?_, rfl, List.nodup_nil, nofun, List.nodup_nil, nofun, ?_⟩, ?_⟩
  · simp only [firstChunkConn, prefacedConn, List.mem_singleton, forall_eq]
    exact ⟨rfl, fun _ => by decide, fun _ => rfl, nofun, nofun, nofun⟩
  all_goals try cases σ
  all_goals simp [firstChunkConn, prefacedConn, PushIdsBelow, NumStreams.slot, pullOpen, bodyStream, Stream.fresh,
    streamIsPush, StreamState.sending]

/-- `handle_request_body_chunk` keeps the stream table consistent for every DATA payload: the first
    chunk opens the body, a body over the size limit or against its content-length resets the
    stream, and any other chunk is buffered or handed to the request. -/
theorem request_body_chunk_keeps_table (ctx : Ctx) {c : Conn} (id : Nat) (payload : List UInt8) (isEndStream : Bool)
    (answers : Input) (ok : TableOk c)
    (held : (handleRequestBodyChunk ctx c id payload isEndStream answers).failed = c.failed) :
    TableOk (handleRequestBodyChunk ctx c id payload isEndStream answers) :=
  (handleRequestBodyChunk_kept (A := True) ctx payload isEndStream answers).keeps trivial ok held

theorem request_body_chunk_keeps_table_on_first_chunk : TableOk firstChunkConn ∧
    (handleRequestBodyChunk sampleCtx firstChunkConn 1 [] true prefaceInput).failed = firstChunkConn.failed ∧
      TableOk (handleRequestBodyChunk sampleCtx firstChunkConn 1 [] true prefaceInput) :=
  ⟨firstChunkConn_tableOk, rfl, request_body_chunk_keeps_table sampleCtx 1 [] true prefaceInput firstChunkConn_tableOk rfl⟩

/-- `h2o_http2_conn_unregister_stream` keeps the stream table consistent, whatever the state of the
    stream it removes: the stream leaves its slot, the blocked count, the queue and the proceed
    list, and the requests it lets run keep the table. -/
theorem unregister_stream_keeps_table (ctx : Ctx) {c : Conn} (id : Nat) (ok : TableOk c)
    (held : (connUnregisterStream ctx c id).failed = c.failed) : TableOk (connUnregisterStream ctx c id) :=
  (connUnregisterStream_kept (A := True) ctx).keeps trivial ok held

theorem unregister_stream_keeps_table_on_upgrade : TableOk headersConn ∧
    (connUnregisterStream sampleCtx headersConn 1).failed = headersConn.failed ∧
      TableOk (connUnregisterStream sampleCtx headersConn 1) :=
  ⟨headersConn_tableOk, rfl, unregister_stream_keeps_table sampleCtx 1 headersConn_tableOk rfl⟩

/-- `close_connection` keeps the stream table consistent: a connection with a write in flight is
    only marked closing, and `close_connection_now` closes every stream in turn. -/
theorem close_connection_keeps_table (ctx : Ctx) {c : Conn} (ok : TableOk c)
    (held : (closeConnection ctx c).1.failed = c.failed) : TableOk (closeConnection ctx c).1 :=
  (closeConnection_kept (A := True) ctx).keeps trivial ok held

theorem close_connection_keeps_table_on_upgrade : TableOk headersConn ∧
    (closeConnection sampleCtx headersConn).1.failed = headersConn.failed ∧ TableOk (closeConnection sampleCtx headersConn).1 :=
  ⟨headersConn_tableOk, rfl, close_connection_keeps_table sampleCtx headersConn_tableOk rfl⟩

end Operations

end H2oHttp2
