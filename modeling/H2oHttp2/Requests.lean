import H2oHttp2.Stream

/-!
# Requests, teardown and the write request

The part of `connection.c` every frame handler builds on: asking for a gathered write,
GOAWAY, the idle timer, receive-window updates, the request-body sub-state, dispatching a
request (`process_request`) and the pending queue (`run_pending_requests`), unregistering
and closing streams, closing the connection, RST_STREAM, and handing a response to the
connection (`finalostream_send` of `stream.c`, modelled from the spec).
-/
namespace H2oHttp2

/-- `is_idle_stream_id`. -/
def isIdleStreamId (c : Conn) (id : Nat) : Bool :=
  (if streamIsPush id then c.pushMaxOpen else c.pullMaxOpen) < id

/-- `h2o_socket_is_writing`: a write or a write notification is outstanding. -/
def Socket.isWriting (s : Socket) : Bool := s.writing || s.notifying

/-- `request_gathered_write`. -/
def requestGatheredWrite (c : Conn) : Conn :=
  let c1 := c.check (c.state < .isClosing) .requestGatheredWriteState
  if !c1.sock.isWriting && !c1.write.timeoutEntry then
    { c1 with write := { c1.write with timeoutEntry := true } }
  else c1

/-- `h2o_http2_conn_request_write`. Stopping reads once the buffers pass their soft limit is
    left out: reads stay possible, which only adds runs. -/
def connRequestWrite (c : Conn) : Conn :=
  if c.state = .isClosing then c else requestGatheredWrite c

/-- `enqueue_goaway`. -/
def enqueueGoaway (c : Conn) (errnum : Int) (additionalData : Option String) : Conn :=
  if c.state < .isClosing then
    { connRequestWrite (c.encode (.goaway c.pullMaxOpen errnum additionalData)) with state := .halfClosed }
  else c

/-- `update_idle_timeout`: `_timeout_entry` stays as it is while a write is in flight. -/
def updateIdleTimeout (c : Conn) : Conn :=
  if c.write.bufInFlight.isSome then c.check c.timeoutEntry .updateIdleTimeoutLinked
  else if c.sock.earlyData then { c with timeoutEntry := true }
  else if c.numStreams.blockedByServer ≠ 0 then { c with timeoutEntry := false }
  else { c with timeoutEntry := true }

/-- `can_run_requests`. -/
def canRunRequests (ctx : Ctx) (c : Conn) : Bool :=
  c.numStreams.pull.halfClosed + c.numStreams.push.halfClosed < ctx.conf.maxConcurrentRequestsPerConnection

/-- `send_window_update`: stream 0 updates the connection's receive window, any other id the
    stream's. `h2o_http2_window_update`'s result is ignored: a window it would raise above
    `2^31 - 1` is left as it was. -/
def sendWindowUpdate (c : Conn) (streamId : Nat) (delta : Nat) : Conn :=
  let c1 := connRequestWrite ((c.check (delta ≤ int32Max) .sendWindowUpdateDelta).encode (.windowUpdate streamId delta))
  let avail := if streamId = 0 then c1.inputWindow else (c1.stream streamId).inputWindow
  match windowUpdate avail delta with
  | none => c1
  | some v =>
    if streamId = 0 then { c1 with inputWindow := v }
    else c1.modifyStream streamId fun s => { s with inputWindow := v }

/-- `bytes_unnotified >= avail` as C evaluates it: the `ssize_t` window is converted to
    `size_t`, so a negative window compares as at least `2^63`, above any byte count. -/
def unnotifiedCoversWindow (unnotified : Nat) (avail : Int) : Bool := 0 ≤ avail && avail ≤ unnotified

/-- `update_stream_input_window`. -/
def updateStreamInputWindow (c : Conn) (id : Nat) (delta : Nat) : Conn :=
  let c1 := c.modifyStream id fun s => { s with bytesUnnotified := s.bytesUnnotified + delta }
  let s := c1.stream id
  if unnotifiedCoversWindow s.bytesUnnotified s.inputWindow then
    (sendWindowUpdate c1 id s.bytesUnnotified).modifyStream id fun s => { s with bytesUnnotified := 0 }
  else c1

/-- `active_stream_window_size - H2O_HTTP2_SETTINGS_HOST_STREAM_INITIAL_WINDOW_SIZE`, computed
    in `uint32_t`. -/
def windowExtension (ctx : Ctx) : Nat :=
  (ctx.conf.activeStreamWindowSize + 0x100000000 - hostStreamInitialWindowSize) % 0x100000000

/-- `set_req_body_state`. -/
def setReqBodyState (c : Conn) (id : Nat) (new : ReqBodyState) : Conn :=
  let s := c.stream id
  let c1 := c.check (s.reqBodyState < new) .setReqBodyStateAdvance
  let c2 :=
    match new with
    | .none => c1.check false .setReqBodyStateNone
    | .closeDelivered =>
      let c3 := c1.check (!s.proceedReq) .setReqBodyStateProceedReq
      if s.streamed then
        { c3 with numStreams := { c3.numStreams with
            reqStreamingInProgress := c3.numStreams.reqStreamingInProgress - 1,
            tunnel := if s.isTunnelReq then c3.numStreams.tunnel - 1 else c3.numStreams.tunnel } }
      else c3
    | _ => c1
  c2.modifyStream id fun s => { s with reqBodyState := new }

/-- `h2o_process_request` of the core: the request is handed to the application, which reacts
    in later events. -/
def h2oProcessRequest (c : Conn) (id : Nat) : Conn :=
  { c.modifyStream id fun s => { s with processCalled := true } with log := c.log ++ [.process id] }

/-- `process_request`, with the application's `h2o_process_request` as `app`. -/
def processRequestWith (app : Conn → Nat → Conn) (ctx : Ctx) (c : Conn) (id : Nat) : Conn :=
  let s := c.stream id
  let c1 :=
    if s.proceedReq then
      let c2 := c.check (!(s.reqBodyState == .none || s.reqBodyState == .closeDelivered)) .processRequestBodyState
      let c3 := { c2 with numStreams := { c2.numStreams with
        reqStreamingInProgress := c2.numStreams.reqStreamingInProgress + 1,
        tunnel := if s.isTunnelReq then c2.numStreams.tunnel + 1 else c2.numStreams.tunnel } }
      updateStreamInputWindow (c3.modifyStream id fun s => { s with streamed := true }) id (windowExtension ctx)
    else if s.state < .sendHeaders then
      streamSetState (streamSetState c id .reqPending) id .sendHeaders
    else c
  let c4 := if !streamIsPush id && c1.pullMaxProcessed < id then { c1 with pullMaxProcessed := id } else c1
  app c4 id

/-- `process_request`, handing the request to the application as `h2oProcessRequest` does. -/
def processRequest (ctx : Ctx) (c : Conn) (id : Nat) : Conn := processRequestWith h2oProcessRequest ctx c id

/-- `a - b` in `uint32_t`. -/
def sub32 (a b : Nat) : Nat := (a + 0x100000000 - b) % 0x100000000

/-- One pass of `run_pending_requests` over the queue as it stood when the pass began, with the
    application's `h2o_process_request` as `app`: it stops once `can_run_requests` fails, skips
    streamed requests over the streaming limit, and unlinks and dispatches the rest. The flag
    says whether it dispatched one. -/
def runPendingPass (app : Conn → Nat → Conn) (ctx : Ctx) : Conn → List Nat → Conn × Bool
  | c, [] => (c, false)
  | c, id :: rest =>
    if !canRunRequests ctx c then (c, false)
    else if (c.stream id).proceedReq &&
        ctx.conf.maxConcurrentStreamingRequestsPerConnection ≤
          sub32 c.numStreams.reqStreamingInProgress c.numStreams.tunnel then
      runPendingPass app ctx c rest
    else ((runPendingPass app ctx (processRequestWith app ctx (c.unlink id) id) rest).1, true)

/-- The outer loop of `run_pending_requests`, repeated while a pass dispatched a request and the
    queue is not empty, with a bound on its passes. -/
def runPendingLoop (app : Conn → Nat → Conn) (ctx : Ctx) : Nat → Conn → Conn
  | 0, c => c
  | fuel + 1, c =>
    let r := runPendingPass app ctx c c.pendingReqs
    if r.2 && !r.1.pendingReqs.isEmpty then runPendingLoop app ctx fuel r.1 else r.1

/-- `run_pending_requests`, with the application's `h2o_process_request` as `app`. An
    application that leaves the queue alone lets each pass that dispatches shorten it, so the
    bound is never reached (`runPendingLoop_spec`). -/
def runPendingRequestsWith (app : Conn → Nat → Conn) (ctx : Ctx) (c : Conn) : Conn :=
  runPendingLoop app ctx (c.pendingReqs.length + 1) c

/-- `run_pending_requests`. -/
def runPendingRequests (ctx : Ctx) (c : Conn) : Conn := runPendingRequestsWith h2oProcessRequest ctx c

/-- `execute_or_enqueue_request_core`. -/
def executeOrEnqueueRequestCore (ctx : Ctx) (c : Conn) (id : Nat) : Conn :=
  updateIdleTimeout (runPendingRequests ctx { c with pendingReqs := c.pendingReqs ++ [id] })

/-- `h2o_http2_scheduler_close` on a node of the recently-closed ring, after the assertion `k`
    that it is open. -/
def closeClosedNode (c : Conn) (node : ClosedNode) (k : Check) : Conn :=
  let c1 := c.check node.schedOpen k
  { c1 with log := c1.log ++ [.schedulerClose node.streamId] }

/-- `h2o_http2_conn_preserve_stream_scheduler`: the stream's node moves, open, into the ring slot
    `next_slot`; a node kept there is closed first. -/
def connPreserveStreamScheduler (c : Conn) (id : Nat) : Conn :=
  let s := c.stream id
  let c1 := c.check s.schedOpen .preserveSchedulerOpen
  let slot := c1.recentlyClosed.nextSlot
  let next := if slot + 1 = closedStreamPriorities then 0 else slot + 1
  let c2 :=
    match (c1.recentlyClosed.streams[slot]?).join with
    | some evicted => closeClosedNode c1 evicted .preserveEvictedOpen
    | none => c1
  let ring := c2.recentlyClosed.streams.set slot (some ⟨id, s.schedWeight, true⟩)
  { c2.modifyStream id (fun s => { s with schedOpen := false, schedActive := false })
    with recentlyClosed := ⟨ring, next⟩ }

/-- The bookkeeping of `h2o_http2_conn_unregister_stream` before it runs the pending requests:
    the scheduler node is preserved, the request body closed, the stream unblocked, unlinked
    and ended, and then it leaves the map (the code deletes it first, and nothing in between
    looks it up). -/
def connReleaseStream (c : Conn) (id : Nat) : Conn :=
  let c1 := connPreserveStreamScheduler c id
  let s := c1.stream id
  let c2 :=
    if s.reqBodyState ≠ .none && s.reqBodyState < .closeDelivered then
      setReqBodyState (c1.modifyStream id fun s => { s with proceedReq := false }) id .closeDelivered
    else c1
  let c3 := if (c2.stream id).blockedByServer then streamSetBlockedByServer c2 id false else c2
  let c4 :=
    match s.state with
    | .recvBody => if c3.isLinked id then c3.unlink id else c3
    | .idle | .recvHeaders => c3.check (!(c3.isLinked id)) .unregisterNotLinked
    | .reqPending => (c3.check (c3.isLinked id) .unregisterLinked).unlink id
    | _ => if c3.isLinked id then c3.unlink id else c3
  let c5 := if (c4.stream id).state ≠ .endStream then streamSetState c4 id .endStream else c4
  { c5 with streams := c5.streams.filter (·.streamId ≠ id) }

/-- `h2o_http2_conn_unregister_stream`. -/
def connUnregisterStream (ctx : Ctx) (c : Conn) (id : Nat) : Conn :=
  let c1 := connReleaseStream c id
  if c1.state < .isClosing then updateIdleTimeout (runPendingRequests ctx c1) else c1

/-- `h2o_http2_stream_close`. Modelled from the spec: a stream is destroyed by unregistering it
    from the connection, its scheduler node moving into the recently-closed ring (§3). -/
def streamClose (ctx : Ctx) (c : Conn) (id : Nat) : Conn := connUnregisterStream ctx c id

/-- `h2o_http2_stream_reset`. Modelled from the spec: a stream that has not begun its response
    is destroyed at once; one that has is moved to END_STREAM, taken off the scheduler and
    left to be closed from its proceed callback after the write, so that no callback frame is
    freed while it runs (§4.4, §5). -/
def streamReset (ctx : Ctx) (c : Conn) (id : Nat) : Conn :=
  let deferClose (c : Conn) : Conn :=
    let c1 := schedulerSetActive c id false
    if c1.isLinked id then c1
    else { c1 with write := { c1.write with streamsToProceed := c1.write.streamsToProceed ++ [id] } }
  match (c.stream id).state with
  | .idle | .recvHeaders | .recvBody | .reqPending => streamClose ctx c id
  | .sendHeaders | .sendBody | .sendBodyIsFinal => deferClose (streamSetState c id .endStream)
  | .endStream => deferClose c

/-- `reset_stream_if_disregarded`. -/
def resetStreamIfDisregarded (ctx : Ctx) (c : Conn) (id : Nat) : Conn × Bool :=
  if !streamIsPush id && id > c.pullMaxOpen then (streamReset ctx c id, true) else (c, false)

/-- `execute_or_enqueue_request`. -/
def executeOrEnqueueRequest (ctx : Ctx) (c : Conn) (id : Nat) : Conn :=
  let s := c.stream id
  let c1 := c.check (s.state == .recvHeaders || s.state == .reqPending) .executeOrEnqueueState
  let r := resetStreamIfDisregarded ctx c1 id
  if r.2 then r.1
  else
    let c2 := streamSetState c1 id .reqPending
    let c3 := if !(c2.stream id).blockedByServer then streamSetBlockedByServer c2 id true else c2
    executeOrEnqueueRequestCore ctx c3 id

/-- The counters `close_connection_now` asserts to be zero once every stream is closed, but the
    two of request streaming. -/
def NumStreams.StreamCountersZero (n : NumStreams) : Bool :=
  n.pull.opened == 0 && n.pull.halfClosed == 0 && n.push.halfClosed == 0 &&
    n.priority.opened == 0 && n.blockedByServer == 0

/-- The slots of `_recently_closed_streams` freed by the loop of `close_connection_now`: those
    from the first up to the first empty one. -/
def RecentlyClosed.freeNodes (r : RecentlyClosed) : RecentlyClosed :=
  { r with streams := (r.streams.takeWhile (·.isSome)).map (fun _ => none) ++ r.streams.dropWhile (·.isSome) }

/-- The loop of `close_connection_now` over `_recently_closed_streams`: from the first slot up to
    the first empty one, each node is asserted open, closed and freed. -/
def closeRecentlyClosed (c : Conn) : Conn :=
  let nodes := (c.recentlyClosed.streams.takeWhile (·.isSome)).filterMap id
  { nodes.foldl (fun d node => closeClosedNode d node .closeNowClosedOpen) c with
    recentlyClosed := c.recentlyClosed.freeNodes }

/-- What each step of the ring loop of `close_connection_now` keeps, the loop keeps. -/
theorem foldl_closeClosedNode {P : Conn → Prop} (step : ∀ d node, P d → P (closeClosedNode d node .closeNowClosedOpen)) :
    ∀ (nodes : List ClosedNode) (c : Conn), P c → P (nodes.foldl (fun d node => closeClosedNode d node .closeNowClosedOpen) c)
  | [], _, h => h
  | node :: nodes, c, h => foldl_closeClosedNode step nodes _ (step c node h)

/-- The ring loop of `close_connection_now` touches only the failed assertions, the log and the
    ring. -/
theorem closeRecentlyClosed_eq (c : Conn) :
    ∃ failed log, closeRecentlyClosed c = { c with failed := failed, log := log, recentlyClosed := c.recentlyClosed.freeNodes } := by
  obtain ⟨failed, log, eq⟩ := foldl_closeClosedNode (P := fun d => ∃ failed log, d = { c with failed := failed, log := log })
    (fun d node ⟨failed, log, eq⟩ => by
      unfold closeClosedNode Conn.check
      split
      · exact ⟨failed, log ++ [.schedulerClose node.streamId], by rw [eq]⟩
      · exact ⟨failed ++ [.closeNowClosedOpen], log ++ [.schedulerClose node.streamId], by rw [eq]⟩)
    _ c ⟨c.failed, c.log, rfl⟩
  exact ⟨failed, log, by rw [closeRecentlyClosed, eq]⟩

@[simp] theorem closeRecentlyClosed_write (c : Conn) : (closeRecentlyClosed c).write = c.write := by
  obtain ⟨_, _, eq⟩ := closeRecentlyClosed_eq c
  rw [eq]

@[simp] theorem closeRecentlyClosed_streams (c : Conn) : (closeRecentlyClosed c).streams = c.streams := by
  obtain ⟨_, _, eq⟩ := closeRecentlyClosed_eq c
  rw [eq]

/-- The timers `close_connection_now` unlinks and the write buffers it disposes of. -/
def disposeTimersAndBuffers (c : Conn) : Conn :=
  { c with
    timeoutEntry := false,
    gracefulShutdown := { c.gracefulShutdown with linked := false },
    write := { c.write with buf := [], bufInFlight := none } }

/-- `close_connection_now`: every stream is closed, the buffers and timers disposed of, the
    nodes of the ring freed, and the connection destroyed. -/
def closeConnectionNow (ctx : Ctx) (c : Conn) : Conn :=
  let c1 := { c with state := .isClosing }
  let c2 := c1.check (!c1.write.timeoutEntry) .closeNowWriteTimer
  let c3 := (c2.streams.map (·.streamId)).foldl (streamClose ctx) c2
  let c4 := c3.check c3.numStreams.StreamCountersZero .closeNowCounters
  let c5 := c4.check (c4.numStreams.reqStreamingInProgress == 0 && c4.numStreams.tunnel == 0)
    .closeNowStreamingCounters
  let c6 := c5.check c5.pendingReqs.isEmpty .closeNowPendingEmpty
  let c7 := closeRecentlyClosed (disposeTimersAndBuffers c6)
  let c8 := c7.check c7.write.streamsToProceed.isEmpty .closeNowProceedEmpty
  let c9 := c8.check (!c8.write.timeoutEntry) .closeNowWriteTimer
  { c9 with destroyed := true, sock := { c9.sock with reading := false, writing := false, notifying := false } }

/-- `close_connection`: `-1` when the connection is closed now, `0` when a pending write is
    left to close it. -/
def closeConnection (ctx : Ctx) (c : Conn) : Conn × Int :=
  let c1 := { c with state := .isClosing }
  if c1.write.bufInFlight.isSome || c1.write.timeoutEntry then (c1, 0) else (closeConnectionNow ctx c1, -1)

/-- `stream_send_error`. -/
def streamSendError (c : Conn) (streamId : Nat) (errnum : Int) : Conn :=
  let c1 := (c.check (streamId ≠ 0) .streamSendErrorStreamId).check (c.state < .isClosing) .streamSendErrorState
  connRequestWrite (c1.encode (.rstStream streamId errnum))

/-- `update_stream_output_window`: `-1` when the window would overflow. -/
def updateStreamOutputWindow (c : Conn) (id : Nat) (delta : Int) : Conn × Int :=
  let s := c.stream id
  match windowUpdate s.outputWindow delta with
  | none => (c, -1)
  | some v =>
    let c1 := c.modifyStream id fun s => { s with outputWindow := v }
    if s.outputWindow ≤ 0 && 0 < v && (s.hasPendingData || s.state == .sendBodyIsFinal) then
      (schedulerSetActive (c1.check (!(c1.isLinked id)) .outputWindowNotLinked) id true, 0)
    else (c1, 0)

/-- `h2o_http2_conn_register_for_proceed_callback`. -/
def connRegisterForProceedCallback (c : Conn) (id : Nat) : Conn :=
  let c1 := connRequestWrite c
  let s := c1.stream id
  if s.hasPendingData || .sendBodyIsFinal ≤ s.state then
    if 0 < s.outputWindow then schedulerSetActive (c1.check (!(c1.isLinked id)) .proceedCallbackNotLinked) id true
    else c1
  else { c1 with write := { c1.write with streamsToProceed := c1.write.streamsToProceed ++ [id] } }

/-- `finalostream_send` of `stream.c`: the generator hands over `bytes` more of the response,
    the last ones when `final` holds. Modelled from the spec: a response begins once the
    request is admitted, or while a streamed request is still being received (a tunnel is
    bidirectional); HEADERS is encoded before any DATA; the stream moves through SEND_BODY to
    SEND_BODY_IS_FINAL with its last data; a reset stream takes no more data; the stream is no
    longer blocked by the server once its generator has sent (§4.4, §5). -/
def finalostreamSend (c : Conn) (id : Nat) (bytes : Nat) (final : Bool) : Conn :=
  let c0 := c.check (!(c.stream id).hasPendingData) .finalostreamPending
  let c1 := if (c0.stream id).blockedByServer then streamSetBlockedByServer c0 id false else c0
  let sendHeaders (c : Conn) : Conn :=
    let c2 := streamSetState (c.encode (.headers id)) id .sendBody
    if final then streamSetState c2 id .sendBodyIsFinal else c2
  let queue (c : Conn) : Conn :=
    connRegisterForProceedCallback (c.modifyStream id fun s => { s with pendingData := bytes }) id
  match (c1.stream id).state with
  | .recvBody => queue (sendHeaders (streamSetState (streamSetState c1 id .reqPending) id .sendHeaders))
  | .reqPending => queue (sendHeaders (streamSetState c1 id .sendHeaders))
  | .sendHeaders => queue (sendHeaders c1)
  | .sendBody => queue (if final then streamSetState c1 id .sendBodyIsFinal else c1)
  | .endStream => c1
  | _ => c1.check false .finalostreamReceiving

/-- The length of the body `h2o_send_error_400` sends. -/
def error400BodyLength (desc : String) : Nat := desc.length

/-- `h2o_send_error_400` of the core: a complete response. -/
def h2oSendError400 (c : Conn) (id : Nat) (desc : String) : Conn :=
  finalostreamSend c id (error400BodyLength desc) true

end H2oHttp2
