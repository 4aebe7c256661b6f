import Mathlib.Tactic.LiftLets
import H2oHttp2.Wire
import H2oHttp2.Shutdown

/-!
# Streams above the GOAWAY boundary

Once GOAWAY is out, `h2o_http2_stream_prepare_for_request` no longer raises
`pull_stream_ids.max_open` (`streamPrepareForRequest_pullMaxOpen`), so every stream the peer
opens after it keeps an id above the boundary. `handle_headers_frame` tells trailers from a
new request by that comparison alone: a HEADERS frame on such a stream is taken for the
stream's request headers whatever state the stream is in (`handleHeadersFrame_reprepares`).

The runs below follow from it. An id is opened a second time once its stream has been reset
as disregarded (`stream_id_opened_twice`), and a stream that is receiving its request body gets
its request headers again (`request_headers_handled_twice`), where the assertion of
`h2o_http2_stream_set_state` on the state it leaves fails.
-/
namespace H2oHttp2

/-! ### Preparing a stream for its request -/

theorem streamSetState_pullMaxOpen (c : Conn) (id : Nat) (new : StreamState) :
    (streamSetState c id new).pullMaxOpen = c.pullMaxOpen :=
  congrArg WireView.pullMaxOpen (streamSetState_wire c id new)

/-- Once the connection is no longer open, preparing a pull stream leaves
    `pull_stream_ids.max_open` where it is. -/
theorem streamPrepareForRequest_pullMaxOpen (c : Conn) {id : Nat} (pull : streamIsPush id = false)
    (sent : c.state ≠ .opened) : (streamPrepareForRequest c id).pullMaxOpen = c.pullMaxOpen := by
  simp [streamPrepareForRequest, streamSetState_pullMaxOpen, pull, sent, Conn.check_eq]

theorem streamSetState_recvHeaders (c : Conn) {id : Nat} (found : (c.getStream id).isSome) :
    ((streamSetState c id .recvHeaders).stream id).state = .recvHeaders ∧
      (streamSetState c id .recvHeaders).failed =
        if (c.stream id).state = .idle then c.failed else c.failed ++ [.setStateRecvHeaders] := by
  simp [streamSetState, streamUpdateOpenSlot, Conn.setStreamState, found]

/-- Preparing a stream that is there moves it to RECV_HEADERS whatever its state; unless it was
    IDLE, the assertion of `h2o_http2_stream_set_state` fails. -/
theorem streamPrepareForRequest_recvHeaders (c : Conn) {id : Nat} (found : (c.getStream id).isSome) :
    ((streamPrepareForRequest c id).stream id).state = .recvHeaders ∧
      ((c.stream id).state ≠ .idle → .setStateRecvHeaders ∈ (streamPrepareForRequest c id).failed) := by
  unfold streamPrepareForRequest
  lift_lets
  intro c1 c2
  have streams : c2.streams = c.streams := by simp only [c2, c1]; split_ifs <;> simp
  have found2 : (c2.getStream id).isSome := by rwa [Conn.getStream_congr streams]
  obtain ⟨state, failed⟩ := streamSetState_recvHeaders c2 found2
  refine ⟨by simp [state, apply_ite Stream.state], fun notIdle => ?_⟩
  simp [failed, Conn.stream_congr streams, notIdle]

theorem setPriority_stream (c : Conn) (id : Nat) (priority : Priority) :
    ((setPriority c id priority).getStream id).isSome = (c.getStream id).isSome ∧
      ((setPriority c id priority).stream id).state = (c.stream id).state := by
  unfold setPriority
  split
  simp [schedulerOpen, apply_ite Stream.state]

/-- A HEADERS frame with an odd id above `pull_stream_ids.max_open`, on a stream that is there,
    is taken for the stream's request headers whatever state the stream is in: it is handled as
    `handle_incoming_request`, or the wait for CONTINUATION, on a connection where the stream
    was moved back to RECV_HEADERS, failing the assertion of `h2o_http2_stream_set_state` unless
    it was IDLE. -/
theorem handleHeadersFrame_reprepares (ctx : Ctx) (c : Conn) {sid : Nat} (p : HeadersPayload)
    (endStream endHeaders hasPriority : Bool) (answers : Input) (odd : sid % 2 = 1) (above : c.pullMaxOpen < sid)
    (notSelf : sid ≠ p.priority.dependency) (found : (c.getStream sid).isSome) :
    ∃ c', (c'.stream sid).state = .recvHeaders ∧ ((c.stream sid).state ≠ .idle → .setStateRecvHeaders ∈ c'.failed) ∧
      handleHeadersFrame ctx c sid endStream endHeaders hasPriority (.ok p) answers =
        if endHeaders then handleIncomingRequest ctx c' sid p.headers else prepareForContinuation c' p.headers := by
  obtain ⟨s, hs⟩ := Option.isSome_iff_exists.1 found
  let c1 := if hasPriority then
    (setPriority c sid p.priority).modifyStream sid fun s => { s with receivedPriority := p.priority } else c
  have found1 : (c1.getStream sid).isSome ∧ (c1.stream sid).state = (c.stream sid).state := by
    obtain ⟨some, state⟩ := setPriority_stream c sid p.priority
    simp only [c1]
    split
    · simpa [some, found] using state
    · exact ⟨found, rfl⟩
  obtain ⟨state, failed⟩ := streamPrepareForRequest_recvHeaders c1 found1.1
  let c2 := streamPrepareForRequest c1 sid
  refine ⟨if !endStream then c2.modifyStream sid fun s => { s with reqBodyBuf := some [] } else c2, ?_, ?_, ?_⟩
  · split <;> simp [c2, state, apply_ite Stream.state]
  · intro notIdle
    have := failed (found1.2 ▸ notIdle)
    split <;> simpa [c2]
  · simp [handleHeadersFrame, odd, not_le.2 above, notSelf, hs, c1, c2]

/-! ### Runs -/

/-- The client preface, a graceful shutdown whose GOAWAY is resent after its timer, and then
    HEADERS on stream 1 ending the stream. -/
def disregardedRun : List Event :=
  [.read [prefaceInput], .requestShutdown, .gracefulTimer,
   .read [headersInput 1 true true [1] (by decide) (by decide)]]

/-- The connection after `disregardedRun`: stream 1 was reset as disregarded. -/
def disregardedConn : Conn := run sampleCtx accept disregardedRun

/-- Then HEADERS on stream 1 again, without END_HEADERS. -/
def reopenedConn : Conn := run sampleCtx disregardedConn [.read [headersInput 1 true false [1] (by decide) (by decide)]]

/-- Stream 1 is opened, closed into the recently-closed ring, and opened again under the same id,
    with no assertion failing. -/
theorem stream_id_opened_twice :
    Reachable sampleCtx reopenedConn ∧ disregardedConn.getStream 1 = none ∧
      disregardedConn.recentlyClosed.find 1 = some 0 ∧ (reopenedConn.stream 1).state = .recvHeaders ∧
      reopenedConn.pullMaxOpen = 0 ∧ reopenedConn.failed = [] :=
  ⟨Reachable.run _ (Reachable.run _ .accept), by decide⟩

/-- The shutdown of `disregardedRun`, then HEADERS on stream 1 announcing a request body. -/
def bodyRun : List Event :=
  [.read [prefaceInput], .requestShutdown, .gracefulTimer,
   .read [headersInput 1 false true [1] (by decide) (by decide)]]

/-- The connection after `bodyRun`: stream 1 waits for its body. -/
def bodyConn : Conn := run sampleCtx accept bodyRun

/-- Then HEADERS on stream 1 again. -/
def bodyAgainConn : Conn := run sampleCtx bodyConn [.read [headersInput 1 false true [1] (by decide) (by decide)]]

/-- A stream receiving its request body is prepared for a request again, and
    `handle_incoming_request` runs on it a second time. -/
theorem request_headers_handled_twice :
    Reachable sampleCtx bodyAgainConn ∧ (bodyConn.stream 1).state = .recvBody ∧ bodyConn.failed = [] ∧
      (bodyAgainConn.stream 1).state = .recvBody ∧
      bodyAgainConn.failed = [.setStateRecvHeaders, .setReqBodyStateAdvance] :=
  ⟨Reachable.run _ (Reachable.run _ .accept), by decide⟩

end H2oHttp2
