import Mathlib.Tactic.LiftLets
import H2oHttp2.HeaderBlocks

/-!
# Shutdown: the GOAWAY boundary and the closing connection

Once GOAWAY is out, `reset_stream_if_disregarded` keeps a request above
`pull_stream_ids.max_open` from being processed, but only on the paths through
`execute_or_enqueue_request`. The CONNECT branch of `handle_incoming_request` calls
`process_request` directly, and `process_request` always hands the request over
(`processRequest_processes`). So a CONNECT request after the GOAWAY of a graceful shutdown is
processed (`connect_processed_above_goaway`).

While `close_connection` waits for the write in flight, the application can still call
`proceed_req`. A `write_req.cb` that fails then makes `write_streaming_body` call
`stream_send_error` on the closing connection (`rst_stream_while_closing`).
-/
namespace H2oHttp2

/-- `process_request` hands the request to `h2o_process_request` whatever the stream's id and
    the connection's state. -/
theorem processRequest_processes (ctx : Ctx) (c : Conn) (id : Nat) :
    (processRequest ctx c id).log.getLast? = some (.process id) := by
  unfold processRequest processRequestWith
  lift_lets
  intro s _ _ _ c1 c4
  simp [h2oProcessRequest]

/-- The client preface, a graceful shutdown whose GOAWAY is resent after its timer, and then a
    CONNECT request on stream 1. -/
def connectRun : List Event :=
  [.read [prefaceInput], .requestShutdown, .gracefulTimer,
   .read [headersInput 1 false true [2] (by decide) (by decide)]]

/-- The connection after `connectRun`. -/
def connectConn : Conn := run sampleCtx accept connectRun

/-- The advisory GOAWAY is followed by one with last-stream-id 0, and then the CONNECT request
    on stream 1 is processed. -/
theorem connect_processed_above_goaway :
    Reachable sampleCtx connectConn ∧
      connectConn.log = [.frame (.settings [(settingsMaxConcurrentStreams, 100)]),
        .frame (.windowUpdate 0 (hostConnectionWindowSize - hostStreamInitialWindowSize)),
        .frame (.goaway int32Max errorNone (some "graceful shutdown")),
        .frame (.goaway 0 errorNone none),
        .frame (.windowUpdate 1 (windowExtension sampleCtx)),
        .process 1] :=
  ⟨Reachable.run _ .accept, by decide⟩

/-- A streamed request on stream 1 whose application installs `write_req.cb`, more DATA, the
    peer closing the connection while a write is in flight, and then `proceed_req` with a
    `write_req.cb` that fails. -/
def closingRun : List Event :=
  [.read [prefaceInput, headersInput 1 false true [1] (by decide) (by decide),
     dataInput 1 false [7, 7, 7] true true (by decide) (by decide) (by decide)],
   .installWriteReq 1,
   .read [dataInput 1 false [8, 8] false true (by decide) (by decide) (by decide)],
   .readError,
   .proceedReq 1 none false]

/-- The connection after `closingRun`. -/
def closingConn : Conn := run sampleCtx accept closingRun

/-- The connection is closing with a write in flight when `stream_send_error` is reached: its
    assertion fails and RST_STREAM is encoded. -/
theorem rst_stream_while_closing :
    Reachable sampleCtx closingConn ∧ closingConn.state = .isClosing ∧ closingConn.write.bufInFlight.isSome ∧
      closingConn.failed = [.streamSendErrorState] ∧
      closingConn.log.getLast? = some (.frame (.rstStream 1 errorStreamClosed)) :=
  ⟨Reachable.run _ .accept, by decide⟩

end H2oHttp2
