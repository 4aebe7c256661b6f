import H2oHttp2.Basic

/-!
# Streams and connections

`h2o_http2_stream_t` and `h2o_http2_conn_t` as records, with the members the engine reads.
A stream lives in the connection's stream map (`conn->streams`, here a list keyed by
`streamId`); the intrusive lists a stream's `_link` can sit on (`_pending_reqs`,
`_write.streams_to_proceed`) hold stream ids. Three fields are ghosts, read by no code of
the model: a stream's `handed` and `received` (the request-body chunks handed to the
application and the payload bytes appended to its buffer) and the connection's `log` (every
frame encoded and every request handed to `h2o_process_request`, in order).
-/
namespace H2oHttp2

/-- Which counters of `num_streams` a stream is counted in (`_num_streams_slot`). -/
inductive Slot where
  | none
  | priority
  | pull
  | push
deriving DecidableEq, Repr

/-- The node a stream's scheduler reference hangs from: the connection's root, another
    stream's node, or the node kept in a slot of the recently-closed ring. -/
inductive SchedParent where
  | root
  | stream (id : Nat)
  | closed (slot : Nat)
deriving DecidableEq, Repr

/-- `h2o_http2_stream_t`. `entity` is `req.entity`: `none` for a `NULL` base, `some n` for the
    first `n` bytes of `req_body.buf`. `contentLength` is `none` for `SIZE_MAX`. -/
structure Stream where
  streamId : Nat
  state : StreamState
  outputWindow : Int
  inputWindow : Int
  bytesUnnotified : Nat
  receivedPriority : Priority
  schedOpen : Bool
  schedActive : Bool
  schedWeight : Nat
  schedParent : SchedParent
  slot : Slot
  blockedByServer : Bool
  processCalled : Bool
  proceedReq : Bool
  writeReqCb : Bool
  entity : Option Nat
  contentLength : Option Nat
  reqBodyBytesReceived : Nat
  isTunnelReq : Bool
  reqBodyBuf : Option (List UInt8)
  reqBodyState : ReqBodyState
  streamed : Bool
  pendingData : Nat
  pushParent : Nat
  promiseSent : Bool
  handed : List (List UInt8 × Bool)
  received : List UInt8
deriving DecidableEq, Repr

/-- A stream as `h2o_http2_stream_open` creates it: IDLE, no request body, the host's initial
    receive window and the peer's initial send window. -/
def Stream.fresh (id : Nat) (outputWindow : Int) (priority : Priority) : Stream where
  streamId := id
  state := .idle
  outputWindow := outputWindow
  inputWindow := hostStreamInitialWindowSize
  bytesUnnotified := 0
  receivedPriority := priority
  schedOpen := false
  schedActive := false
  schedWeight := 0
  schedParent := .root
  slot := .none
  blockedByServer := false
  processCalled := false
  proceedReq := false
  writeReqCb := false
  entity := none
  contentLength := none
  reqBodyBytesReceived := 0
  isTunnelReq := false
  reqBodyBuf := none
  reqBodyState := .none
  streamed := false
  pendingData := 0
  pushParent := 0
  promiseSent := false
  handed := []
  received := []

/-- The bytes of `req_body.buf` (empty while there is none). -/
def Stream.bodyBytes (s : Stream) : List UInt8 := s.reqBodyBuf.getD []

/-- The bytes `req.entity` points at. -/
def Stream.entityBytes (s : Stream) : List UInt8 := (s.bodyBytes).take (s.entity.getD 0)

/-- One `num_streams` slot. -/
structure NumStreamsSlot where
  opened : Nat
  halfClosed : Nat
deriving DecidableEq, Repr

/-- `num_streams`. -/
structure NumStreams where
  pull : NumStreamsSlot
  push : NumStreamsSlot
  priority : NumStreamsSlot
  blockedByServer : Nat
  reqStreamingInProgress : Nat
  tunnel : Nat
deriving DecidableEq, Repr

/-- `_write`: the buffer being filled, the one being written, the zero-delay timer that
    schedules a write (`timeout_entry`, linked or not), the streams waiting for their
    `proceed` callback, and the connection-level send window. -/
structure WriteState where
  buf : List OutFrame
  bufInFlight : Option (List OutFrame)
  timeoutEntry : Bool
  streamsToProceed : List Nat
  window : Int
deriving DecidableEq, Repr

/-- The callback `_graceful_shutdown_timeout` holds. -/
inductive GracefulCb where
  | none
  | resendGoaway
  | closeStraggler
deriving DecidableEq, Repr

/-- `_graceful_shutdown_timeout`: its callback and whether it is linked. -/
structure GracefulTimer where
  cb : GracefulCb
  linked : Bool
deriving DecidableEq, Repr

/-- The socket as the connection sees it: reading, writing (between `h2o_socket_write` and
    its completion callback), waiting for `h2o_socket_notify_write`, and whether TLS early
    data is in progress. -/
structure Socket where
  reading : Bool
  writing : Bool
  notifying : Bool
  earlyData : Bool
deriving DecidableEq, Repr

/-- `conn->_read_expect`. -/
inductive ReadExpect where
  | preface
  | default
  | continuation
deriving DecidableEq, Repr

/-- A node kept in the recently-closed ring: the stream id, its weight, and whether its
    scheduler node is open (`h2o_http2_scheduler_is_open`). -/
structure ClosedNode where
  streamId : Nat
  weight : Nat
  schedOpen : Bool
deriving DecidableEq, Repr

/-- `_recently_closed_streams`. -/
structure RecentlyClosed where
  streams : List (Option ClosedNode)
  nextSlot : Nat
deriving DecidableEq, Repr

/-- The assertions of the engine (`assert`, `h2o_fatal`), by function and condition. A run
    that fails one records it in the ghost `failed` and goes on, as a build without
    assertions would. -/
inductive Check where
  | initiateGracefulShutdownCb
  | updateIdleTimeoutLinked
  | processRequestBodyState
  | executeOrEnqueueState
  | preserveSchedulerOpen
  | preserveEvictedOpen
  | setReqBodyStateAdvance
  | setReqBodyStateNone
  | setReqBodyStateProceedReq
  | unregisterNotLinked
  | unregisterLinked
  | closeNowWriteTimer
  | closeNowCounters
  | closeNowStreamingCounters
  | closeNowPendingEmpty
  | closeNowProceedEmpty
  | closeNowClosedOpen
  | streamSendErrorStreamId
  | streamSendErrorState
  | requestGatheredWriteState
  | outputWindowNotLinked
  | writeStreamingBodyEntity
  | writeStreamingBodyNonEmpty
  | writeStreamingBodyState
  | requestBodyChunkState
  | incomingRequestState
  | incomingRequestInvalidChar
  | sendWindowUpdateDelta
  | proceedRequestStreamed
  | proceedRequestWritten
  | proceedRequestState
  | proceedCallbackNotLinked
  | writeCompleteInFlight
  | writeCompleteNoPending
  | openrefHasData
  | doEmitWritereqInFlight
  | prepareSchedulerOpen
  | setStateIdle
  | setStateRecvHeaders
  | setStateSendHeaders
  | setStateSendBodyIsFinal
  | setStateEndStream
  | blockedByServerOn
  | blockedByServerOff
  | finalostreamReceiving
  | finalostreamPending
deriving DecidableEq, Repr

/-- An entry of the connection's ghost log: a frame encoded, a request handed to
    `h2o_process_request`, and `h2o_http2_scheduler_close` on the node a stream left in the
    recently-closed ring. -/
inductive Trace where
  | frame (f : OutFrame)
  | process (streamId : Nat)
  | schedulerClose (streamId : Nat)
deriving DecidableEq, Repr

/-- The last-stream-id of a GOAWAY frame. -/
def Trace.goawayLastStreamId : Trace → Option Nat
  | .frame (.goaway id _ _) => some id
  | _ => none

/-- `h2o_http2_conn_t`. `destroyed` is set once `close_connection_now` has freed it. -/
structure Conn where
  state : ConnState
  destroyed : Bool
  peerSettings : Settings
  streams : List Stream
  pullMaxOpen : Nat
  pullMaxProcessed : Nat
  pushMaxOpen : Nat
  numStreams : NumStreams
  readExpect : ReadExpect
  headersUnparsed : Option (List UInt8)
  inputHeaderTable : HeaderTable
  inputWindow : Int
  pendingReqs : List Nat
  write : WriteState
  timeoutEntry : Bool
  gracefulShutdown : GracefulTimer
  recentlyClosed : RecentlyClosed
  sock : Socket
  receivedAnyRequest : Bool
  pushMemo : List (List UInt8)
  log : List Trace
  failed : List Check
deriving DecidableEq, Repr

namespace Conn

/-- `h2o_http2_conn_get_stream`. -/
def getStream (c : Conn) (id : Nat) : Option Stream := c.streams.find? (·.streamId = id)

/-- The stream with the given id; the code reads streams only while they are in the map, and
    any value will do for one that is not. -/
def stream (c : Conn) (id : Nat) : Stream := (c.getStream id).getD (Stream.fresh id 0 defaultPriority)

/-- Apply `f` to the stream with the given id, if there is one. -/
def modifyStream (c : Conn) (id : Nat) (f : Stream → Stream) : Conn :=
  { c with streams := c.streams.map fun s => if s.streamId = id then f s else s }

/-- Whether the stream's `_link` is on a list. -/
def isLinked (c : Conn) (id : Nat) : Bool := c.pendingReqs.contains id || c.write.streamsToProceed.contains id

/-- `h2o_linklist_unlink` of the stream's `_link`. -/
def unlink (c : Conn) (id : Nat) : Conn :=
  { c with pendingReqs := c.pendingReqs.erase id,
           write := { c.write with streamsToProceed := c.write.streamsToProceed.erase id } }

/-- An `assert` of the engine: a failed one is recorded. -/
def check (c : Conn) (cond : Bool) (k : Check) : Conn :=
  if cond then c else { c with failed := c.failed ++ [k] }

/-- Append a frame to `_write.buf`. -/
def encode (c : Conn) (f : OutFrame) : Conn :=
  { c with write := { c.write with buf := c.write.buf ++ [f] }, log := c.log ++ [.frame f] }

/-- The GOAWAY last-stream-ids in the log, in the order they were encoded. -/
def goawayIds (c : Conn) : List Nat := c.log.filterMap Trace.goawayLastStreamId

theorem check_eq (c : Conn) (cond : Bool) (k : Check) :
    c.check cond k = { c with failed := if cond then c.failed else c.failed ++ [k] } := by
  unfold check
  split <;> simp_all

@[simp] theorem check_true (c : Conn) (k : Check) : c.check true k = c := rfl

@[simp] theorem check_state (c : Conn) (cond : Bool) (k : Check) : (c.check cond k).state = c.state := by
  simp [check_eq]
@[simp] theorem check_sock (c : Conn) (cond : Bool) (k : Check) : (c.check cond k).sock = c.sock := by
  simp [check_eq]
@[simp] theorem check_write (c : Conn) (cond : Bool) (k : Check) : (c.check cond k).write = c.write := by
  simp [check_eq]
@[simp] theorem check_streams (c : Conn) (cond : Bool) (k : Check) : (c.check cond k).streams = c.streams := by
  simp [check_eq]

@[simp] theorem modifyStream_state (c : Conn) (id : Nat) (f : Stream → Stream) :
    (c.modifyStream id f).state = c.state := rfl
@[simp] theorem modifyStream_log (c : Conn) (id : Nat) (f : Stream → Stream) :
    (c.modifyStream id f).log = c.log := rfl
@[simp] theorem modifyStream_write (c : Conn) (id : Nat) (f : Stream → Stream) :
    (c.modifyStream id f).write = c.write := rfl
@[simp] theorem modifyStream_pullMaxOpen (c : Conn) (id : Nat) (f : Stream → Stream) :
    (c.modifyStream id f).pullMaxOpen = c.pullMaxOpen := rfl
@[simp] theorem encode_state (c : Conn) (f : OutFrame) : (c.encode f).state = c.state := rfl
@[simp] theorem encode_streams (c : Conn) (f : OutFrame) : (c.encode f).streams = c.streams := rfl
@[simp] theorem encode_log (c : Conn) (f : OutFrame) : (c.encode f).log = c.log ++ [.frame f] := rfl
@[simp] theorem encode_pullMaxOpen (c : Conn) (f : OutFrame) :
    (c.encode f).pullMaxOpen = c.pullMaxOpen := rfl

/-! ### Streams found by id -/

theorem getStream_congr {c c' : Conn} (h : c'.streams = c.streams) (id : Nat) : c'.getStream id = c.getStream id := by
  rw [getStream, getStream, h]

theorem stream_congr {c c' : Conn} (h : c'.streams = c.streams) (id : Nat) : c'.stream id = c.stream id := by
  rw [stream, stream, getStream_congr h]

theorem stream_of_getStream {c c' : Conn} {id : Nat} (h : c'.getStream id = c.getStream id) :
    c'.stream id = c.stream id := by
  rw [stream, stream, h]

/-- Changing the stream with one id, and not its id, changes what is found under that id only. -/
theorem getStream_modifyStream (c : Conn) (id : Nat) {f : Stream → Stream} (hf : ∀ s, (f s).streamId = s.streamId)
    (id' : Nat) : (c.modifyStream id f).getStream id' = (c.getStream id').map fun s => if id' = id then f s else s := by
  unfold getStream modifyStream
  have same : ((fun s : Stream => decide (s.streamId = id')) ∘ fun s => if s.streamId = id then f s else s) =
      fun s => decide (s.streamId = id') := by
    funext s
    by_cases h : s.streamId = id <;> simp [h, hf]
  rw [List.find?_map, same]
  cases hfind : c.streams.find? (fun s => decide (s.streamId = id')) with
  | none => rfl
  | some s =>
    have : s.streamId = id' := by simpa using List.find?_some hfind
    simp [this]

@[simp] theorem getStream_isSome_modifyStream (c : Conn) (id : Nat) {f : Stream → Stream}
    (hf : ∀ s, (f s).streamId = s.streamId) (id' : Nat) :
    ((c.modifyStream id f).getStream id').isSome = (c.getStream id').isSome := by
  rw [getStream_modifyStream c id hf, Option.isSome_map']

@[simp] theorem stream_modifyStream (c : Conn) (id : Nat) {f : Stream → Stream} (hf : ∀ s, (f s).streamId = s.streamId)
    (id' : Nat) :
    (c.modifyStream id f).stream id' = if id' = id ∧ (c.getStream id').isSome then f (c.stream id') else c.stream id' := by
  unfold stream
  rw [getStream_modifyStream c id hf]
  cases c.getStream id' <;> by_cases h : id' = id <;> simp [h]

@[simp] theorem check_getStream (c : Conn) (cond : Bool) (k : Check) (id : Nat) :
    (c.check cond k).getStream id = c.getStream id := getStream_congr (check_streams c cond k) id
@[simp] theorem check_stream (c : Conn) (cond : Bool) (k : Check) (id : Nat) :
    (c.check cond k).stream id = c.stream id := stream_congr (check_streams c cond k) id
@[simp] theorem encode_getStream (c : Conn) (f : OutFrame) (id : Nat) : (c.encode f).getStream id = c.getStream id :=
  rfl
@[simp] theorem encode_stream (c : Conn) (f : OutFrame) (id : Nat) : (c.encode f).stream id = c.stream id := rfl
@[simp] theorem check_failed (c : Conn) (cond : Bool) (k : Check) :
    (c.check cond k).failed = if cond then c.failed else c.failed ++ [k] := by
  simp [check_eq]

end Conn

end H2oHttp2
