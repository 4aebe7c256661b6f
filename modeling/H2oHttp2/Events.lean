import H2oHttp2.Writer

/-!
# Connections and their events

How a connection is made (`h2o_http2_accept`, `h2o_http2_handle_upgrade` with
`on_upgrade_complete`), the callbacks the event loop runs on it (`on_read`, the write and
notify completions, the timers), the calls the rest of the server makes on it (graceful
shutdown, `h2o_http2_conn_request_write`, `push_path`), and the application's calls on a
request: install `write_req.cb`, call `proceed_req`, and send a response.

`step` runs one event; an event whose callback cannot be pending (a timer that is not linked,
a completion without a write, a call on a stream that is not there) changes nothing, and a
destroyed connection takes no events. `Reachable` is every state a run can reach.
-/
namespace H2oHttp2

/-! ### Making a connection -/

/-- `create_conn`. -/
def createConn : Conn where
  state := .opened
  destroyed := false
  peerSettings := settingsDefault
  streams := []
  pullMaxOpen := 0
  pullMaxProcessed := 0
  pushMaxOpen := 0
  numStreams := ⟨⟨0, 0⟩, ⟨0, 0⟩, ⟨0, 0⟩, 0, 0, 0⟩
  readExpect := .preface
  headersUnparsed := none
  inputHeaderTable := ⟨[]⟩
  inputWindow := hostConnectionWindowSize
  pendingReqs := []
  write := ⟨[], none, false, [], settingsDefault.initialWindowSize⟩
  timeoutEntry := false
  gracefulShutdown := ⟨.none, false⟩
  recentlyClosed := ⟨List.replicate closedStreamPriorities none, 0⟩
  sock := ⟨false, false, false, false⟩
  receivedAnyRequest := false
  pushMemo := []
  log := []
  failed := []

/-- `h2o_http2_accept`: bytes already read are handed over by a first `read` event. -/
def accept : Conn := updateIdleTimeout { createConn with sock := { createConn.sock with reading := true } }

/-- `h2o_http2_handle_upgrade`, given the decoded `HTTP2-Settings` of the HTTP/1.1 request:
    stream 1 is opened for the request, or `none` when the settings are rejected. The checks
    on the request's headers are left to the caller. -/
def handleUpgrade (params : List (Nat × Nat)) (trailing : Nat) : Option Conn :=
  let updated := updatePeerSettings createConn.peerSettings params trailing
  if updated.2.1 ≠ 0 then none
  else
    let c := streamOpen { createConn with peerSettings := updated.1 } 1 defaultPriority
    some (streamPrepareForRequest (schedulerOpen c 1 .root defaultPriority.weight) 1)

/-- `on_upgrade_complete`: `sockOk` is whether the HTTP/1 side handed a socket over. Bytes
    left over from the upgrade are handed over by a `read` event. -/
def onUpgradeComplete (ctx : Ctx) (c : Conn) (sockOk : Bool) : Conn :=
  if !sockOk then (closeConnection ctx c).1
  else executeOrEnqueueRequest ctx { c with sock := { c.sock with reading := true } } 1

/-! ### Callbacks of the event loop -/

/-- `on_read` with new input. -/
def onRead (ctx : Ctx) (c : Conn) (inputs : List Input) : Conn :=
  let parsed := parseInput ctx c inputs
  let c1 := parsed.1
  if parsed.2 ≠ 0 then c1
  else
    let c2 := updateIdleTimeout c1
    if c2.write.timeoutEntry then doEmitWritereq ctx { c2 with write := { c2.write with timeoutEntry := false } }
    else c2

/-- `on_read` with an error: the peer closed or the read failed. -/
def onReadError (ctx : Ctx) (c : Conn) : Conn :=
  (closeConnection ctx { c with sock := { c.sock with reading := false } }).1

/-- `on_idle_timeout`. -/
def onIdleTimeout (ctx : Ctx) (c : Conn) : Conn :=
  let c1 := { c with timeoutEntry := false }
  if c1.write.bufInFlight.isSome then closeConnectionNow ctx c1
  else (closeConnection ctx (enqueueGoaway c1 errorNone (some "idle timeout"))).1

/-- `graceful_shutdown_resend_goaway`. -/
def gracefulShutdownResendGoaway (ctx : Ctx) (c : Conn) : Conn :=
  if c.state < .halfClosed then
    let c1 := enqueueGoaway c errorNone none
    if 0 < ctx.conf.gracefulShutdownTimeout then { c1 with gracefulShutdown := ⟨.closeStraggler, true⟩ }
    else c1
  else c

/-- `graceful_shutdown_close_straggler`. -/
def gracefulShutdownCloseStraggler (ctx : Ctx) (c : Conn) : Conn := (closeConnection ctx c).1

/-- `_graceful_shutdown_timeout` fires: it is unlinked and its callback runs. -/
def onGracefulShutdownTimeout (ctx : Ctx) (c : Conn) : Conn :=
  let c1 := { c with gracefulShutdown := { c.gracefulShutdown with linked := false } }
  match c1.gracefulShutdown.cb with
  | .resendGoaway => gracefulShutdownResendGoaway ctx c1
  | .closeStraggler => gracefulShutdownCloseStraggler ctx c1
  | .none => c1

/-! ### Calls of the server -/

/-- `initiate_graceful_shutdown` (also `close_idle_connection`): an advisory GOAWAY with the
    largest stream id while the connection is open, then the resend after a second. -/
def initiateGracefulShutdown (c : Conn) : Conn :=
  let c1 := c.check (c.gracefulShutdown.cb == .none) .initiateGracefulShutdownCb
  let c2 :=
    if c1.state < .halfClosed then
      connRequestWrite (c1.encode (.goaway int32Max errorNone (some "graceful shutdown")))
    else c1
  { c2 with gracefulShutdown := ⟨.resendGoaway, true⟩ }

/-- `h2o_http2_stream_send_push_promise` of `stream.c`. Modelled from the spec: PUSH_PROMISE is
    sent on the parent stream, once (§6). -/
def streamSendPushPromise (c : Conn) (id : Nat) : Conn :=
  (c.encode (.pushPromise (c.stream id).pushParent id)).modifyStream id fun s => { s with promiseSent := true }

/-- `push_path` from stream `srcId`. `allowed` stands for the checks on the source request and
    its host configuration (`push_preload`, `x-forwarded-for`, cache digests); the push memo
    keeps the paths pushed. -/
def pushPath (ctx : Ctx) (c : Conn) (srcId : Nat) (path : List UInt8) (isCritical allowed : Bool) : Conn :=
  if streamIsPush srcId then c
  else if !allowed || c.peerSettings.enablePush = 0 ||
      c.peerSettings.maxConcurrentStreams ≤ c.numStreams.push.opened then c
  else if !(c.state < .isClosing) then c
  else if 0x7ffffff0 ≤ c.pushMaxOpen then c
  else if !(c.pendingReqs.isEmpty && canRunRequests ctx c) then c
  else if c.pushMemo.contains path then c
  else
    let id := c.pushMaxOpen + 2
    let c1 := streamOpen { c with pushMemo := c.pushMemo ++ [path] } id defaultPriority
    let c2 := c1.modifyStream id fun s =>
      { s with receivedPriority := { s.receivedPriority with dependency := srcId }, pushParent := srcId }
    let c3 := if isCritical then schedulerOpen c2 id .root 257 else schedulerOpen c2 id (.stream srcId) 16
    let c4 := executeOrEnqueueRequest ctx (streamPrepareForRequest c3 id) id
    let s := c4.stream id
    if !s.promiseSent && s.state ≠ .endStream then streamSendPushPromise c4 id else c4

/-! ### Calls of the application -/

/-- The application installs `write_req.cb` and takes `req.entity`, if there is one, as its
    first chunk of the request body. -/
def installWriteReq (c : Conn) (id : Nat) : Conn :=
  c.modifyStream id fun s =>
    { s with writeReqCb := true, handed := if s.entity.isSome then s.handed ++ [(s.entityBytes, false)] else s.handed }

/-- The events of a connection. -/
inductive Event where
  | read (inputs : List Input)
  | readError
  | writeComplete (err : Bool)
  | notifyWrite (err : Bool)
  | writeTimer
  | idleTimeout
  | gracefulTimer
  | requestShutdown
  | requestWrite
  | installWriteReq (id : Nat)
  | proceedReq (id : Nat) (errstr : Option String) (writeOk : Bool)
  | send (id : Nat) (bytes : Nat) (final : Bool)
  | pushPath (id : Nat) (path : List UInt8) (isCritical allowed : Bool)

/-- Whether the application may make a call on stream `id`: the stream is there and the call
    is one a well-behaved application makes. `write_req.cb` is installed once on a streamed
    request; `proceed_req` is called with an error, or after a chunk it was handed; a generator
    sends only after its proceed callback and never after its final data. -/
def appMayCall (c : Conn) (id : Nat) (s : Stream) : Event → Bool
  | .installWriteReq _ => s.streamed && s.proceedReq && !s.writeReqCb
  | .proceedReq _ errstr _ => s.proceedReq && s.writeReqCb && (errstr.isSome || s.entity.isSome)
  | .send .. => s.processCalled && s.state < .sendBodyIsFinal && !s.hasPendingData &&
      !c.write.streamsToProceed.contains id
  | .pushPath .. => s.processCalled
  | _ => false

/-- One event on a connection. -/
def step (ctx : Ctx) (c : Conn) (e : Event) : Conn :=
  if c.destroyed then c
  else
    match e with
    | .read inputs => if c.sock.reading then onRead ctx c inputs else c
    | .readError => if c.sock.reading then onReadError ctx c else c
    | .writeComplete err => if c.sock.writing then onWriteComplete ctx c err else c
    | .notifyWrite err => if c.sock.notifying then onNotifyWrite ctx c err else c
    | .writeTimer => if c.write.timeoutEntry then emitWritereq ctx c else c
    | .idleTimeout => if c.timeoutEntry then onIdleTimeout ctx c else c
    | .gracefulTimer => if c.gracefulShutdown.linked then onGracefulShutdownTimeout ctx c else c
    | .requestShutdown => initiateGracefulShutdown c
    | .requestWrite => connRequestWrite c
    | .installWriteReq id => appCall c id e (installWriteReq c id)
    | .proceedReq id errstr writeOk => appCall c id e (proceedRequest ctx c id errstr writeOk)
    | .send id bytes final => appCall c id e (finalostreamSend c id bytes final)
    | .pushPath id path isCritical allowed => appCall c id e (pushPath ctx c id path isCritical allowed)
where
  /-- The application's call `e` on stream `id`, with result `r` when it may make it. -/
  appCall (c : Conn) (id : Nat) (e : Event) (r : Conn) : Conn :=
    match c.getStream id with
    | some s => if appMayCall c id s e then r else c
    | none => c

/-- A run of events. -/
def run (ctx : Ctx) (c : Conn) (es : List Event) : Conn := es.foldl (step ctx) c

/-- The states a connection can reach: made by `h2o_http2_accept` or by an upgrade, then any
    events. -/
inductive Reachable (ctx : Ctx) : Conn → Prop where
  | accept : Reachable ctx accept
  | upgrade {params : List (Nat × Nat)} {trailing : Nat} {c : Conn} (sockOk : Bool) :
      handleUpgrade params trailing = some c → Reachable ctx (onUpgradeComplete ctx c sockOk)
  | step {c : Conn} (e : Event) : Reachable ctx c → Reachable ctx (step ctx c e)

theorem Reachable.run {ctx : Ctx} {c : Conn} (es : List Event) (h : Reachable ctx c) :
    Reachable ctx (run ctx c es) := by
  induction es generalizing c with
  | nil => exact h
  | cons e es ih => exact ih (.step e h)

end H2oHttp2
