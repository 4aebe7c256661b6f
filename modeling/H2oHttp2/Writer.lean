import H2oHttp2.Frames

/-!
# The writer

`do_emit_writereq` fills `_write.buf` from the scheduler and hands it to the socket;
`on_write_complete` releases it, runs the proceed callbacks of the flushed streams, and then
writes again or, outside libuv, waits for `h2o_socket_notify_write` while the connection is
open. The DATA a stream sends is the part of `stream.c` modelled from the spec.
-/
namespace H2oHttp2

/-- `h2o_http2_stream_send_pending_data` of `stream.c`. Modelled from the spec: with a positive
    send window the stream sends what both windows allow of its pending bytes (frame splitting
    is not modelled), with END_STREAM once the last of a final response is sent (§4.5, §4.8). -/
def streamSendPendingData (c : Conn) (id : Nat) : Conn :=
  let s := c.stream id
  if s.outputWindow ≤ 0 then c
  else
    let n := min s.pendingData (min s.outputWindow.toNat c.write.window.toNat)
    let final := s.state == .sendBodyIsFinal && n == s.pendingData
    let c1 := if n ≠ 0 || final then c.encode (.data id n final) else c
    let c2 := c1.modifyStream id fun s => { s with pendingData := s.pendingData - n, outputWindow := s.outputWindow - n }
    let c3 := { c2 with write := { c2.write with window := c2.write.window - n } }
    if final then streamSetState c3 id .endStream else c3

/-- What `emit_writereq_of_openref` returns: the connection, `still_is_active`, and whether the
    scheduler is to bail out (the buffer window is used up). -/
structure Emitted where
  conn : Conn
  stillIsActive : Bool
  bail : Bool

/-- `emit_writereq_of_openref`. The server-timing trailers are not modelled. -/
def emitWritereqOfOpenref (c : Conn) (id : Nat) : Emitted :=
  let s := c.stream id
  let c1 := c.check (s.hasPendingData || .sendBodyIsFinal ≤ s.state) .openrefHasData
  let c2 := streamSendPendingData c1 id
  let s2 := c2.stream id
  let (c3, still) :=
    if s2.hasPendingData || s2.state == .sendBodyIsFinal then (c2, decide (0 < s2.outputWindow))
    else ({ c2 with write := { c2.write with streamsToProceed := c2.write.streamsToProceed ++ [id] } }, false)
  ⟨c3, still, connGetBufferWindow c3 ≤ 0⟩

/-- One round of `h2o_http2_scheduler_run` over the active streams, in map order (the weighted
    order is not modelled): a stream no longer active is deactivated, and the round stops when
    the callback asks to bail out. -/
def schedulerRunPass : Conn → List Nat → Conn
  | c, [] => c
  | c, id :: rest =>
    let e := emitWritereqOfOpenref c id
    let c1 := if e.stillIsActive then e.conn else schedulerSetActive e.conn id false
    if e.bail then c1 else schedulerRunPass c1 rest

/-- `h2o_http2_scheduler_run` with `emit_writereq_of_openref`. -/
def schedulerRun (c : Conn) : Conn :=
  schedulerRunPass c ((c.streams.filter (·.schedActive)).map (·.streamId))

/-- `do_emit_writereq`. -/
def doEmitWritereq (ctx : Ctx) (c : Conn) : Conn :=
  let c1 := c.check c.write.bufInFlight.isNone .doEmitWritereqInFlight
  let c2 := if c1.state < .isClosing && 0 < connGetBufferWindow c1 then schedulerRun c1 else c1
  let c3 :=
    if c2.write.buf ≠ [] then
      { c2 with sock := { c2.sock with writing := true },
                write := { c2.write with bufInFlight := some c2.write.buf, buf := [] },
                timeoutEntry := true }
    else c2
  match c3.state with
  | .opened => c3
  | .halfClosed =>
    if c3.numStreams.pull.opened + c3.numStreams.push.opened ≠ 0 then c3
    else (closeConnection ctx { c3 with state := .isClosing }).1
  | .isClosing => (closeConnection ctx c3).1

/-- `h2o_http2_stream_proceed` of `stream.c`. Modelled from the spec: a stream that has sent
    END_STREAM is closed once its request body is done with (else when it is); any other
    stream waits, blocked by the server, for its generator to send more (§4.8, §5). -/
def streamProceed (ctx : Ctx) (c : Conn) (id : Nat) : Conn :=
  let s := c.stream id
  if s.state == .endStream then
    match s.reqBodyState with
    | .none | .closeDelivered => streamClose ctx c id
    | _ => c
  else if !s.blockedByServer then streamSetBlockedByServer c id true
  else c

/-- The loop of `on_write_complete` over `_write.streams_to_proceed`: each stream is taken off
    the list and its proceed callback run. Nothing the callback runs adds to the list, so the
    loop ends within the length of the list. -/
def proceedStreams (ctx : Ctx) : Nat → Conn → Conn
  | 0, c => c
  | fuel + 1, c =>
    match c.write.streamsToProceed with
    | [] => c
    | id :: _ =>
      proceedStreams ctx fuel
        (streamProceed ctx ((c.check (!(c.stream id).hasPendingData) .writeCompleteNoPending).unlink id) id)

/-- `on_write_complete`: the socket has finished the write (`err` when it failed). Reads are
    never stopped in the model, so restarting them is left out. -/
def onWriteComplete (ctx : Ctx) (c : Conn) (err : Bool) : Conn :=
  let c0 := { c with sock := { c.sock with writing := false } }
  let c1 := c0.check c0.write.bufInFlight.isSome .writeCompleteInFlight
  if err then closeConnectionNow ctx c1
  else
    let c2 := { c1 with write := { c1.write with bufInFlight := none } }
    let c3 := if c2.state < .isClosing then proceedStreams ctx c2.write.streamsToProceed.length c2 else c2
    let c4 := updateIdleTimeout c3
    let c5 := { c4 with write := { c4.write with timeoutEntry := false } }
    if !ctx.useLibuv && c5.state == .opened then
      if c5.write.buf ≠ [] || c5.schedulerIsActive then { c5 with sock := { c5.sock with notifying := true } }
      else c5
    else doEmitWritereq ctx c5

/-- `on_notify_write`. -/
def onNotifyWrite (ctx : Ctx) (c : Conn) (err : Bool) : Conn :=
  let c1 := { c with sock := { c.sock with notifying := false } }
  if err then closeConnectionNow ctx c1 else doEmitWritereq ctx c1

/-- `emit_writereq`: the zero-delay write timer fires. -/
def emitWritereq (ctx : Ctx) (c : Conn) : Conn :=
  doEmitWritereq ctx { c with write := { c.write with timeoutEntry := false } }

end H2oHttp2
