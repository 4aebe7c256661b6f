import H2oHttp2.Headers

/-!
# Frame dispatch

The remaining frame handlers, `expect_default` with its handler table, `expect_preface`,
and `parse_input`, which runs the current `_read_expect` over the input until the
connection starts closing or a handler fails, and then sends GOAWAY and closes.
-/
namespace H2oHttp2

/-- `handle_data_frame`. -/
def handleDataFrame (ctx : Ctx) (c : Conn) (sid : Nat) (endStream : Bool)
    (payload : Except DecodeError DataPayload) (answers : Input) : Handled :=
  match payload with
  | .error e => ⟨c, e.code.code, e.desc⟩
  | .ok p =>
    let c1 := { c with inputWindow := c.inputWindow - p.length }
    let c2 :=
      if c1.inputWindow ≤ ((hostConnectionWindowSize / 2 : Nat) : Int) then
        sendWindowUpdate c1 0 ((hostConnectionWindowSize : Int) - c1.inputWindow).toNat
      else c1
    match c2.getStream sid with
    | none =>
      if sid ≤ c2.pullMaxOpen then ⟨streamSendError c2 sid errorStreamClosed, 0, none⟩
      else ⟨c2, errorProtocol, some "invalid DATA frame"⟩
    | some s =>
      if !(s.reqBodyState == .openBeforeFirstFrame || s.reqBodyState == .opened) then
        ⟨streamReset ctx (streamSendError c2 sid errorStreamClosed) sid, 0, none⟩
      else
        let c3 := c2.modifyStream sid fun s => { s with inputWindow := s.inputWindow - p.length }
        let c4 := if p.length ≠ p.data.length then updateStreamInputWindow c3 sid (p.length - p.data.length) else c3
        let c5 :=
          if p.data.length ≠ 0 || endStream then handleRequestBodyChunk ctx c4 sid p.data endStream answers
          else c4
        ⟨c5, 0, none⟩

/-- `h2o_http2_conn_get_buffer_window`, taken as the connection's send window. -/
def connGetBufferWindow (c : Conn) : Int := c.write.window

/-- `resume_send`. -/
def resumeSend (c : Conn) : Conn := if connGetBufferWindow c ≤ 0 then c else requestGatheredWrite c

/-- `h2o_http2_update_peer_settings` of `frame.c`. Modelled from the spec: each complete
    six-byte entry is applied in order, a value out of its range (RFC 7540 §6.5.2) fails the
    frame with what was applied before it kept, unknown identifiers are ignored, and an
    incomplete trailing entry is a FRAME_SIZE error. -/
def updatePeerSettings (s : Settings) : List (Nat × Nat) → Nat → Settings × Int × Option String
  | [], trailing => (s, if trailing = 0 then 0 else errorFrameSize, none)
  | (id, v) :: rest, trailing =>
    let invalid (errnum : Int) := (s, errnum, some "invalid SETTINGS frame")
    if id = settingsHeaderTableSize then updatePeerSettings { s with headerTableSize := v } rest trailing
    else if id = settingsEnablePush then
      if v ≤ 1 then updatePeerSettings { s with enablePush := v } rest trailing else invalid errorProtocol
    else if id = settingsMaxConcurrentStreams then
      updatePeerSettings { s with maxConcurrentStreams := v } rest trailing
    else if id = settingsInitialWindowSize then
      if v ≤ int32Max then updatePeerSettings { s with initialWindowSize := v } rest trailing
      else invalid errorFlowControl
    else if id = settingsMaxFrameSize then
      if 16384 ≤ v ∧ v ≤ 16777215 then updatePeerSettings { s with maxFrameSize := v } rest trailing
      else invalid errorProtocol
    else updatePeerSettings s rest trailing

/-- The loop of `handle_settings_frame` over the streams: every stream's send window moves by
    `delta`, and the result of `update_stream_output_window` is dropped. -/
def updateStreamOutputWindows (c : Conn) (ids : List Nat) (delta : Int) : Conn :=
  ids.foldl (fun c id => (updateStreamOutputWindow c id delta).1) c

/-- `handle_settings_frame`. -/
def handleSettingsFrame (c : Conn) (sid : Nat) (ack : Bool) (params : List (Nat × Nat)) (trailing : Nat) :
    Handled :=
  if sid ≠ 0 then ⟨c, errorProtocol, some "invalid stream id in SETTINGS frame"⟩
  else if ack then
    if 6 * params.length + trailing ≠ 0 then ⟨c, errorFrameSize, some "invalid SETTINGS frame (+ACK)"⟩
    else ⟨c, 0, none⟩
  else
    let prev := c.peerSettings.initialWindowSize
    let updated := updatePeerSettings c.peerSettings params trailing
    let settings := updated.1
    let c1 := { c with peerSettings := settings }
    if updated.2.1 ≠ 0 then ⟨c1, updated.2.1, updated.2.2⟩
    else
      let c2 := connRequestWrite (c1.encode .settingsAck)
      if prev ≠ settings.initialWindowSize then
        let delta : Int := settings.initialWindowSize - prev
        ⟨resumeSend (updateStreamOutputWindows c2 (c2.streams.map (·.streamId)) delta), 0, none⟩
      else ⟨c2, 0, none⟩

/-- `handle_window_update_frame`. -/
def handleWindowUpdateFrame (ctx : Ctx) (c : Conn) (sid : Nat) (payload : Except (DecodeError × Bool) Nat) :
    Handled :=
  match payload with
  | .error (e, streamLevel) =>
    if streamLevel then
      let c1 := if (c.getStream sid).isSome then streamReset ctx c sid else c
      ⟨streamSendError c1 sid e.code.code, 0, e.desc⟩
    else ⟨c, e.code.code, e.desc⟩
  | .ok increment =>
    if sid = 0 then
      match windowUpdate c.write.window increment with
      | none => ⟨c, errorFlowControl, some "flow control window overflow"⟩
      | some v => ⟨resumeSend { c with write := { c.write with window := v } }, 0, none⟩
    else if !isIdleStreamId c sid then
      if (c.getStream sid).isSome then
        let updated := updateStreamOutputWindow c sid increment
        let c1 := updated.1
        if updated.2 ≠ 0 then ⟨streamSendError (streamReset ctx c1 sid) sid errorFlowControl, 0, none⟩
        else ⟨resumeSend c1, 0, none⟩
      else ⟨resumeSend c, 0, none⟩
    else ⟨c, errorProtocol, some "invalid stream id in WINDOW_UPDATE frame"⟩

/-- `handle_goaway_frame`: no push stream is opened hereafter. -/
def handleGoawayFrame (c : Conn) (payload : Except DecodeError Unit) : Handled :=
  match payload with
  | .error e => ⟨c, e.code.code, e.desc⟩
  | .ok () => ⟨{ c with pushMaxOpen := 0x7ffffffe }, 0, none⟩

/-- `handle_ping_frame`. -/
def handlePingFrame (c : Conn) (ack : Bool) (payload : Except DecodeError (List UInt8)) : Handled :=
  match payload with
  | .error e => ⟨c, e.code.code, e.desc⟩
  | .ok data => ⟨if !ack then connRequestWrite (c.encode (.ping data)) else c, 0, none⟩

/-- `handle_rst_stream_frame`. -/
def handleRstStreamFrame (ctx : Ctx) (c : Conn) (sid : Nat) (payload : Except DecodeError Unit) : Handled :=
  match payload with
  | .error e => ⟨c, e.code.code, e.desc⟩
  | .ok () =>
    if isIdleStreamId c sid then ⟨c, errorProtocol, some "unexpected stream id in RST_STREAM frame"⟩
    else ⟨if (c.getStream sid).isSome then streamReset ctx c sid else c, 0, none⟩

/-- `handle_push_promise_frame`. -/
def handlePushPromiseFrame (c : Conn) : Handled := ⟨c, errorProtocol, some "received PUSH_PROMISE frame"⟩

/-- `handle_invalid_continuation_frame`. -/
def handleInvalidContinuationFrame (c : Conn) : Handled :=
  ⟨c, errorProtocol, some "received invalid CONTINUATION frame"⟩

/-- `expect_default`: decode a frame and run the handler for its type; a frame of an unknown
    type is skipped. -/
def expectDefault (ctx : Ctx) (c : Conn) (input : Input) : Handled :=
  match input.chunk with
  | .preface => ⟨c, errorFrameSize, none⟩
  | .malformed e => ⟨c, e.code.code, e.desc⟩
  | .frame f _ _ =>
    match f with
    | .data sid endStream payload => handleDataFrame ctx c sid endStream payload input
    | .headers sid endStream endHeaders hasPriority payload =>
      handleHeadersFrame ctx c sid endStream endHeaders hasPriority payload input
    | .priority sid payload => handlePriorityFrame ctx c sid payload
    | .rstStream sid payload => handleRstStreamFrame ctx c sid payload
    | .settings sid ack params trailing => handleSettingsFrame c sid ack params trailing
    | .pushPromise _ => handlePushPromiseFrame c
    | .ping ack payload => handlePingFrame c ack payload
    | .goaway payload => handleGoawayFrame c payload
    | .windowUpdate sid payload => handleWindowUpdateFrame ctx c sid payload
    | .continuation .. => handleInvalidContinuationFrame c
    | .unknown _ => ⟨c, 0, none⟩

/-- `expect_preface`: anything but the client preface closes the connection without GOAWAY. -/
def expectPreface (ctx : Ctx) (c : Conn) (input : Input) : Handled :=
  match input.chunk with
  | .preface =>
    let c1 := serverPreface.foldl Conn.encode c
    let c2 := if ctx.originFrame then c1.encode .origin else c1
    ⟨{ connRequestWrite c2 with readExpect := .default }, 0, none⟩
  | _ => ⟨c, errorProtocolCloseImmediately, none⟩

/-- `conn->_read_expect`. -/
def readExpect (ctx : Ctx) (c : Conn) (input : Input) : Handled :=
  match c.readExpect with
  | .preface => expectPreface ctx c input
  | .default => expectDefault ctx c input
  | .continuation => expectContinuationOfHeaders ctx c input

/-- `parse_input`: the result is `close_connection`'s once a handler fails, else `0`. -/
def parseInput (ctx : Ctx) : Conn → List Input → Conn × Int
  | c, [] => (c, 0)
  | c, input :: rest =>
    if c.state < .isClosing then
      let h := readExpect ctx c input
      if h.ret = errorIncomplete then (h.conn, 0)
      else if h.ret < 0 then
        closeConnection ctx
          (if h.ret ≠ errorProtocolCloseImmediately then enqueueGoaway h.conn h.ret h.errDesc else h.conn)
      else parseInput ctx h.conn rest
    else (c, 0)

end H2oHttp2
