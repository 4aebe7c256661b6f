import H2oHttp2.Body

/-!
# Header blocks

`handle_incoming_request` and `handle_trailing_headers`, which decode a complete header block
with the HPACK decoder, `expect_continuation_of_headers`, which gathers CONTINUATION frames
into `_headers_unparsed`, `handle_headers_frame`, and `set_priority` with
`handle_priority_frame`.
-/
namespace H2oHttp2

/-- What a frame handler returns: the connection, its `int` result (`0`, or an error code for
    `parse_input`), and what it left in `err_desc`. -/
structure Handled where
  conn : Conn
  ret : Int
  errDesc : Option String

/-- `send_invalid_request_error`. -/
def sendInvalidRequestError (c : Conn) (id : Nat) (errDesc : String) : Conn :=
  h2oSendError400 (streamSetState (streamSetState c id .reqPending) id .sendHeaders) id errDesc

/-- The pseudo-headers a request must carry: `:method` and `:authority` for CONNECT,
    `:method`, `:scheme` and `:path` otherwise. -/
def HeaderExists.complete (h : HeaderExists) (isConnect : Bool) : Bool :=
  if isConnect then h.method && h.authority else h.method && h.scheme && h.path

/-- `handle_incoming_request`. -/
def handleIncomingRequest (ctx : Ctx) (c : Conn) (id : Nat) (src : List UInt8) : Handled :=
  let c1 := c.check ((c.stream id).state == .recvHeaders) .incomingRequestState
  let decoded := ctx.hpack c1.inputHeaderTable src
  let p := decoded.1
  let c2 := { c1 with inputHeaderTable := decoded.2 }
  match p.ret with
  | .error e => ⟨c2, e.code, p.errDesc⟩
  | ret =>
    let c3 := c2.modifyStream id fun s => { s with contentLength := p.contentLength }
    let isConnect := p.method == "CONNECT"
    if !p.headerExists.complete isConnect then
      ⟨streamReset ctx (streamSendError c3 id errorProtocol) id, 0, p.errDesc⟩
    else if hostMaxConcurrentStreams < c3.numStreams.pull.opened then
      ⟨streamReset ctx (streamSendError c3 id errorRefusedStream) id, 0, p.errDesc⟩
    else if ret ≠ .ok then
      ⟨sendInvalidRequestError (c3.check (ret == .invalidHeaderChar) .incomingRequestInvalidChar) id
        (p.errDesc.getD ""), 0, p.errDesc⟩
    else if isConnect then
      if (c3.stream id).contentLength.isSome || (c3.stream id).reqBodyBuf.isNone then
        ⟨sendInvalidRequestError c3 id "Invalid CONNECT request", 0, p.errDesc⟩
      else
        let c4 := c3.modifyStream id fun s => { s with isTunnelReq := true, proceedReq := true }
        ⟨processRequest ctx (setReqBodyState (streamSetState c4 id .recvBody) id .opened) id, 0, p.errDesc⟩
    else if (c3.stream id).reqBodyBuf.isNone then ⟨executeOrEnqueueRequest ctx c3 id, 0, p.errDesc⟩
    else ⟨setReqBodyState (streamSetState c3 id .recvBody) id .openBeforeFirstFrame, 0, p.errDesc⟩

/-- `handle_trailing_headers`: a decoding failure, `INVALID_HEADER_CHAR` included, is returned
    as it is. -/
def handleTrailingHeaders (ctx : Ctx) (c : Conn) (id : Nat) (src : List UInt8) (answers : Input) : Handled :=
  let decoded := ctx.hpack c.inputHeaderTable src
  let p := decoded.1
  let c1 := { c with inputHeaderTable := decoded.2 }
  if p.ret ≠ .ok then ⟨c1, p.ret.toInt, p.errDesc⟩
  else ⟨handleRequestBodyChunk ctx c1 id [] true answers, 0, p.errDesc⟩

/-- The label `PREPARE_FOR_CONTINUATION` of `handle_headers_frame`. -/
def prepareForContinuation (c : Conn) (fragment : List UInt8) : Handled :=
  ⟨{ c with readExpect := .continuation, headersUnparsed := some fragment }, 0, none⟩

/-- `expect_continuation_of_headers`: the stream id of a CONTINUATION frame is checked against
    the streams that are receiving headers or a body, not against the stream whose HEADERS
    frame opened the block. A non-negative result means the input was consumed. -/
def expectContinuationOfHeaders (ctx : Ctx) (c : Conn) (input : Input) : Handled :=
  let unexpected : Handled := ⟨c, errorProtocol, some "unexpected stream id in CONTINUATION frame"⟩
  match input.chunk with
  | .preface => ⟨c, errorFrameSize, none⟩
  | .malformed e => ⟨c, e.code.code, e.desc⟩
  | .frame (.continuation sid endHeaders fragment) _ _ =>
    match c.getStream sid with
    | none => unexpected
    | some s =>
      if !(s.state == .recvHeaders || s.state == .recvBody) then unexpected
      else
        let unparsed := c.headersUnparsed.getD []
        if unparsed.length + fragment.length ≤ ctx.maxReqlen then
          let c1 := { c with headersUnparsed := some (unparsed ++ fragment) }
          if endHeaders then
            let c2 := { c1 with readExpect := .default }
            let h :=
              if s.state == .recvHeaders then handleIncomingRequest ctx c2 sid (unparsed ++ fragment)
              else handleTrailingHeaders ctx c2 sid (unparsed ++ fragment) input
            ⟨{ h.conn with headersUnparsed := none }, h.ret, h.errDesc⟩
          else ⟨c1, 0, none⟩
        else ⟨streamReset ctx (streamSendError c sid errorRefusedStream) sid, 0, none⟩
  | .frame _ _ _ => ⟨c, errorProtocol, some "expected CONTINUATION frame"⟩

/-- The first slot of the recently-closed ring that keeps the node of stream `id`. -/
def RecentlyClosed.find (r : RecentlyClosed) (id : Nat) : Option Nat :=
  r.streams.findIdx? fun
    | some n => n.streamId == id
    | none => false

/-- `set_priority`: the parent is the ring slot keeping the dependency's node, else the
    dependency's own node, else the root with the default priority (RFC 7540 §5.3.1, §5.3.4).
    The Chromium heuristic, which may seat the node elsewhere, is not modelled. -/
def setPriority (c : Conn) (id : Nat) (priority : Priority) : Conn :=
  let (parent, weight) :=
    if priority.dependency ≠ 0 then
      match c.recentlyClosed.find priority.dependency with
      | some slot => (SchedParent.closed slot, priority.weight)
      | none =>
        if (c.getStream priority.dependency).isSome then (.stream priority.dependency, priority.weight)
        else (.root, defaultPriority.weight)
    else (.root, priority.weight)
  schedulerOpen c id parent weight

/-- `handle_headers_frame`. -/
def handleHeadersFrame (ctx : Ctx) (c : Conn) (sid : Nat) (endStream endHeaders hasPriority : Bool)
    (payload : Except DecodeError HeadersPayload) (answers : Input) : Handled :=
  match payload with
  | .error e => ⟨c, e.code.code, e.desc⟩
  | .ok p =>
    if sid % 2 = 0 then ⟨c, errorProtocol, some "invalid stream id in HEADERS frame"⟩
    else if sid ≤ c.pullMaxOpen then
      match c.getStream sid with
      | none => ⟨c, errorStreamClosed, some "closed stream id in HEADERS frame"⟩
      | some s =>
        if !(s.reqBodyState == .openBeforeFirstFrame || s.reqBodyState == .opened) then
          ⟨c, errorProtocol, some "invalid stream id in HEADERS frame"⟩
        else if s.isTunnelReq then ⟨c, errorProtocol, some "trailer cannot be used in a CONNECT request"⟩
        else if !endStream then
          ⟨c, errorProtocol, some "trailing HEADERS frame MUST have END_STREAM flag set"⟩
        else if !endHeaders then prepareForContinuation c p.headers
        else handleTrailingHeaders ctx c sid p.headers answers
    else if sid = p.priority.dependency then ⟨c, errorProtocol, some "stream cannot depend on itself"⟩
    else
      let c1 :=
        match c.getStream sid with
        | some _ =>
          if hasPriority then
            (setPriority c sid p.priority).modifyStream sid fun s => { s with receivedPriority := p.priority }
          else c
        | none => setPriority (streamOpen { c with receivedAnyRequest := true } sid p.priority) sid p.priority
      let c2 := streamPrepareForRequest c1 sid
      let c3 := if !endStream then c2.modifyStream sid fun s => { s with reqBodyBuf := some [] } else c2
      if endHeaders then handleIncomingRequest ctx c3 sid p.headers
      else prepareForContinuation c3 p.headers

/-- `handle_priority_frame`. -/
def handlePriorityFrame (ctx : Ctx) (c : Conn) (sid : Nat) (payload : Except DecodeError Priority) : Handled :=
  match payload with
  | .error e => ⟨c, e.code.code, e.desc⟩
  | .ok p =>
    if sid = p.dependency then ⟨c, errorProtocol, some "stream cannot depend on itself"⟩
    else
      match c.getStream sid with
      | some s =>
        let c1 := c.modifyStream sid fun s => { s with receivedPriority := p }
        ⟨if s.schedWeight ≠ 257 then setPriority c1 sid p else c1, 0, none⟩
      | none =>
        if streamIsPush sid || sid ≤ c.pullMaxOpen then ⟨c, 0, none⟩
        else if ctx.conf.maxStreamsForPriority ≤ c.numStreams.priority.opened then
          ⟨c, errorEnhanceYourCalm, some "too many streams in idle/closed state"⟩
        else ⟨setPriority (streamOpen c sid p) sid p, 0, none⟩

end H2oHttp2
