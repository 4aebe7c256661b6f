import H2oHttp2.Requests

/-!
# Request bodies

`write_streaming_body`, `handle_request_body_chunk` and `proceed_request`: buffering a
request body, the size guards, switching to streaming mode, and handing chunks to the
application through `write_req.cb` with back-pressure through `proceed_req`. The answer of
`write_req.cb` is an argument; each chunk handed over is appended to the stream's ghost
`handed` with the `is_end_stream` flag it carries.
-/
namespace H2oHttp2

namespace Conn

/-- Set `req.entity` to the whole of `req_body.buf`. -/
def entityFromBuffer (c : Conn) (id : Nat) : Conn :=
  c.modifyStream id fun s => { s with entity := some s.bodyBytes.length }

end Conn

/-- `write_streaming_body`: hand `req_body.buf` to `write_req.cb`, whose result is `writeOk`. -/
def writeStreamingBody (ctx : Ctx) (c : Conn) (id : Nat) (writeOk : Bool) : Conn :=
  let s := c.stream id
  let c1 := c.check s.entity.isNone .writeStreamingBodyEntity
  let (c2, isEndStream) :=
    match s.reqBodyState with
    | .openBeforeFirstFrame | .opened => (c1.check (s.bodyBytes.length ≠ 0) .writeStreamingBodyNonEmpty, false)
    | .closeQueued =>
      (setReqBodyState (c1.modifyStream id fun s => { s with proceedReq := false }) id .closeDelivered, true)
    | _ => (c1.check false .writeStreamingBodyState, false)
  let c3 := (c2.entityFromBuffer id).modifyStream id
    fun s => { s with handed := s.handed ++ [(s.bodyBytes, isEndStream)] }
  if !writeOk then streamReset ctx (streamSendError c3 id errorStreamClosed) id
  else if (c3.stream id).reqBodyState == .closeDelivered && (c3.stream id).state == .endStream then
    streamClose ctx c3 id
  else c3

/-- The steps of `handle_request_body_chunk` once the size guards have passed and the
    request is not disregarded: update the states, buffer the payload, then hand it over,
    keep it, or dispatch the request. -/
def bufferRequestBodyChunk (ctx : Ctx) (c : Conn) (id : Nat) (payload : List UInt8) (isEndStream isFirst : Bool)
    (answers : Input) : Conn :=
  let reqQueued := (c.stream id).proceedReq
  let c1 :=
    if isEndStream then
      let c2 :=
        if (c.stream id).state < .reqPending then
          let c3 := streamSetState c id .reqPending
          if (c3.stream id).processCalled then streamSetState c3 id .sendHeaders else c3
        else c
      if (c2.stream id).writeReqCb then setReqBodyState c2 id .closeQueued
      else setReqBodyState (c2.modifyStream id fun s => { s with proceedReq := false }) id .closeDelivered
    else c
  let c4 := c1.modifyStream id fun s =>
    { s with reqBodyBuf := some (s.bodyBytes ++ payload), received := s.received ++ payload }
  let s := c4.stream id
  if s.streamed then
    if s.writeReqCb then
      if s.entity.isNone then writeStreamingBody ctx c4 id answers.writeOk else c4
    else c4.entityFromBuffer id
  else
    let c5 := c4.entityFromBuffer id
    if isFirst && !isEndStream && answers.canStream then
      executeOrEnqueueRequestCore ctx (c5.modifyStream id fun s => { s with proceedReq := true }) id
    else
      let c6 := if isFirst && !isEndStream then updateStreamInputWindow c5 id (windowExtension ctx) else c5
      if isEndStream && !reqQueued then executeOrEnqueueRequest ctx c6 id else c6

/-- The content-length guard of `handle_request_body_chunk`: more than declared, or at the end
    of the body other than declared. -/
def contentLengthViolated (contentLength : Option Nat) (received : Nat) (isEndStream : Bool) : Bool :=
  match contentLength with
  | some cl => if isEndStream then received != cl else cl < received
  | none => false

/-- `handle_request_body_chunk`. -/
def handleRequestBodyChunk (ctx : Ctx) (c : Conn) (id : Nat) (payload : List UInt8) (isEndStream : Bool)
    (answers : Input) : Conn :=
  let state := (c.stream id).reqBodyState
  let isFirst := state == .openBeforeFirstFrame
  let c1 :=
    match state with
    | .openBeforeFirstFrame => setReqBodyState c id .opened
    | .opened => c
    | _ => c.check false .requestBodyChunkState
  let c2 := c1.modifyStream id fun s => { s with reqBodyBytesReceived := s.reqBodyBytesReceived + payload.length }
  let s := c2.stream id
  if ctx.conf.maxRequestEntitySize < s.reqBodyBytesReceived then
    streamReset ctx (streamSendError c2 id errorRefusedStream) id
  else if contentLengthViolated s.contentLength s.reqBodyBytesReceived isEndStream then
    streamReset ctx (streamSendError c2 id errorProtocol) id
  else
    let c3 := if !s.blockedByServer then streamSetBlockedByServer c2 id true else c2
    let r := resetStreamIfDisregarded ctx c3 id
    if r.2 then r.1 else bufferRequestBodyChunk ctx c3 id payload isEndStream isFirst answers

/-- `proceed_request`: the application has consumed the chunk it was handed (`req.entity`),
    or reports an error; a chunk it is then handed gets the answer `writeOk`. -/
def proceedRequest (ctx : Ctx) (c : Conn) (id : Nat) (errstr : Option String) (writeOk : Bool) : Conn :=
  let c1 := c.check (c.stream id).streamed .proceedRequestStreamed
  let written := (c1.stream id).entity.getD 0
  let c2 := c1.modifyStream id fun s => { s with reqBodyBuf := s.reqBodyBuf.map (·.drop written), entity := none }
  match errstr with
  | some _ =>
    let c3 := setReqBodyState (c2.modifyStream id fun s => { s with proceedReq := false }) id .closeDelivered
    if c3.state < .isClosing then
      let c4 := schedulerSetActive (streamSendError c3 id errorStreamClosed) id false
      let c5 := if c4.isLinked id then c4
        else { c4 with write := { c4.write with streamsToProceed := c4.write.streamsToProceed ++ [id] } }
      streamReset ctx c5 id
    else c3
  | none =>
    match (c2.stream id).reqBodyState with
    | .opened =>
      let c3 := updateStreamInputWindow (c2.check (written ≠ 0) .proceedRequestWritten) id written
      let c4 :=
        if (c3.stream id).blockedByServer && 0 < (c3.stream id).inputWindow then
          updateIdleTimeout (streamSetBlockedByServer c3 id false)
        else c3
      if (c4.stream id).bodyBytes.length ≠ 0 then writeStreamingBody ctx c4 id writeOk else c4
    | .closeQueued => writeStreamingBody ctx (c2.check (written ≠ 0) .proceedRequestWritten) id writeOk
    | _ => c2.check false .proceedRequestState

end H2oHttp2
