import H2oHttp2.Events

/-!
# Header blocks: which stream a block is decoded for, and what its errors become

`expect_continuation_of_headers` accepts a CONTINUATION frame on any stream that is receiving
headers or a body (`expectContinuationOfHeaders_appends`), so a block opened by HEADERS on one
stream can be finished, and decoded, on another (`continuation_spliced_into_other_stream`).
`handle_incoming_request` executes a request whose HEADERS frame ends the stream without
comparing its `content-length` with the empty body (`content_length_unchecked_without_body`).
It keeps the decoder's soft error `INVALID_HEADER_CHAR` to itself
(`handleIncomingRequest_ret_protocol`), but `handle_trailing_headers` returns it
(`handleTrailingHeaders_ret`), and `parse_input` puts it in a GOAWAY
(`invalid_trailer_char_sent_in_goaway`).

The runs here and in the modules after this one use `sampleCtx`, whose decoder reads a
one-byte block as one of a few requests, and the inputs `prefaceInput`, `headersInput`,
`continuationInput` and `dataInput`.
-/
namespace H2oHttp2

/-! ### Handlers -/

/-- A CONTINUATION frame that does not end the block is appended to `_headers_unparsed`
    whatever stream it is on, as long as that stream is receiving headers or a body. -/
theorem expectContinuationOfHeaders_appends (ctx : Ctx) (c : Conn) {sid : Nat} {s : Stream}
    (fragment : List UInt8) (lt : sid < 0x80000000) (canStream writeOk : Bool)
    (found : c.getStream sid = some s) (receiving : s.state = .recvHeaders ∨ s.state = .recvBody)
    (fits : (c.headersUnparsed.getD []).length + fragment.length ≤ ctx.maxReqlen) :
    expectContinuationOfHeaders ctx c ⟨.frame (.continuation sid false fragment) lt trivial, canStream, writeOk⟩ =
      ⟨{ c with headersUnparsed := some (c.headersUnparsed.getD [] ++ fragment) }, 0, none⟩ := by
  have receiving' : (s.state == .recvHeaders || s.state == .recvBody) = true := by
    rcases receiving with h | h <;> simp [h]
  simp [expectContinuationOfHeaders, found, receiving', fits]

theorem CodecError.code_isProtocolCode (e : CodecError) : IsProtocolCode e.code := by
  cases e <;> decide

theorem isProtocolCode_zero : IsProtocolCode 0 := by decide

/-- `handle_incoming_request` reports only the decoder's hard errors: a soft error becomes a
    400 response on the stream. -/
theorem handleIncomingRequest_ret_protocol (ctx : Ctx) (c : Conn) (id : Nat) (src : List UInt8) :
    IsProtocolCode (handleIncomingRequest ctx c id src).ret := by
  dsimp only [handleIncomingRequest]
  split
  · exact CodecError.code_isProtocolCode _
  · simp only [apply_ite Handled.ret, ite_self]
    exact isProtocolCode_zero

/-- `handle_trailing_headers` returns whatever the decoder returned that is not success. -/
theorem handleTrailingHeaders_ret (ctx : Ctx) (c : Conn) (id : Nat) (src : List UInt8) (answers : Input)
    (failed : (ctx.hpack c.inputHeaderTable src).1.ret ≠ .ok) :
    (handleTrailingHeaders ctx c id src answers).ret = (ctx.hpack c.inputHeaderTable src).1.ret.toInt := by
  simp [handleTrailingHeaders, failed]

/-! ### Concrete runs -/

/-- A decoder for concrete runs. Block `[1]` is a request with every pseudo-header, `[2]` a
    CONNECT request, `[3]` a block with an invalid character in a header value, which the decoder
    reports as its soft error, `[4]` a request declaring
    `content-length: 10`; any other block is an empty one. -/
def sampleHpack (table : HeaderTable) : List UInt8 → ParsedRequest × HeaderTable
  | [1] => (⟨.ok, none, "POST", ⟨true, true, true, true⟩, none⟩, table)
  | [2] => (⟨.ok, none, "CONNECT", ⟨true, false, true, false⟩, none⟩, table)
  | [3] => (⟨.invalidHeaderChar, some "found an invalid character in header value", "GET",
      ⟨true, true, true, true⟩, none⟩, table)
  | [4] => (⟨.ok, none, "POST", ⟨true, true, true, true⟩, some 10⟩, table)
  | _ => (⟨.ok, none, "", ⟨false, false, false, false⟩, none⟩, table)

/-- A context for concrete runs: request bodies up to 1024 bytes, 100 requests, one streamed
    request, the default active stream window of 16 MiB. -/
def sampleCtx : Ctx where
  conf := ⟨1024, 0, 100, 1, 100, 16777216⟩
  hpack := sampleHpack
  maxReqlen := 8192
  originFrame := false
  useLibuv := true

/-- The client preface. -/
def prefaceInput : Input := ⟨.preface, false, true⟩

/-- A HEADERS frame carrying `block`, with the default priority. -/
def headersInput (id : Nat) (endStream endHeaders : Bool) (block : List UInt8)
    (lt : id < 0x80000000) (ne : id ≠ 0) : Input :=
  ⟨.frame (.headers id endStream endHeaders false (.ok ⟨defaultPriority, block⟩)) lt ne, false, true⟩

/-- A CONTINUATION frame. -/
def continuationInput (id : Nat) (endHeaders : Bool) (fragment : List UInt8) (lt : id < 0x80000000) : Input :=
  ⟨.frame (.continuation id endHeaders fragment) lt trivial, false, true⟩

/-- A DATA frame without padding, with the application's answers. -/
def dataInput (id : Nat) (endStream : Bool) (data : List UInt8) (canStream writeOk : Bool)
    (lt : id < 0x80000000) (ne : id ≠ 0) (le : data.length ≤ hostMaxFrameSize) : Input :=
  ⟨.frame (.data id endStream (.ok ⟨data.length, data, le_refl _, le⟩)) lt ne, canStream, writeOk⟩

/-- HEADERS on stream 1 opens a request body; HEADERS on stream 3 without END_HEADERS opens a
    header block; a CONTINUATION on stream 1 ends it. -/
def splicedRun : List Event :=
  [.read [prefaceInput, headersInput 1 false true [1] (by decide) (by decide),
    headersInput 3 true false [0] (by decide) (by decide), continuationInput 1 true [] (by decide)]]

/-- The connection after `splicedRun`. -/
def splicedConn : Conn := run sampleCtx accept splicedRun

/-- The block opened on stream 3 is accepted on stream 1 and decoded as stream 1's trailers:
    no GOAWAY is sent, stream 1's request is dispatched, and stream 3 is left waiting for
    headers that have been consumed. -/
theorem continuation_spliced_into_other_stream :
    Reachable sampleCtx splicedConn ∧ splicedConn.goawayIds = [] ∧ splicedConn.readExpect = .default ∧
      Trace.process 1 ∈ splicedConn.log ∧ (splicedConn.stream 3).state = .recvHeaders :=
  ⟨Reachable.run _ .accept, by decide⟩

/-- HEADERS on stream 1 opens a request body; trailers on stream 1 carry an invalid character in
    a header value. -/
def invalidTrailerRun : List Event :=
  [.read [prefaceInput, headersInput 1 false true [1] (by decide) (by decide),
    headersInput 1 true true [3] (by decide) (by decide)]]

/-- The connection after `invalidTrailerRun`. -/
def invalidTrailerConn : Conn := run sampleCtx accept invalidTrailerRun

/-- An invalid header character in trailers fails the connection with a GOAWAY whose error
    code is the internal `INVALID_HEADER_CHAR`. -/
theorem invalid_trailer_char_sent_in_goaway :
    Reachable sampleCtx invalidTrailerConn ∧ invalidTrailerConn.state = .isClosing ∧
      Trace.frame (.goaway 1 errorInvalidHeaderChar (some "found an invalid character in header value")) ∈
        invalidTrailerConn.log ∧
      ¬ IsProtocolCode errorInvalidHeaderChar :=
  ⟨Reachable.run _ .accept, by decide⟩

/-- HEADERS on stream 1 with END_STREAM and END_HEADERS, declaring `content-length: 10`. -/
def bodilessRun : List Event := [.read [prefaceInput, headersInput 1 true true [4] (by decide) (by decide)]]

/-- The connection after `bodilessRun`. -/
def bodilessConn : Conn := run sampleCtx accept bodilessRun

/-- A request whose HEADERS frame ends the stream is executed without a look at its declared
    `content-length`: stream 1 declares 10 bytes, receives none, and is processed with no
    RST_STREAM sent. -/
theorem content_length_unchecked_without_body :
    Reachable sampleCtx bodilessConn ∧ (bodilessConn.stream 1).contentLength = some 10 ∧
      (bodilessConn.stream 1).reqBodyBytesReceived = 0 ∧
      bodilessConn.log = [.frame (.settings [(settingsMaxConcurrentStreams, 100)]),
        .frame (.windowUpdate 0 (hostConnectionWindowSize - hostStreamInitialWindowSize)), .process 1] :=
  ⟨Reachable.run _ .accept, by decide⟩

end H2oHttp2
