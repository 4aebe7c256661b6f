import Mathlib.Data.List.Basic

/-!
# What the connection engine reads and writes

The constants and error codes of `http2.h` and `http2_common.h` that `lib/http2/connection.c`
uses, the ordered states of connections, streams and request bodies, the frames the frame
codec hands to the engine (the codec is external: a frame arrives decoded, or as the error
its decoder reports), the frames the engine encodes, and the interface of the HPACK
decoder, which the model takes as a parameter.
-/
namespace H2oHttp2

/-! ### Error codes

`H2O_HTTP2_ERROR_*`: `0` and the negated RFC 7540 codes, then three values internal to h2o. -/

def errorNone : Int := 0
def errorProtocol : Int := -1
def errorInternal : Int := -2
def errorFlowControl : Int := -3
def errorSettingsTimeout : Int := -4
def errorStreamClosed : Int := -5
def errorFrameSize : Int := -6
def errorRefusedStream : Int := -7
def errorCancel : Int := -8
def errorCompression : Int := -9
def errorConnect : Int := -10
def errorEnhanceYourCalm : Int := -11
def errorInadequateSecurity : Int := -12
def errorMax : Int := 13
def errorInvalidHeaderChar : Int := -254
def errorIncomplete : Int := -255
def errorProtocolCloseImmediately : Int := -256

/-- The codes `H2O_HTTP2_ERROR_NONE` to `-(H2O_HTTP2_ERROR_MAX - 1)`, the only ones RFC 7540
    defines. -/
def IsProtocolCode (errnum : Int) : Prop := -(errorMax - 1) ≤ errnum ∧ errnum ≤ errorNone

instance (errnum : Int) : Decidable (IsProtocolCode errnum) :=
  inferInstanceAs (Decidable (_ ∧ _))

/-! ### Settings and sizes of `http2_common.h` -/

def hostMaxConcurrentStreams : Nat := 100
def hostStreamInitialWindowSize : Nat := 65535
def hostConnectionWindowSize : Nat := 16777216
def hostMaxFrameSize : Nat := 16384
def int32Max : Nat := 0x7fffffff

def settingsHeaderTableSize : Nat := 1
def settingsEnablePush : Nat := 2
def settingsMaxConcurrentStreams : Nat := 3
def settingsInitialWindowSize : Nat := 4
def settingsMaxFrameSize : Nat := 5

/-- `HTTP2_CLOSED_STREAM_PRIORITIES`, the slots of the recently-closed ring. -/
def closedStreamPriorities : Nat := 10

/-- `h2o_http2_settings_t`, the members the connection reads. -/
structure Settings where
  headerTableSize : Nat
  enablePush : Nat
  maxConcurrentStreams : Nat
  initialWindowSize : Nat
  maxFrameSize : Nat
deriving DecidableEq, Repr

/-- `H2O_HTTP2_SETTINGS_DEFAULT`, what RFC 7540 lets a peer assume before any SETTINGS. -/
def settingsDefault : Settings := ⟨4096, 1, 0xffffffff, 65535, 16384⟩

/-! ### Ordered states -/

/-- `H2O_HTTP2_CONN_STATE_*`, in the order the code compares them. -/
inductive ConnState where
  | opened
  | halfClosed
  | isClosing
deriving DecidableEq, Repr

def ConnState.toNat : ConnState → Nat
  | .opened => 0
  | .halfClosed => 1
  | .isClosing => 2

instance : LT ConnState := ⟨fun a b => a.toNat < b.toNat⟩
instance (a b : ConnState) : Decidable (a < b) := inferInstanceAs (Decidable (a.toNat < b.toNat))

/-- `H2O_HTTP2_STREAM_STATE_*`, in the order the code compares them. -/
inductive StreamState where
  | idle
  | recvHeaders
  | recvBody
  | reqPending
  | sendHeaders
  | sendBody
  | sendBodyIsFinal
  | endStream
deriving DecidableEq, Repr

def StreamState.toNat : StreamState → Nat
  | .idle => 0
  | .recvHeaders => 1
  | .recvBody => 2
  | .reqPending => 3
  | .sendHeaders => 4
  | .sendBody => 5
  | .sendBodyIsFinal => 6
  | .endStream => 7

instance : LT StreamState := ⟨fun a b => a.toNat < b.toNat⟩
instance : LE StreamState := ⟨fun a b => a.toNat ≤ b.toNat⟩
instance (a b : StreamState) : Decidable (a < b) := inferInstanceAs (Decidable (a.toNat < b.toNat))
instance (a b : StreamState) : Decidable (a ≤ b) := inferInstanceAs (Decidable (a.toNat ≤ b.toNat))

/-- `H2O_HTTP2_REQ_BODY_*`: the request-body sub-state, meant to advance only. -/
inductive ReqBodyState where
  | none
  | openBeforeFirstFrame
  | opened
  | closeQueued
  | closeDelivered
deriving DecidableEq, Repr

def ReqBodyState.toNat : ReqBodyState → Nat
  | .none => 0
  | .openBeforeFirstFrame => 1
  | .opened => 2
  | .closeQueued => 3
  | .closeDelivered => 4

instance : LT ReqBodyState := ⟨fun a b => a.toNat < b.toNat⟩
instance (a b : ReqBodyState) : Decidable (a < b) := inferInstanceAs (Decidable (a.toNat < b.toNat))

/-! ### Frames as the codec delivers them -/

/-- The protocol errors the external decoders (`frame.c`, `hpack.c`) report. -/
inductive CodecError where
  | protocol
  | flowControl
  | frameSize
  | compression
deriving DecidableEq, Repr

def CodecError.code : CodecError → Int
  | .protocol => errorProtocol
  | .flowControl => errorFlowControl
  | .frameSize => errorFrameSize
  | .compression => errorCompression

/-- A decoder's failure: its code and the description it leaves in `err_desc`. -/
structure DecodeError where
  code : CodecError
  desc : Option String
deriving DecidableEq, Repr

/-- `h2o_http2_priority_t`. -/
structure Priority where
  exclusive : Bool
  dependency : Nat
  weight : Nat
deriving DecidableEq, Repr

/-- `h2o_http2_default_priority`. -/
def defaultPriority : Priority := ⟨false, 0, 16⟩

/-- A DATA frame once `h2o_http2_decode_data_payload` has removed its padding: the frame's
    length, which `h2o_http2_decode_frame` bounds by the host's maximum frame size, and the
    data. -/
structure DataPayload where
  length : Nat
  data : List UInt8
  data_le : data.length ≤ length
  length_le : length ≤ hostMaxFrameSize
deriving DecidableEq

/-- `h2o_http2_headers_payload_t`: the priority fields and the header-block fragment. -/
structure HeadersPayload where
  priority : Priority
  headers : List UInt8
deriving DecidableEq, Repr

/-- A frame `h2o_http2_decode_frame` accepted, with what its payload decoder makes of it.
    SETTINGS carries its `(identifier, value)` pairs and the bytes past the last whole
    pair; WINDOW_UPDATE's decoder also says whether its error is stream-level. -/
inductive Frame where
  | data (streamId : Nat) (endStream : Bool) (payload : Except DecodeError DataPayload)
  | headers (streamId : Nat) (endStream endHeaders hasPriority : Bool)
      (payload : Except DecodeError HeadersPayload)
  | priority (streamId : Nat) (payload : Except DecodeError Priority)
  | rstStream (streamId : Nat) (payload : Except DecodeError Unit)
  | settings (streamId : Nat) (ack : Bool) (params : List (Nat × Nat)) (trailing : Nat)
  | pushPromise (streamId : Nat)
  | ping (ack : Bool) (payload : Except DecodeError (List UInt8))
  | goaway (payload : Except DecodeError Unit)
  | windowUpdate (streamId : Nat) (payload : Except (DecodeError × Bool) Nat)
  | continuation (streamId : Nat) (endHeaders : Bool) (fragment : List UInt8)
  | unknown (type : Nat)

/-- What the payload decoders guarantee of a frame they accept: a stream-level frame is not on
    stream 0, nor is a WINDOW_UPDATE whose error the decoder calls stream-level. -/
def Frame.Decodable : Frame → Prop
  | .data id _ (.ok _) => id ≠ 0
  | .headers id _ _ _ (.ok _) => id ≠ 0
  | .priority id (.ok _) => id ≠ 0
  | .rstStream id (.ok _) => id ≠ 0
  | .windowUpdate id (.error (_, true)) => id ≠ 0
  | _ => True

def Frame.streamId : Frame → Nat
  | .data id .. => id
  | .headers id .. => id
  | .priority id _ => id
  | .rstStream id _ => id
  | .settings id .. => id
  | .pushPromise id => id
  | .windowUpdate id _ => id
  | .continuation id .. => id
  | _ => 0

/-- What the socket delivers, cut at the units the engine reads: the client preface, a
    frame, or bytes `h2o_http2_decode_frame` rejects. A frame's stream id has 31 bits, as
    the decoder masks the reserved bit. -/
inductive Chunk where
  | preface
  | frame (f : Frame) (id_lt : f.streamId < 0x80000000) (decodable : f.Decodable)
  | malformed (e : DecodeError)

/-- One unit of input with the application's answers to the callbacks the engine makes
    while handling it: `h2o_req_can_stream_request` and the result of `write_req.cb`. -/
structure Input where
  chunk : Chunk
  canStream : Bool
  writeOk : Bool

/-! ### Frames the engine encodes -/

/-- The frames `h2o_http2_encode_*` and `SERVER_PREFACE` put in `_write.buf`. GOAWAY and
    RST_STREAM keep the `errnum` the encoder is given; the wire carries `-errnum`. -/
inductive OutFrame where
  | settings (params : List (Nat × Nat))
  | settingsAck
  | origin
  | ping (data : List UInt8)
  | goaway (lastStreamId : Nat) (errnum : Int) (debug : Option String)
  | rstStream (streamId : Nat) (errnum : Int)
  | windowUpdate (streamId : Nat) (increment : Nat)
  | headers (streamId : Nat)
  | data (streamId : Nat) (length : Nat) (endStream : Bool)
  | pushPromise (streamId : Nat) (promised : Nat)
deriving DecidableEq, Repr

/-- `SERVER_PREFACE`: SETTINGS with MAX_CONCURRENT_STREAMS 100, then a connection-level
    WINDOW_UPDATE raising the receive window to `hostConnectionWindowSize`. -/
def serverPreface : List OutFrame :=
  [.settings [(settingsMaxConcurrentStreams, 100)],
   .windowUpdate 0 (hostConnectionWindowSize - hostStreamInitialWindowSize)]

/-! ### The HPACK decoder -/

/-- `H2O_HPACK_PARSE_HEADERS_*_EXISTS`: which pseudo-headers a block carried. -/
structure HeaderExists where
  method : Bool
  scheme : Bool
  authority : Bool
  path : Bool
deriving DecidableEq, Repr

/-- The return value of `h2o_hpack_parse_request`: success, the soft error
    `H2O_HTTP2_ERROR_INVALID_HEADER_CHAR` (the fields are filled in all the same), or a
    decoding error. -/
inductive HpackRet where
  | ok
  | invalidHeaderChar
  | error (e : CodecError)
deriving DecidableEq, Repr

def HpackRet.toInt : HpackRet → Int
  | .ok => 0
  | .invalidHeaderChar => errorInvalidHeaderChar
  | .error e => e.code

/-- What `h2o_hpack_parse_request` reports about a header block; `contentLength` is `none`
    for `SIZE_MAX`, no content-length header. -/
structure ParsedRequest where
  ret : HpackRet
  errDesc : Option String
  method : String
  headerExists : HeaderExists
  contentLength : Option Nat
deriving DecidableEq, Repr

/-- The decoder's dynamic table (`_input_header_table`), as header name and value pairs. -/
structure HeaderTable where
  entries : List (List UInt8 × List UInt8)
deriving DecidableEq, Repr

/-! ### Configuration -/

/-- The members of `globalconf` the connection reads. -/
structure GlobalConf where
  maxRequestEntitySize : Nat
  gracefulShutdownTimeout : Nat
  maxConcurrentRequestsPerConnection : Nat
  maxConcurrentStreamingRequestsPerConnection : Nat
  maxStreamsForPriority : Nat
  activeStreamWindowSize : Nat
deriving DecidableEq, Repr

/-- The context a connection runs in: its configuration, the HPACK decoder it calls,
    `H2O_MAX_REQLEN` (a constant of `h2o.h`), whether the accepting context has an ORIGIN
    frame to send, and whether h2o is built with libuv (`H2O_USE_LIBUV`). -/
structure Ctx where
  conf : GlobalConf
  hpack : HeaderTable → List UInt8 → ParsedRequest × HeaderTable
  maxReqlen : Nat
  originFrame : Bool
  useLibuv : Bool

end H2oHttp2
