import H2oHttp2.HeaderBlocks

/-!
# The concurrent-stream limit

`handle_incoming_request` refuses a request once `num_streams.pull.open` exceeds
`H2O_HTTP2_SETTINGS_HOST_MAX_CONCURRENT_STREAMS`, the value `SERVER_PREFACE` advertises. The
check runs when a header block is decoded for a stream in RECV_HEADERS. A HEADERS frame without
END_HEADERS counts its stream at once. A CONTINUATION frame that names another stream, one
receiving a body, ends the block as that stream's trailers (`continuation_spliced_into_other_stream`).
Then the check never runs for the stream the block was opened for.

A run that fills the limit is long, so it is not replayed step by step. `prefacedConn` is a
connection after the client preface, given its streams, `pull_stream_ids.max_open`, its counters and
`received_any_request`. HEADERS with a request body on a new odd stream above `max_open`
takes such a connection to the next one (`step_opens_body`). Hence 100 of them give the
connection with the streams 1, 3, ..., 199 (`run_openings`). From there, two frames leave 101
streams open between frames, with no block pending and no REFUSED_STREAM sent
(`concurrent_streams_exceed_limit`).
-/
namespace H2oHttp2

theorem run_cons (ctx : Ctx) (c : Conn) (e : Event) (es : List Event) : run ctx c (e :: es) = run ctx (step ctx c e) es :=
  rfl

theorem run_append (ctx : Ctx) (c : Conn) (es es' : List Event) : run ctx c (es ++ es') = run ctx (run ctx c es) es' :=
  List.foldl_append _ _ _ _

/-- A stream opened by HEADERS with a request body, as `handle_incoming_request` leaves it:
    receiving the body, before its first DATA frame. -/
def bodyStream (id : Nat) : Stream :=
  { Stream.fresh id 65535 defaultPriority with
    state := .recvBody, schedOpen := true, schedWeight := 16, slot := .pull, reqBodyBuf := some [],
    reqBodyState := .openBeforeFirstFrame }

/-- The counters with `n` pull streams open and nothing else counted. -/
def pullOpen (n : Nat) : NumStreams := ⟨⟨n, 0⟩, ⟨0, 0⟩, ⟨0, 0⟩, 0, 0, 0⟩

/-- A connection of `sampleCtx` between reads, after the client preface: the preface is in flight
    and the connection has the given streams, `pull_stream_ids.max_open`, counters and
    `received_any_request`. -/
def prefacedConn (streams : List Stream) (maxOpen : Nat) (numStreams : NumStreams) (anyRequest : Bool) : Conn where
  state := .opened
  destroyed := false
  peerSettings := ⟨4096, 1, 4294967295, 65535, 16384⟩
  streams := streams
  pullMaxOpen := maxOpen
  pullMaxProcessed := 0
  pushMaxOpen := 0
  numStreams := numStreams
  readExpect := .default
  headersUnparsed := none
  inputHeaderTable := ⟨[]⟩
  inputWindow := 16777216
  pendingReqs := []
  write := ⟨[], some serverPreface, false, [], 65535⟩
  timeoutEntry := true
  gracefulShutdown := ⟨.none, false⟩
  recentlyClosed := ⟨List.replicate 10 none, 0⟩
  sock := ⟨true, true, false, false⟩
  receivedAnyRequest := anyRequest
  pushMemo := []
  log := serverPreface.map .frame
  failed := []

theorem accept_preface : step sampleCtx accept (.read [prefaceInput]) = prefacedConn [] 0 (pullOpen 0) false := by
  decide

/-- HEADERS with a request body on a new odd stream above `pull_stream_ids.max_open`, below the
    limit, opens the stream and counts it, and nothing else. -/
theorem step_opens_body (xs : List Stream) (sid m n : Nat) (b : Bool) (lt : sid < 0x80000000) (odd : sid % 2 = 1)
    (fresh : ∀ s ∈ xs, s.streamId ≠ sid) (above : m < sid) (room : n < hostMaxConcurrentStreams) :
    step sampleCtx (prefacedConn xs m (pullOpen n) b) (.read [headersInput sid false true [1] lt (by omega)]) =
      prefacedConn (xs ++ [bodyStream sid]) sid (pullOpen (n + 1)) true := by
  have findNone : xs.find? (fun t => decide (t.streamId = sid)) = none :=
    List.find?_eq_none.2 fun x mem => by simpa using fresh x mem
  have findLast : ∀ s : Stream, s.streamId = sid → (xs ++ [s]).find? (fun t => decide (t.streamId = sid)) = some s := by
    intro s same
    rw [List.find?_append, findNone]
    simp [same]
  have mapLast : ∀ (s : Stream) (f : Stream → Stream), s.streamId = sid →
      (xs ++ [s]).map (fun t => if t.streamId = sid then f t else t) = xs ++ [f s] := by
    intro s f same
    rw [List.map_append, List.map_singleton, if_pos same, List.map_congr_left fun x mem => if_neg (fresh x mem),
      List.map_id']
  have nonzero : sid ≠ 0 := by omega
  have limit : ¬ hostMaxConcurrentStreams < n + 1 := by
    simp only [hostMaxConcurrentStreams] at room ⊢
    omega
  -- the new stream as `handle_headers_frame` hands it to `handle_incoming_request`
  have prepared : (streamPrepareForRequest (setPriority
        (streamOpen { prefacedConn xs m (pullOpen n) b with receivedAnyRequest := true } sid defaultPriority)
        sid defaultPriority) sid).modifyStream sid (fun s => { s with reqBodyBuf := some [] }) =
      prefacedConn (xs ++ [{ bodyStream sid with state := .recvHeaders, reqBodyState := .none }]) sid
        (pullOpen (n + 1)) true := by
    have pull : streamIsPush sid = false := by simp [streamIsPush, odd]
    simp only [streamOpen, connRegisterStream, Conn.getStream, prefacedConn, findNone, Stream.fresh,
      Option.isSome_none, Bool.false_eq_true, if_false, Conn.mapSlot, NumStreams.mapSlot, setPriority,
      defaultPriority, ne_eq, not_true_eq_false, schedulerOpen, Conn.modifyStream, mapLast,
      streamPrepareForRequest, Conn.check, Conn.stream, findLast, Option.getD_some, if_true, pull, streamSetState,
      streamUpdateOpenSlot, Conn.setStreamState, Nat.max_eq_right (Nat.le_of_lt above), bodyStream, pullOpen,
      beq_self_eq_true, Nat.zero_add, Nat.add_sub_cancel, Nat.sub_self]
    rfl
  have incoming : handleIncomingRequest sampleCtx
      (prefacedConn (xs ++ [{ bodyStream sid with state := .recvHeaders, reqBodyState := .none }]) sid
        (pullOpen (n + 1)) true) sid [1] = ⟨prefacedConn (xs ++ [bodyStream sid]) sid (pullOpen (n + 1)) true, 0, none⟩ := by
    have post : ("POST" == "CONNECT") = false := by decide
    have complete : (HeaderExists.mk true true true true).complete false = true := rfl
    have advance : ReqBodyState.none < .openBeforeFirstFrame := by decide
    simp only [handleIncomingRequest, Conn.check, Conn.stream, Conn.getStream, prefacedConn, findLast,
      Option.getD_some, bodyStream, beq_self_eq_true, if_true, sampleCtx, sampleHpack, post, complete,
      Bool.not_true, Bool.false_eq_true, if_false, pullOpen, limit, ne_eq, not_true_eq_false, Conn.modifyStream,
      mapLast, Option.isNone_some, streamSetState, Conn.setStreamState, setReqBodyState, advance, decide_True,
      Stream.fresh]
  have handled : handleHeadersFrame sampleCtx (prefacedConn xs m (pullOpen n) b) sid false true false
      (.ok ⟨defaultPriority, [1]⟩) (headersInput sid false true [1] lt (by omega)) =
        ⟨prefacedConn (xs ++ [bodyStream sid]) sid (pullOpen (n + 1)) true, 0, none⟩ := by
    have even : ¬ sid % 2 = 0 := by omega
    have notLe : ¬ sid ≤ (prefacedConn xs m (pullOpen n) b).pullMaxOpen := Nat.not_le.2 above
    have dep : ¬ sid = defaultPriority.dependency := nonzero
    have getNone : (prefacedConn xs m (pullOpen n) b).getStream sid = none := findNone
    simp only [handleHeadersFrame, even, notLe, dep, getNone, if_false, Bool.not_false, if_true]
    rw [prepared, incoming]
  have parsed : parseInput sampleCtx (prefacedConn xs m (pullOpen n) b) [headersInput sid false true [1] lt (by omega)] =
      (prefacedConn (xs ++ [bodyStream sid]) sid (pullOpen (n + 1)) true, 0) := by
    have opened : (prefacedConn xs m (pullOpen n) b).state < .isClosing := (by decide : ConnState.opened < .isClosing)
    have input : readExpect sampleCtx (prefacedConn xs m (pullOpen n) b) (headersInput sid false true [1] lt (by omega)) =
        handleHeadersFrame sampleCtx (prefacedConn xs m (pullOpen n) b) sid false true false
          (.ok ⟨defaultPriority, [1]⟩) (headersInput sid false true [1] lt (by omega)) := rfl
    rw [parseInput, if_pos opened, input, handled]
    rfl
  show onRead sampleCtx (prefacedConn xs m (pullOpen n) b) [headersInput sid false true [1] lt (by omega)] = _
  unfold onRead
  rw [parsed]
  rfl

/-- The streams 1, 3, ..., `2k - 1`, each opened by HEADERS with a request body. -/
def bodyStreams (k : Nat) : List Stream := (List.range k).map fun i => bodyStream (2 * i + 1)

/-- HEADERS with a request body on stream `2k + 1`, in a read of its own. -/
def openBody (k : Nat) : Event :=
  if lt : 2 * k + 1 < 0x80000000 then .read [headersInput (2 * k + 1) false true [1] lt (by omega)] else .read []

/-- HEADERS with request bodies on the streams 1, 3, ..., `2k - 1`, in order. -/
def openings (k : Nat) : List Event := (List.range k).map openBody

/-- Up to the limit, each HEADERS frame of `openings` opens its stream. -/
theorem run_openings (k : Nat) (room : k ≤ hostMaxConcurrentStreams) :
    run sampleCtx (prefacedConn [] 0 (pullOpen 0) false) (openings k) =
      prefacedConn (bodyStreams k) (2 * k - 1) (pullOpen k) (k != 0) := by
  induction k with
  | zero => rfl
  | succ k ih =>
    have below : k < hostMaxConcurrentStreams := room
    have lt : 2 * k + 1 < 0x80000000 := by
      simp only [hostMaxConcurrentStreams] at below
      omega
    have fresh : ∀ s ∈ bodyStreams k, s.streamId ≠ 2 * k + 1 := by
      simp only [bodyStreams, List.mem_map, List.mem_range]
      rintro s ⟨i, lt, rfl⟩
      exact fun same => by simp only [bodyStream, Stream.fresh] at same; omega
    rw [openings, List.range_succ, List.map_append, List.map_singleton, ← openings, run_append,
      ih (Nat.le_of_lt below)]
    rw [show run sampleCtx _ [openBody k] = step sampleCtx _ (openBody k) from rfl, openBody, dif_pos lt,
      step_opens_body _ _ _ _ _ lt (by omega) fresh (by omega) below]
    simp only [bodyStreams, List.range_succ, List.map_append, List.map_singleton]
    congr 1

/-- HEADERS on stream 201 without END_HEADERS, and a CONTINUATION on stream 1 that ends the
    block. -/
def limitTail : List Event :=
  [.read [headersInput 201 true false [0] (by decide) (by decide)], .read [continuationInput 1 true [] (by decide)]]

/-- The client preface, requests with bodies on the streams 1 to 199, then `limitTail`. -/
def overLimitRun : List Event := .read [prefaceInput] :: (openings 100 ++ limitTail)

/-- The connection after `overLimitRun`. -/
def overLimitConn : Conn := run sampleCtx accept overLimitRun

theorem overLimitConn_eq :
    overLimitConn = run sampleCtx (prefacedConn (bodyStreams 100) 199 (pullOpen 100) true) limitTail := by
  rw [overLimitConn, overLimitRun, run_cons, accept_preface, run_append, run_openings 100 (Nat.le_refl _)]
  rfl

/-- 100 requests with bodies fill the limit; HEADERS on stream 201 without END_HEADERS opens a
    101st stream and a header block, and a CONTINUATION on stream 1 ends the block as stream 1's
    trailers. Between frames, with no block pending, 101 streams are open, more than the limit
    the server preface advertises; stream 201 still waits for its headers, and no REFUSED_STREAM
    was sent for it. -/
theorem concurrent_streams_exceed_limit :
    Reachable sampleCtx overLimitConn ∧
      OutFrame.settings [(settingsMaxConcurrentStreams, hostMaxConcurrentStreams)] ∈ serverPreface ∧
      overLimitConn.state = .opened ∧ overLimitConn.readExpect = .default ∧
      hostMaxConcurrentStreams < overLimitConn.numStreams.pull.opened ∧
      (overLimitConn.stream 201).state = .recvHeaders ∧
      ∀ t ∈ overLimitConn.log, t ≠ .frame (.rstStream 201 errorRefusedStream) := by
  refine ⟨Reachable.run _ .accept, by decide, ?_⟩
  rw [overLimitConn_eq]
  decide

end H2oHttp2
