import H2oHttp2.Wire

/-!
# The frame handlers keep the invariant

Every handler of `parse_input` keeps `WireOrdered`: the request-body path
(`handleRequestBodyChunk_ordered`, `proceedRequest_ordered`), the header-block path
(`handleIncomingRequest_ordered`, `expectContinuationOfHeaders_ordered`,
`handleHeadersFrame_ordered`, which needs the 31-bit stream id the decoder guarantees), the
other frames, and `parse_input` itself (`parseInput_ordered`). A handler returns a `Handled`;
`WireOrdered.handled` and `WireOrdered.ite_conn` follow its branches.
-/
namespace H2oHttp2

variable (ctx : Ctx) {c : Conn} (id : Nat)

theorem WireOrdered.handled {a : Conn} {r : Int} {d : Option String} (h : WireOrdered a) :
    WireOrdered (Handled.mk a r d).conn := h

theorem WireOrdered.ite_conn {p : Prop} [Decidable p] {a b : Handled} (ha : WireOrdered a.conn)
    (hb : WireOrdered b.conn) : WireOrdered (if p then a else b).conn := by
  split
  · exact ha
  · exact hb

/-! ### Request bodies -/

theorem writeStreamingBody_ordered (h : WireOrdered c) (writeOk : Bool) :
    WireOrdered (writeStreamingBody ctx c id writeOk) := by
  unfold writeStreamingBody
  lift_lets
  intro s c1
  have h1 : WireOrdered c1 := Conn.check_ordered _ (by rfl) h
  split
  rename_i c2 isEndStream pair
  have h2 : WireOrdered c2 := by
    split at pair <;> obtain ⟨rfl, -⟩ := Prod.mk.inj pair
    case h_3 => exact setReqBodyState_ordered id (WireOrdered.of_wire (Conn.modifyStream_wire c1 _ _) h1) _
    all_goals exact Conn.check_ordered _ (by rfl) h1
  lift_lets
  intro c3
  have h3 : WireOrdered c3 :=
    WireOrdered.of_wire (Conn.modifyStream_wire _ _ _) (WireOrdered.of_wire (Conn.entityFromBuffer_wire c2 id) h2)
  exact .ite (streamReset_ordered ctx id (streamSendError_ordered h3 _ _)) (.ite (streamClose_ordered ctx id h3) h3)

theorem bufferRequestBodyChunk_ordered (h : WireOrdered c) (payload : List UInt8) (isEndStream isFirst : Bool)
    (answers : Input) : WireOrdered (bufferRequestBodyChunk ctx c id payload isEndStream isFirst answers) := by
  unfold bufferRequestBodyChunk
  lift_lets
  intro reqQueued c3 c2 c1 c4 s c5 c6
  have h3 : WireOrdered c3 := streamSetState_ordered id h _
  have h2 : WireOrdered c2 := .ite (.ite (streamSetState_ordered id h3 _) h3) h
  have h1 : WireOrdered c1 :=
    .ite (.ite (setReqBodyState_ordered id h2 _)
      (setReqBodyState_ordered id (WireOrdered.of_wire (Conn.modifyStream_wire c2 _ _) h2) _)) h
  have h4 : WireOrdered c4 := WireOrdered.of_wire (Conn.modifyStream_wire c1 _ _) h1
  have h5 : WireOrdered c5 := WireOrdered.of_wire (Conn.entityFromBuffer_wire c4 id) h4
  have h6 : WireOrdered c6 := .ite (updateStreamInputWindow_ordered id h5 _) h5
  exact .ite (.ite (.ite (writeStreamingBody_ordered ctx id h4 _) h4) h5)
    (.ite (executeOrEnqueueRequestCore_ordered ctx id (WireOrdered.of_wire (Conn.modifyStream_wire c5 _ _) h5))
      (.ite (executeOrEnqueueRequest_ordered ctx id h6) h6))

theorem handleRequestBodyChunk_ordered (h : WireOrdered c) (payload : List UInt8) (isEndStream : Bool)
    (answers : Input) : WireOrdered (handleRequestBodyChunk ctx c id payload isEndStream answers) := by
  unfold handleRequestBodyChunk
  lift_lets
  intro state isFirst c1 c2 s c3 r
  have h1 : WireOrdered c1 := by
    dsimp only [c1, state]
    split
    · exact setReqBodyState_ordered id h _
    · exact h
    · exact Conn.check_ordered _ (by rfl) h
  have h2 : WireOrdered c2 := WireOrdered.of_wire (Conn.modifyStream_wire c1 _ _) h1
  have h3 : WireOrdered c3 := .ite (streamSetBlockedByServer_ordered id h2 _) h2
  exact .ite (streamReset_ordered ctx id (streamSendError_ordered h2 _ _))
    (.ite (streamReset_ordered ctx id (streamSendError_ordered h2 _ _))
      (.ite (resetStreamIfDisregarded_ordered ctx id h3) (bufferRequestBodyChunk_ordered ctx id h3 _ _ _ _)))

theorem proceedRequest_ordered (h : WireOrdered c) (errstr : Option String) (writeOk : Bool) :
    WireOrdered (proceedRequest ctx c id errstr writeOk) := by
  unfold proceedRequest
  lift_lets
  intro c1 written c2 c3 c4 _ c5 c3' c4'
  have h1 : WireOrdered c1 := Conn.check_ordered _ (by rfl) h
  have h2 : WireOrdered c2 := WireOrdered.of_wire (Conn.modifyStream_wire c1 _ _) h1
  have h3 : WireOrdered c3 := setReqBodyState_ordered id (WireOrdered.of_wire (Conn.modifyStream_wire c2 _ _) h2) _
  have h4 : WireOrdered c4 := WireOrdered.of_wire (schedulerSetActive_wire _ id _) (streamSendError_ordered h3 _ _)
  have h5 : WireOrdered c5 := .ite h4 (WireOrdered.of_wire (Conn.with_streamsToProceed_wire c4 _) h4)
  have h3' : WireOrdered c3' := updateStreamInputWindow_ordered id (Conn.check_ordered _ (by rfl) h2) _
  have h4' : WireOrdered c4' := .ite (updateIdleTimeout_ordered (streamSetBlockedByServer_ordered id h3' _)) h3'
  split
  · exact .ite (streamReset_ordered ctx id h5) h3
  · split
    · exact .ite (writeStreamingBody_ordered ctx id h4' _) h4'
    · exact writeStreamingBody_ordered ctx id (Conn.check_ordered _ (by rfl) h2) _
    · exact Conn.check_ordered _ (by rfl) h2

/-! ### Header blocks -/

variable (c) in
@[simp] theorem setPriority_wire (priority : Priority) : (setPriority c id priority).wire = c.wire := by
  unfold setPriority
  split
  rfl

theorem sendInvalidRequestError_ordered (h : WireOrdered c) (errDesc : String) :
    WireOrdered (sendInvalidRequestError c id errDesc) :=
  h2oSendError400_ordered id (streamSetState_ordered id (streamSetState_ordered id h _) _) _

theorem handleIncomingRequest_ordered (h : WireOrdered c) (src : List UInt8) :
    WireOrdered (handleIncomingRequest ctx c id src).conn := by
  unfold handleIncomingRequest
  lift_lets
  intro c1 decoded p c2 c3 isConnect c4
  have h2 : WireOrdered c2 := WireOrdered.of_wire (Conn.with_inputHeaderTable_wire c1 _) (Conn.check_ordered _ (by rfl) h)
  have h3 : WireOrdered c3 := WireOrdered.of_wire (Conn.modifyStream_wire c2 _ _) h2
  have h4 : WireOrdered c4 := WireOrdered.of_wire (Conn.modifyStream_wire c3 _ _) h3
  split
  · exact h2
  · exact .ite_conn (.handled (streamReset_ordered ctx id (streamSendError_ordered h3 _ _)))
      (.ite_conn (.handled (streamReset_ordered ctx id (streamSendError_ordered h3 _ _)))
        (.ite_conn (.handled (sendInvalidRequestError_ordered id (Conn.check_ordered _ (by rfl) h3) _))
          (.ite_conn
            (.ite_conn (.handled (sendInvalidRequestError_ordered id h3 _))
              (.handled (processRequest_ordered ctx id (setReqBodyState_ordered id (streamSetState_ordered id h4 _) _))))
            (.ite_conn (.handled (executeOrEnqueueRequest_ordered ctx id h3))
              (.handled (setReqBodyState_ordered id (streamSetState_ordered id h3 _) _))))))

theorem handleTrailingHeaders_ordered (h : WireOrdered c) (src : List UInt8) (answers : Input) :
    WireOrdered (handleTrailingHeaders ctx c id src answers).conn := by
  unfold handleTrailingHeaders
  lift_lets
  intro decoded p c1
  have h1 : WireOrdered c1 := WireOrdered.of_wire (Conn.with_inputHeaderTable_wire c _) h
  split
  · exact h1
  · exact handleRequestBodyChunk_ordered ctx id h1 _ _ _

theorem expectContinuationOfHeaders_ordered (h : WireOrdered c) (input : Input) :
    WireOrdered (expectContinuationOfHeaders ctx c input).conn := by
  dsimp only [expectContinuationOfHeaders]
  split
  · exact h
  · exact h
  · rename_i sid endHeaders fragment _ _ _
    have h2 := WireOrdered.of_wire (Conn.with_readExpect_wire _ .default)
      (WireOrdered.of_wire (Conn.with_headersUnparsed_wire c (some (c.headersUnparsed.getD [] ++ fragment))) h)
    split
    · exact h
    · split
      · exact h
      · split
        · split
          · exact WireOrdered.of_wire (Conn.with_headersUnparsed_wire _ _)
              (.ite_conn (handleIncomingRequest_ordered ctx sid h2 _) (handleTrailingHeaders_ordered ctx sid h2 _ _))
          · exact WireOrdered.of_wire (Conn.with_headersUnparsed_wire c _) h
        · exact streamReset_ordered ctx sid (streamSendError_ordered h _ _)
  · exact h

theorem prepareForContinuation_ordered (h : WireOrdered c) (fragment : List UInt8) :
    WireOrdered (prepareForContinuation c fragment).conn :=
  WireOrdered.of_wire rfl h

theorem handleHeadersFrame_ordered (h : WireOrdered c) {sid : Nat} (bound : sid < 0x80000000)
    (endStream endHeaders hasPriority : Bool) (payload : Except DecodeError HeadersPayload) (answers : Input) :
    WireOrdered (handleHeadersFrame ctx c sid endStream endHeaders hasPriority payload answers).conn := by
  unfold handleHeadersFrame
  split
  · exact h
  · refine .ite_conn (.handled h) (.ite_conn ?_ (.ite_conn (.handled h) ?_))
    · split
      · exact h
      · exact .ite_conn (.handled h) (.ite_conn (.handled h) (.ite_conn (.handled h)
          (.ite_conn (prepareForContinuation_ordered h _) (handleTrailingHeaders_ordered ctx sid h _ _))))
    · lift_lets
      intro c1 c2 c3
      have h1 : WireOrdered c1 := by
        dsimp only [c1]
        split
        · exact .ite (WireOrdered.of_wire (Conn.modifyStream_wire _ _ _) (WireOrdered.of_wire (setPriority_wire c sid _) h)) h
        · exact WireOrdered.of_wire (setPriority_wire _ sid _)
            (streamOpen_ordered sid (WireOrdered.of_wire (Conn.with_receivedAnyRequest_wire c _) h) _)
      have h2 : WireOrdered c2 := streamPrepareForRequest_ordered sid h1 bound
      have h3 : WireOrdered c3 := .ite (WireOrdered.of_wire (Conn.modifyStream_wire c2 _ _) h2) h2
      exact .ite_conn (handleIncomingRequest_ordered ctx sid h3 _) (prepareForContinuation_ordered h3 _)

theorem handlePriorityFrame_ordered (h : WireOrdered c) (sid : Nat) (payload : Except DecodeError Priority) :
    WireOrdered (handlePriorityFrame ctx c sid payload).conn := by
  unfold handlePriorityFrame
  split
  · exact h
  · refine .ite_conn (.handled h) ?_
    split
    · lift_lets
      intro c1
      have h1 : WireOrdered c1 := WireOrdered.of_wire (Conn.modifyStream_wire c sid _) h
      exact .handled (.ite (WireOrdered.of_wire (setPriority_wire _ sid _) h1) h1)
    · exact .ite_conn (.handled h) (.ite_conn (.handled h)
        (.handled (WireOrdered.of_wire (setPriority_wire _ sid _) (streamOpen_ordered sid h _))))

/-! ### The other frames -/

theorem handleDataFrame_ordered (h : WireOrdered c) (sid : Nat) (endStream : Bool)
    (payload : Except DecodeError DataPayload) (answers : Input) :
    WireOrdered (handleDataFrame ctx c sid endStream payload answers).conn := by
  unfold handleDataFrame
  split
  · exact h
  · lift_lets
    intro c1 c2 c3 c4 c5
    have h1 : WireOrdered c1 := WireOrdered.of_wire (Conn.with_inputWindow_wire c _) h
    have h2 : WireOrdered c2 := .ite (sendWindowUpdate_ordered h1 _ _) h1
    have h3 : WireOrdered c3 := WireOrdered.of_wire (Conn.modifyStream_wire c2 _ _) h2
    have h4 : WireOrdered c4 := .ite (updateStreamInputWindow_ordered sid h3 _) h3
    have h5 : WireOrdered c5 := .ite (handleRequestBodyChunk_ordered ctx sid h4 _ _ _) h4
    split
    · exact .ite_conn (.handled (streamSendError_ordered h2 _ _)) (.handled h2)
    · exact .ite_conn (.handled (streamReset_ordered ctx sid (streamSendError_ordered h2 _ _))) (.handled h5)

theorem resumeSend_ordered (h : WireOrdered c) : WireOrdered (resumeSend c) :=
  .ite h (requestGatheredWrite_ordered h)

theorem updateStreamOutputWindows_ordered (h : WireOrdered c) (ids : List Nat) (delta : Int) :
    WireOrdered (updateStreamOutputWindows c ids delta) := by
  induction ids generalizing c with
  | nil => exact h
  | cons next rest ih => exact ih (updateStreamOutputWindow_ordered next h delta)

theorem handleSettingsFrame_ordered (h : WireOrdered c) (sid : Nat) (ack : Bool) (params : List (Nat × Nat))
    (trailing : Nat) : WireOrdered (handleSettingsFrame c sid ack params trailing).conn := by
  unfold handleSettingsFrame
  refine .ite_conn (.handled h) (.ite_conn (.ite_conn (.handled h) (.handled h)) ?_)
  lift_lets
  intro prev updated settings c1 c2 delta
  have h1 : WireOrdered c1 := WireOrdered.of_wire (Conn.with_peerSettings_wire c _) h
  have h2 : WireOrdered c2 := connRequestWrite_ordered (Conn.encode_ordered (by rfl) h1)
  exact .ite_conn (.handled h1)
    (.ite_conn (.handled (resumeSend_ordered (updateStreamOutputWindows_ordered h2 _ _))) (.handled h2))

theorem handleWindowUpdateFrame_ordered (h : WireOrdered c) (sid : Nat)
    (payload : Except (DecodeError × Bool) Nat) : WireOrdered (handleWindowUpdateFrame ctx c sid payload).conn := by
  unfold handleWindowUpdateFrame
  split
  · exact .ite_conn (.handled (streamSendError_ordered (.ite (streamReset_ordered ctx sid h) h) _ _)) (.handled h)
  · rename_i increment
    refine .ite_conn ?_ (.ite_conn (.ite_conn ?_ (.handled (resumeSend_ordered h))) (.handled h))
    · split
      · exact h
      · exact resumeSend_ordered (WireOrdered.of_wire (Conn.with_window_wire c _) h)
    · have h1 := updateStreamOutputWindow_ordered sid h increment
      exact .ite_conn (.handled (streamSendError_ordered (streamReset_ordered ctx sid h1) _ _))
        (.handled (resumeSend_ordered h1))

theorem handleGoawayFrame_ordered (h : WireOrdered c) (payload : Except DecodeError Unit) :
    WireOrdered (handleGoawayFrame c payload).conn := by
  unfold handleGoawayFrame
  split
  · exact h
  · exact WireOrdered.of_wire (Conn.with_pushMaxOpen_wire c _) h

theorem handlePingFrame_ordered (h : WireOrdered c) (ack : Bool) (payload : Except DecodeError (List UInt8)) :
    WireOrdered (handlePingFrame c ack payload).conn := by
  unfold handlePingFrame
  split
  · exact h
  · exact .ite (connRequestWrite_ordered (Conn.encode_ordered (by rfl) h)) h

theorem handleRstStreamFrame_ordered (h : WireOrdered c) (sid : Nat) (payload : Except DecodeError Unit) :
    WireOrdered (handleRstStreamFrame ctx c sid payload).conn := by
  unfold handleRstStreamFrame
  split
  · exact h
  · exact .ite_conn (.handled h) (.handled (.ite (streamReset_ordered ctx sid h) h))

/-! ### Dispatch -/

theorem expectDefault_ordered (h : WireOrdered c) (input : Input) :
    WireOrdered (expectDefault ctx c input).conn := by
  unfold expectDefault
  split
  · exact h
  · exact h
  · rename_i f lt _ _
    cases f with
    | data sid endStream payload => exact handleDataFrame_ordered ctx h sid endStream payload input
    | headers sid endStream endHeaders hasPriority payload =>
      exact handleHeadersFrame_ordered ctx h lt endStream endHeaders hasPriority payload input
    | priority sid payload => exact handlePriorityFrame_ordered ctx h sid payload
    | rstStream sid payload => exact handleRstStreamFrame_ordered ctx h sid payload
    | settings sid ack params trailing => exact handleSettingsFrame_ordered h sid ack params trailing
    | pushPromise => exact h
    | ping ack payload => exact handlePingFrame_ordered h ack payload
    | goaway payload => exact handleGoawayFrame_ordered h payload
    | windowUpdate sid payload => exact handleWindowUpdateFrame_ordered ctx h sid payload
    | continuation => exact h
    | unknown => exact h

theorem expectPreface_ordered (h : WireOrdered c) (input : Input) :
    WireOrdered (expectPreface ctx c input).conn := by
  unfold expectPreface
  split
  · lift_lets
    intro c1 c2
    have h1 : WireOrdered c1 := Conn.encode_ordered (by rfl) (Conn.encode_ordered (by rfl) h)
    have h2 : WireOrdered c2 := .ite (Conn.encode_ordered (by rfl) h1) h1
    exact WireOrdered.of_wire (Conn.with_readExpect_wire _ _) (connRequestWrite_ordered h2)
  · exact h

theorem readExpect_ordered (h : WireOrdered c) (input : Input) : WireOrdered (readExpect ctx c input).conn := by
  unfold readExpect
  split
  · exact expectPreface_ordered ctx h input
  · exact expectDefault_ordered ctx h input
  · exact expectContinuationOfHeaders_ordered ctx h input

theorem parseInput_ordered (inputs : List Input) (h : WireOrdered c) : WireOrdered (parseInput ctx c inputs).1 := by
  induction inputs generalizing c with
  | nil => exact h
  | cons input rest ih =>
    have handled := readExpect_ordered ctx h input
    unfold parseInput
    split
    · dsimp only
      split
      · exact handled
      · split
        · exact closeConnection_ordered ctx (.ite (enqueueGoaway_ordered handled _ _) handled)
        · exact ih handled
    · exact h

end H2oHttp2
