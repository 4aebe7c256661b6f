import H2oHttp2.TableRequests

/-!
# The stream table under request bodies

The steps of a request body keep `TableOk`: `write_streaming_body`, the chunk handler
`handle_request_body_chunk` with the buffering and dispatch that follow its size guards, and
the application's `proceed_req` and `write_req.cb`. Each is a `TableKept` lemma under what its
caller establishes: a chunk arrives on a body that is open, the first one on a request not yet
processed and not waiting, and `proceed_req` is called on a stream that asked for more.
-/
namespace H2oHttp2

section Reads

variable (c : Conn) (id : Nat)

/-- The state `set_req_body_state` leaves a stream of the map in. -/
theorem setReqBodyState_stream_reqBodyState (new : ReqBodyState) (present : (c.getStream id).isSome) :
    ((setReqBodyState c id new).stream id).reqBodyState = new := by
  obtain ⟨t, found⟩ := Option.isSome_iff_exists.1 present
  rw [Conn.stream_of_found (show (setReqBodyState c id new).getStream id = some { t with reqBodyState := new } by
    rw [setReqBodyState_getStream, found]; rfl)]

/-- A stream with an opened request body is in the map. -/
theorem Conn.present_of_reqBodyState {c : Conn} {id : Nat} (h : (c.stream id).reqBodyState ≠ .none) :
    (c.getStream id).isSome := by
  cases found : c.getStream id with
  | none => rw [Conn.stream, found] at h; exact absurd rfl h
  | some _ => rfl

end Reads

section Body

variable {A : Prop} {c : Conn} {id : Nat} (ctx : Ctx)

/-- `write_streaming_body`: the body is handed to `write_req.cb`, closed with the last chunk, and
    the stream reset on an error or closed once both sides are done. -/
theorem writeStreamingBody_kept (writeOk : Bool) : TableKept A c (writeStreamingBody ctx c id writeOk) := by
  unfold writeStreamingBody
  lift_lets
  intro s c1
  split
  next c2 isEndStream heq =>
  have k2 : TableKept A c c2 := by
    split at heq <;> obtain ⟨rfl, -⟩ := Prod.mk.inj heq
    case h_3 closing =>
      refine (TableKept.check _ _).trans (closeReqBody_kept fun _ _ => ?_)
      rw [Conn.check_stream]
      exact closing ▸ nofun
    all_goals exact (TableKept.check _ _).trans (TableKept.check _ _)
  lift_lets
  intro c3
  have k3 : TableKept A c2 c3 := (entityFromBuffer_same c2 id).kept.trans (TableKept.modifyStream_view fun _ => rfl)
  exact k2.trans (k3.trans (TableKept.ite (fun _ => (streamSendError_same c3 _ _).kept.trans (streamReset_kept ctx))
    fun _ => TableKept.ite (fun _ => streamClose_kept ctx) fun _ => TableKept.refl))

/-- The steps of `handle_request_body_chunk` after its guards, on a stream whose body is open;
    the first chunk comes on a request neither processed nor waiting. A request not streamed
    is dispatched with its last chunk unless it already waits with `proceed_req` set. -/
theorem bufferRequestBodyChunk_kept (payload : List UInt8) (isEndStream isFirst : Bool) (answers : Input)
    (h : A → TableOk c → (c.stream id).reqBodyState = .opened ∧
      (isFirst = true → (c.stream id).processCalled = false ∧ id ∉ c.pendingReqs)) :
    TableKept A c (bufferRequestBodyChunk ctx c id payload isEndStream isFirst answers) := by
  refine TableKept.assume ?_
  unfold bufferRequestBodyChunk
  lift_lets
  intro reqQueued c3 c2 c1 c4 s c5 c6
  have facts : A ∧ TableOk c → ∃ t, c.getStream id = some t ∧ t.reqBodyState = .opened ∧ .recvHeaders < t.state ∧
      (isFirst = true → t.processCalled = false ∧ id ∉ c.pendingReqs) ∧ (t.proceedReq = false → id ∉ c.pendingReqs) :=
    fun ⟨a, ok⟩ => by
      obtain ⟨body, first⟩ := h a ok
      obtain ⟨t, found⟩ := Option.isSome_iff_exists.1 (Conn.present_of_reqBodyState (by rw [body]; nofun))
      rw [Conn.stream_of_found found] at body first
      exact ⟨t, found, body, (ok.core.sound_of_found found).bodyStarted (by rw [body]; nofun), first,
        fun unqueued memI => absurd ((ok.core.waiting found memI).streamedIfOpen body) (by rw [unqueued]; nofun)⟩
  have at2 : A ∧ TableOk c → (c2.getStream id).isSome ∧ .recvHeaders < (c2.stream id).state ∧
      (c2.stream id).reqBodyState = .opened := fun x => by
    obtain ⟨t, found, body, ready, -⟩ := facts x
    have found3 : c3.getStream id = some { t with state := .reqPending } := by
      rw [streamSetState_getStream _ _ (.inr (.inl rfl)), found]
      rfl
    simp only [c2]
    split
    · split
      · have found' : (streamSetState c3 id .sendHeaders).getStream id = some { t with state := .sendHeaders } := by
          rw [streamSetState_getStream _ _ (.inr (.inr (.inl rfl))), found3]
          rfl
        rw [Conn.stream_of_found found', found']
        exact ⟨rfl, (by decide : StreamState.recvHeaders < .sendHeaders), body⟩
      · rw [Conn.stream_of_found found3, found3]
        exact ⟨rfl, (by decide : StreamState.recvHeaders < .reqPending), body⟩
    · rw [Conn.stream_of_found found, found]
      exact ⟨rfl, ready, body⟩
  have k1 : TableKept (A ∧ TableOk c) c c1 := by
    have k2 : TableKept (A ∧ TableOk c) c c2 := by
      refine TableKept.ite (fun early => (streamSetState_quiet_kept (.inr (.inl rfl)) fun x _ => ?_).trans
        (TableKept.ite (fun _ => streamSetState_sendHeaders_kept) fun _ => TableKept.refl)) fun _ => TableKept.refl
      obtain ⟨t, found, -, ready, -⟩ := facts x
      rw [Conn.stream_of_found found] at early ⊢
      revert ready early
      cases t.state <;> decide
    refine TableKept.ite (fun _ => k2.trans (TableKept.ite (fun _ => setReqBodyState_kept fun x _ => ?_)
      fun _ => closeReqBody_kept fun x _ => ?_)) fun _ => TableKept.refl
    · exact ⟨(at2 x).2.1, nofun, fun _ => ⟨nofun, nofun⟩⟩
    · rw [(at2 x).2.2]
      nofun
  have pending1 : c1.pendingReqs = c.pendingReqs := by
    simp only [c1, c2, c3]
    split_ifs <;> simp
  have same4 : TableSame c1 c4 := TableSame.modifyStream_view c1 id fun _ => rfl
  have same5 : TableSame c4 c5 := entityFromBuffer_same c4 id
  have same6 : TableSame c4 c6 := by
    simp only [c6]
    split
    · exact same5.trans (updateStreamInputWindow_same c5 id _)
    · exact same5
  refine k1.trans (same4.kept.trans ?_)
  split
  · exact TableKept.ite (fun _ => TableKept.ite (fun _ => writeStreamingBody_kept ctx _) fun _ => TableKept.refl)
      fun _ => same5.kept
  next unstreamed =>
  refine TableKept.ite (fun canStream => same5.kept.trans ((TableKept.modifyStream (by intro; rfl) ?_).trans
    (executeOrEnqueueRequestCore_kept ctx ?_))) fun _ => same6.kept.trans
    (TableKept.ite (fun closing => executeOrEnqueueRequest_kept ctx ?_) fun _ => TableKept.refl)
  -- the first chunk of a request that may stream waits with `proceed_req` set
  · rintro x ok5 t5 found5
    obtain ⟨⟨first, notEnd⟩, -⟩ := by simpa only [Bool.and_eq_true, Bool.not_eq_true'] using canStream
    obtain ⟨t, found, body, -, unprocessed, -⟩ := facts x
    have c1c : c1 = c := by simp only [c1, notEnd, Bool.false_eq_true, if_false]
    have view : t5.view = t.view := by
      rw [← Conn.stream_of_found found5, ← Conn.stream_of_found found, same5.stream_view, same4.stream_view, c1c]
    have sound := ok5.core.sound_of_found found5
    have sid := (Conn.mem_of_getStream found5).2
    refine ⟨rfl, rfl, rfl, ⟨sound.slot, sound.bodyStarted, sound.unprocessed, fun _ => ?_, sound.activeHasData,
      sound.processedStarted⟩, fun memI => ?_, fun act => sid ▸ ok5.core.not_proceeding found5 act⟩
    · rw [show t5.reqBodyState = t.reqBodyState from congrArg StreamView.reqBodyState view, body]
      nofun
    · rw [sid, same5.pendingReqs, same4.pendingReqs, c1c] at memI
      exact absurd memI (unprocessed first).2
  · rintro x -
    obtain ⟨⟨first, notEnd⟩, -⟩ := by simpa only [Bool.and_eq_true, Bool.not_eq_true'] using canStream
    obtain ⟨t, found, body, ready, unprocessed, -⟩ := facts x
    have c1c : c1 = c := by simp only [c1, notEnd, Bool.false_eq_true, if_false]
    have present : (c5.getStream id).isSome := by
      rw [same5.getStream_isSome, same4.getStream_isSome, c1c, found]
      rfl
    obtain ⟨t5, found5⟩ := Option.isSome_iff_exists.1 present
    have view : t5.view = t.view := by
      rw [← Conn.stream_of_found found5, ← Conn.stream_of_found found, same5.stream_view, same4.stream_view, c1c]
    have queued : (c5.modifyStream id fun s => { s with proceedReq := true }).getStream id =
        (c5.getStream id).map fun s => { s with proceedReq := true } :=
      Conn.getStream_modifyStream_self c5 id (by intro; rfl)
    rw [found5] at queued
    refine ⟨_, queued, ⟨?_, ?_, fun _ => rfl, ?_⟩, ?_⟩
    · show .recvHeaders < t5.state
      rw [show t5.state = t.state from congrArg StreamView.state view]
      exact ready
    · rw [show t5.reqBodyState = t.reqBodyState from congrArg StreamView.reqBodyState view, body]
      nofun
    · rw [show t5.processCalled = t.processCalled from congrArg StreamView.processCalled view]
      exact (unprocessed first).1
    · show id ∉ c5.pendingReqs
      rw [same5.pendingReqs, same4.pendingReqs, c1c]
      exact (unprocessed first).2
  -- the last chunk of a request not streamed dispatches it, unless it already waits
  · rintro x -
    obtain ⟨isEnd, unqueued⟩ := by simpa only [Bool.and_eq_true, Bool.not_eq_true'] using closing
    obtain ⟨t, found, -, -, -, notQueued⟩ := facts x
    obtain ⟨present2, -, -⟩ := at2 x
    have closed : (c1.stream id).reqBodyState = .closeQueued ∨ (c1.stream id).reqBodyState = .closeDelivered := by
      simp only [c1]
      rw [if_pos isEnd]
      split
      · exact .inl (setReqBodyState_stream_reqBodyState _ _ _ present2)
      · exact .inr (setReqBodyState_stream_reqBodyState _ _ _ (by simpa using present2))
    have body : (c6.stream id).reqBodyState = (c1.stream id).reqBodyState :=
      congrArg StreamView.reqBodyState ((same6.stream_view id).trans (same4.stream_view id))
    rw [body]
    refine ⟨by rcases closed with e | e <;> rw [e] <;> nofun, by rcases closed with e | e <;> rw [e] <;> nofun,
      .inr ((congrArg StreamView.streamed (same6.stream_view id)).trans (Bool.eq_false_iff.2 unstreamed)), ?_⟩
    rw [same6.pendingReqs, same4.pendingReqs, pending1]
    exact notQueued (by rw [← Conn.stream_of_found found]; exact unqueued)

/-- `handle_request_body_chunk` on any stream: the first chunk opens the body, the size guards
    reset the stream, and a chunk on a body that is not open fails an assertion. -/
theorem handleRequestBodyChunk_kept (payload : List UInt8) (isEndStream : Bool) (answers : Input) :
    TableKept A c (handleRequestBodyChunk ctx c id payload isEndStream answers) := by
  unfold handleRequestBodyChunk
  lift_lets
  intro state isFirst c1 c2 s c3 r
  have k1 : TableKept A c c1 ∧ (A → TableOk c → c1.failed = c.failed → (c1.stream id).reqBodyState = .opened ∧
      (isFirst = true → (c1.stream id).processCalled = false ∧ id ∉ c1.pendingReqs)) := by
    simp only [c1, state]
    split
    · next first =>
      have open_ : ∀ {B : Prop}, B ∧ TableOk c → ∃ t, c.getStream id = some t ∧ .recvHeaders < t.state ∧
          t.processCalled = false ∧ id ∉ c.pendingReqs := fun ⟨_, ok⟩ => by
        obtain ⟨t, found⟩ := Option.isSome_iff_exists.1 (Conn.present_of_reqBodyState (by rw [first]; nofun))
        rw [Conn.stream_of_found found] at first
        have sound := ok.core.sound_of_found found
        exact ⟨t, found, sound.bodyStarted (by rw [first]; nofun), sound.unprocessed (.inr first),
          fun memI => (ok.core.waiting found memI).notFirstFrame first⟩
      refine ⟨setReqBodyState_kept fun a ok => ?_, fun a ok _ => ?_⟩
      · obtain ⟨t, found, ready, -, notPending⟩ := open_ ⟨a, ok⟩
        rw [Conn.stream_of_found found]
        exact ⟨ready, nofun, fun memI => absurd memI notPending⟩
      · obtain ⟨t, found, -, unprocessed, notPending⟩ := open_ ⟨a, ok⟩
        have found1 : (setReqBodyState c id .opened).getStream id = some { t with reqBodyState := .opened } := by
          rw [setReqBodyState_getStream, found]
          rfl
        rw [Conn.stream_of_found found1, setReqBodyState_pendingReqs]
        exact ⟨rfl, fun _ => ⟨unprocessed, notPending⟩⟩
    · next body => exact ⟨TableKept.refl, fun _ _ _ => ⟨body, fun first => by simp [isFirst, state, body] at first⟩⟩
    · exact ⟨TableKept.check _ _, fun _ _ same => absurd (Conn.check_passed same) nofun⟩
  have same2 : TableSame c1 c2 := TableSame.modifyStream_view c1 id fun _ => rfl
  refine k1.1.seq k1.2 (same2.kept.trans ?_)
  refine TableKept.ite (fun _ => (streamSendError_same c2 _ _).kept.trans (streamReset_kept ctx)) fun _ =>
    TableKept.ite (fun _ => (streamSendError_same c2 _ _).kept.trans (streamReset_kept ctx)) fun _ => ?_
  have reads : ∀ {α : Type} (g : Stream → α), (∀ s, g { s with blockedByServer := true } = g s) →
      g (c3.stream id) = g (c2.stream id) := fun g hg => by
    simp only [c3]
    split
    · exact Conn.stream_of_map id (streamSetBlockedByServer_getStream c2 id true) hg
    · rfl
  have view := same2.stream_view id
  have pending3 : c3.pendingReqs = c1.pendingReqs := by
    simp only [c3]
    split <;> simp [c2]
  refine (TableKept.ite (fun _ => streamSetBlockedByServer_true_kept ?_) fun _ => TableKept.refl).trans
    (TableKept.ite (fun _ => resetStreamIfDisregarded_kept ctx) fun _ => bufferRequestBodyChunk_kept ctx _ _ _ _ ?_)
  · rintro ⟨-, body, -⟩ -
    rw [same2.getStream_isSome]
    exact Conn.present_of_reqBodyState (by rw [body]; nofun)
  · rintro ⟨-, body, first⟩ -
    show (c3.stream id).reqBodyState = .opened ∧ (isFirst = true → (c3.stream id).processCalled = false ∧ id ∉ c3.pendingReqs)
    rw [reads Stream.reqBodyState fun _ => rfl, reads Stream.processCalled fun _ => rfl, pending3,
      show (c2.stream id).reqBodyState = (c1.stream id).reqBodyState from congrArg StreamView.reqBodyState view,
      show (c2.stream id).processCalled = (c1.stream id).processCalled from congrArg StreamView.processCalled view]
    exact ⟨body, first⟩

end Body

end H2oHttp2
