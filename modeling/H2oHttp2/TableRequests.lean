import H2oHttp2.Table
import H2oHttp2.Admission

/-!
# The stream table through requests, bodies and teardown

The `_kept` lemmas of the functions of `Requests` and `Body`. The writes, GOAWAY, the idle timer
and the receive windows touch nothing the invariant reads (`TableSame`). Dispatching a
request needs it complete and off the queue (`processRequest_kept`); the pending queue gives
that for each stream it dispatches (`runPendingPass_kept`), so running the queue keeps the
invariant whatever state it starts from. Unregistering a stream ends it, unblocks it and
takes it off both lists before it leaves the map (`connReleaseStream_kept`).
-/
namespace H2oHttp2

/-! ### Steps that leave the table alone -/

section Same

variable (c : Conn)

theorem TableSame.encode (f : OutFrame) : TableSame c (c.encode f) := .of_table rfl rfl rfl

theorem requestGatheredWrite_same : TableSame c (requestGatheredWrite c) := by
  unfold requestGatheredWrite
  lift_lets
  intro c1
  exact (TableSame.check _ _ _).trans (TableSame.ite (fun _ => .of_table rfl rfl rfl) fun _ => .refl c1)

theorem connRequestWrite_same : TableSame c (connRequestWrite c) :=
  TableSame.ite (fun _ => .refl c) fun _ => requestGatheredWrite_same c

theorem updateIdleTimeout_same : TableSame c (updateIdleTimeout c) := by
  unfold updateIdleTimeout
  refine TableSame.ite (fun _ => TableSame.check _ _ _) fun _ => TableSame.ite ?_ fun _ => TableSame.ite ?_ ?_
  all_goals exact fun _ => .of_table rfl rfl rfl

theorem sendWindowUpdate_same (streamId delta : Nat) : TableSame c (sendWindowUpdate c streamId delta) := by
  unfold sendWindowUpdate
  lift_lets
  intro c1 avail
  have k1 : TableSame c c1 :=
    ((TableSame.check _ _ _).trans (TableSame.encode _ _)).trans (connRequestWrite_same _)
  split
  · exact k1
  · refine TableSame.ite (fun _ => k1.trans ?_) fun _ => k1.trans (TableSame.modifyStream_view _ _ fun _ => rfl)
    exact .of_table rfl rfl rfl

theorem updateStreamInputWindow_same (id delta : Nat) : TableSame c (updateStreamInputWindow c id delta) := by
  unfold updateStreamInputWindow
  lift_lets
  intro c1 s
  have k1 : TableSame c c1 := TableSame.modifyStream_view _ _ fun _ => rfl
  exact TableSame.ite (fun _ => (k1.trans (sendWindowUpdate_same _ _ _)).trans
    (TableSame.modifyStream_view _ _ fun _ => rfl)) fun _ => k1

theorem streamSendError_same (streamId : Nat) (errnum : Int) : TableSame c (streamSendError c streamId errnum) :=
  (((TableSame.check _ _ _).trans (TableSame.check _ _ _)).trans (TableSame.encode _ _)).trans (connRequestWrite_same _)

theorem entityFromBuffer_same (id : Nat) : TableSame c (c.entityFromBuffer id) :=
  TableSame.modifyStream_view _ _ fun _ => rfl

end Same

/-! ### What the state functions do to their stream -/

section Streams

variable (c : Conn) (id : Nat)

theorem streamSetBlockedByServer_streams (turnOn : Bool) :
    (streamSetBlockedByServer c id turnOn).streams = (c.modifyStream id fun s => { s with blockedByServer := turnOn }).streams := by
  unfold streamSetBlockedByServer
  cases turnOn <;> exact Conn.modifyStream_streams_congr (Conn.check_streams _ _ _) _ _

/-- The targets `h2o_http2_stream_set_state` reaches without moving the stream to another slot
    change its state only. -/
theorem streamSetState_streams {new : StreamState} (ne : new ≠ .idle ∧ new ≠ .recvHeaders ∧ new ≠ .endStream) :
    (streamSetState c id new).streams = (c.setStreamState id new).streams := by
  obtain ⟨ne₁, ne₂, ne₃⟩ := ne
  cases new <;> first | exact absurd rfl ‹_› | rfl | exact Conn.modifyStream_streams_congr (Conn.check_streams _ _ _) _ _

theorem setReqBodyState_streams (new : ReqBodyState) :
    (setReqBodyState c id new).streams = (c.modifyStream id fun s => { s with reqBodyState := new }).streams := by
  unfold setReqBodyState
  cases new <;> dsimp only
  case closeDelivered => split <;> exact Conn.modifyStream_streams_congr (by simp) _ _
  all_goals exact Conn.modifyStream_streams_congr (by simp) _ _

/-- Changing the stream with one id, seen under that id. -/
theorem Conn.getStream_modifyStream_self {f : Stream → Stream} (hf : ∀ s, (f s).streamId = s.streamId) :
    (c.modifyStream id f).getStream id = (c.getStream id).map f := by
  rw [Conn.getStream_modifyStream c id hf]
  simp

theorem streamSetState_getStream {new : StreamState}
    (plain : new = .recvBody ∨ new = .reqPending ∨ new = .sendHeaders ∨ new = .sendBody ∨ new = .sendBodyIsFinal) :
    (streamSetState c id new).getStream id = (c.getStream id).map fun s => { s with state := new } := by
  have ne : new ≠ .idle ∧ new ≠ .recvHeaders ∧ new ≠ .endStream := by
    rcases plain with rfl | rfl | rfl | rfl | rfl <;> decide
  rw [Conn.getStream_congr (streamSetState_streams c id ne)]
  exact Conn.getStream_modifyStream_self c id (by intro; rfl)

theorem streamSetBlockedByServer_getStream (turnOn : Bool) :
    (streamSetBlockedByServer c id turnOn).getStream id =
      (c.getStream id).map fun s => { s with blockedByServer := turnOn } := by
  rw [Conn.getStream_congr (streamSetBlockedByServer_streams c id turnOn)]
  exact Conn.getStream_modifyStream_self c id (by intro; rfl)

theorem setReqBodyState_getStream (new : ReqBodyState) :
    (setReqBodyState c id new).getStream id = (c.getStream id).map fun s => { s with reqBodyState := new } := by
  rw [Conn.getStream_congr (setReqBodyState_streams c id new)]
  exact Conn.getStream_modifyStream_self c id (by intro; rfl)

/-- The state `h2o_http2_stream_set_state` leaves a stream of the map in, for a target that
    moves no slot. -/
theorem streamSetState_stream_state {new : StreamState}
    (plain : new = .recvBody ∨ new = .reqPending ∨ new = .sendHeaders ∨ new = .sendBody ∨ new = .sendBodyIsFinal)
    (present : (c.getStream id).isSome) : ((streamSetState c id new).stream id).state = new := by
  obtain ⟨t, found⟩ := Option.isSome_iff_exists.1 present
  rw [Conn.stream_of_found (show (streamSetState c id new).getStream id = some { t with state := new } by
    rw [streamSetState_getStream c id plain, found]; rfl)]

/-- At END_STREAM a stream is in no slot and no longer blocked. -/
theorem streamSetState_endStream_getStream :
    (streamSetState c id .endStream).getStream id =
      (c.getStream id).map fun s => { s with state := .endStream, slot := .none, blockedByServer := false } := by
  rw [streamSetState_endStream]
  lift_lets
  intro s0 c1 c3
  have same : c1.streams = c.streams := by
    simp only [c1]
    split
    · simp
    · split <;> rfl
  have cleared : c3.getStream id = (c.getStream id).map fun s => { s with state := .endStream, slot := .none } := by
    rw [Conn.getStream_modifyStream_self, Conn.mapSlot_getStream, Conn.setStreamState, Conn.getStream_modifyStream_self,
      Conn.getStream_congr same, Option.map_map]
    all_goals first | rfl | exact fun _ => rfl
  split
  · rw [streamSetBlockedByServer_getStream, cleared, Option.map_map]
    rfl
  · next unblocked =>
    rw [cleared]
    cases found : c.getStream id with
    | none => rfl
    | some s =>
      rw [show s0 = s from Conn.stream_of_found found] at unblocked
      cases s
      simp_all

/-- A read of the stream under `id` that a change found there leaves alone. -/
theorem Conn.stream_of_map {c c' : Conn} {f : Stream → Stream} (h : c'.getStream id = (c.getStream id).map f)
    {α : Type} {g : Stream → α} (hf : ∀ s, g (f s) = g s) : g (c'.stream id) = g (c.stream id) := by
  unfold Conn.stream
  rw [h]
  cases c.getStream id <;> simp [hf]

/-- Whether the stream under `id` is scheduled, through a change of it that leaves that alone. -/
theorem Conn.schedActive_of_map {c c' : Conn} {f : Stream → Stream} (h : c'.getStream id = (c.getStream id).map f)
    (hf : ∀ s, (f s).schedActive = s.schedActive) :
    (c'.getStream id).map Stream.schedActive = (c.getStream id).map Stream.schedActive := by
  rw [h, Option.map_map]
  exact congrArg (Option.map · _) (funext hf)

@[simp] theorem streamSetState_schedActive {new : StreamState}
    (plain : new = .recvBody ∨ new = .reqPending ∨ new = .sendHeaders ∨ new = .sendBody ∨ new = .sendBodyIsFinal) :
    ((streamSetState c id new).getStream id).map Stream.schedActive = (c.getStream id).map Stream.schedActive :=
  Conn.schedActive_of_map id (streamSetState_getStream c id plain) fun _ => rfl

@[simp] theorem streamSetBlockedByServer_schedActive (turnOn : Bool) :
    ((streamSetBlockedByServer c id turnOn).getStream id).map Stream.schedActive =
      (c.getStream id).map Stream.schedActive :=
  Conn.schedActive_of_map id (streamSetBlockedByServer_getStream c id turnOn) fun _ => rfl

@[simp] theorem Conn.encode_streamsToProceed (f : OutFrame) :
    (c.encode f).write.streamsToProceed = c.write.streamsToProceed := rfl

@[simp] theorem streamSetBlockedByServer_pendingReqs (turnOn : Bool) :
    (streamSetBlockedByServer c id turnOn).pendingReqs = c.pendingReqs := by
  unfold streamSetBlockedByServer
  split <;> simp [Conn.check_eq]

@[simp] theorem streamSetBlockedByServer_write (turnOn : Bool) :
    (streamSetBlockedByServer c id turnOn).write = c.write := by
  unfold streamSetBlockedByServer
  split <;> simp

@[simp] theorem streamSetState_pendingReqs (new : StreamState) : (streamSetState c id new).pendingReqs = c.pendingReqs := by
  unfold streamSetState streamUpdateOpenSlot
  dsimp only
  repeat' split
  all_goals simp [Conn.check_eq]

@[simp] theorem streamSetState_write (new : StreamState) : (streamSetState c id new).write = c.write := by
  unfold streamSetState streamUpdateOpenSlot
  dsimp only
  repeat' split
  all_goals simp

@[simp] theorem setReqBodyState_pendingReqs (new : ReqBodyState) : (setReqBodyState c id new).pendingReqs = c.pendingReqs := by
  unfold setReqBodyState
  cases new <;> dsimp only <;> (try split) <;> simp [Conn.check_eq]

@[simp] theorem setReqBodyState_pushMaxOpen (new : ReqBodyState) :
    (setReqBodyState c id new).pushMaxOpen = c.pushMaxOpen := by
  unfold setReqBodyState
  cases new <;> dsimp only <;> (try split) <;> simp [Conn.check_eq]

/-- `set_req_body_state` moves no counter the table reads. -/
theorem setReqBodyState_table (new : ReqBodyState) :
    (setReqBodyState c id new).table = (c.modifyStream id fun s => { s with reqBodyState := new }).table := by
  unfold setReqBodyState
  cases new <;> dsimp only
  case closeDelivered => split <;> simp [Conn.table, Conn.modifyStream]
  all_goals simp [Conn.table, Conn.modifyStream]

@[simp] theorem setReqBodyState_write (new : ReqBodyState) : (setReqBodyState c id new).write = c.write := by
  unfold setReqBodyState
  cases new <;> dsimp only <;> (try split) <;> simp

end Streams

/-! ### Dispatching a request -/

/-- A request `process_request` may take: its headers are in and its body is past the first
    frame or absent. -/
structure StreamView.Complete (v : StreamView) : Prop where
  ready : .recvHeaders < v.state
  notFirstFrame : v.reqBodyState ≠ .openBeforeFirstFrame

/-- A request `h2o_process_request` may be handed: complete, and streamed or answering. -/
structure StreamView.Dispatchable (v : StreamView) extends StreamView.Complete v : Prop where
  started : v.streamed = true ∨ .sendHeaders ≤ v.state

section Dispatch

variable {A : Prop} {c : Conn} {id : Nat} (ctx : Ctx)

/-- `h2o_process_request` on a stream that may be handed over and waits in no queue. -/
theorem h2oProcessRequest_kept (h : A → TableOk c → (c.stream id).view.Dispatchable ∧ id ∉ c.pendingReqs) :
    TableKept A c (h2oProcessRequest c id) :=
  TableKept.of_replace id (fun s => { s with processCalled := true }) rfl rfl rfl rfl rfl fun a ok => by
    obtain ⟨⟨ready, notFirst⟩, started⟩ := (h a ok).1
    obtain ⟨s, found, hs⟩ := Conn.found_of_ne_fresh (fun s => .recvHeaders < s.state) ready
      (by decide : ¬StreamState.recvHeaders < .idle)
    have sound := ok.core.sound_of_found found
    rw [hs] at ready notFirst started
    refine ⟨s, found, (Conn.mem_of_getStream found).2, ⟨sound.slot, sound.bodyStarted, fun early => ?_,
      sound.proceedBody, sound.activeHasData, fun _ => started⟩, fun _ _ => rfl, fun _ _ => rfl, rfl,
      fun memI => absurd memI (h a ok).2, fun act => ok.core.not_proceeding found act⟩
    rcases early with le | first
    · exact absurd le (Nat.not_le_of_lt ready)
    · exact absurd first notFirst

/-- `process_request` on a complete request that waits in no queue: a streamed request is
    counted and its window opened, any other moves on to SEND_HEADERS, and then it is handed to
    the application. -/
theorem processRequest_kept (h : A → TableOk c → (c.stream id).view.Complete ∧ id ∉ c.pendingReqs) :
    TableKept A c (processRequest ctx c id) := by
  refine TableKept.assume ?_
  unfold processRequest processRequestWith
  lift_lets
  intro s c2 n c3 c1 c4
  have k4 : TableSame c1 c4 := TableSame.ite (fun _ => .of_table rfl rfl rfl) fun _ => .refl c1
  suffices k1 : TableKept (A ∧ TableOk c) c c1 ∧
      (A → TableOk c → (c1.stream id).view.Dispatchable ∧ id ∉ c1.pendingReqs) by
    refine k1.1.trans (k4.kept.trans (h2oProcessRequest_kept fun ⟨a, ok⟩ _ => ?_))
    rw [k4.stream_view, k4.pendingReqs]
    exact k1.2 a ok
  have found : A → TableOk c → ∃ t, c.getStream id = some t ∧ c.stream id = t := fun a ok =>
    Conn.found_of_ne_fresh (fun s => .recvHeaders < s.state) (h a ok).1.ready
      (by decide : ¬StreamState.recvHeaders < .idle)
  simp only [c1]
  split
  · next proceed =>
    have k3 : TableSame c c3 := (TableSame.check _ _ _).trans (.of_table rfl rfl rfl)
    have kw := updateStreamInputWindow_same (c3.modifyStream id fun s => { s with streamed := true }) id
      (windowExtension ctx)
    refine ⟨(k3.kept.trans ?_).trans kw.kept, fun a ok => ?_⟩
    · refine TableKept.modifyStream (fun _ => rfl) fun ⟨a, ok⟩ ok3 t found3 => ?_
      have sound := ok3.core.sound_of_found found3
      refine ⟨rfl, rfl, rfl, ⟨sound.slot, sound.bodyStarted, sound.unprocessed, sound.proceedBody,
        sound.activeHasData, fun _ => .inl rfl⟩, fun memI => ?_, fun act => ?_⟩
      · rw [(Conn.mem_of_getStream found3).2, k3.pendingReqs] at memI
        exact absurd memI (h a ok).2
      · exact (Conn.mem_of_getStream found3).2 ▸ ok3.core.not_proceeding found3 act
    · obtain ⟨t, foundC, ht⟩ := found a ok
      have found3 : c3.getStream id = some t := by rw [← foundC]; exact Conn.getStream_congr (by simp [c3, c2]) id
      obtain ⟨⟨ready, notFirst⟩, notPending⟩ := h a ok
      rw [kw.stream_view, Conn.stream_modifyStream, if_pos ⟨rfl, by simp [found3]⟩, Conn.stream_of_found found3,
        kw.pendingReqs]
      · rw [ht] at ready notFirst
        exact ⟨⟨⟨ready, notFirst⟩, .inl rfl⟩, by simpa [c3, c2] using notPending⟩
      · exact fun _ => rfl
  · split
    · next early =>
      refine ⟨?_, fun a ok => ?_⟩
      · refine (streamSetState_quiet_kept (.inr (.inl rfl)) fun ao _ => ?_).trans streamSetState_sendHeaders_kept
        have ready : .recvHeaders < (c.stream id).state := (h ao.1 ao.2).1.ready
        revert ready early
        simp only [s]
        cases (c.stream id).state <;> decide
      · obtain ⟨t, foundC, ht⟩ := found a ok
        obtain ⟨⟨ready, notFirst⟩, notPending⟩ := h a ok
        rw [ht] at notFirst
        have found2 : (streamSetState (streamSetState c id .reqPending) id .sendHeaders).getStream id =
            some { t with state := .sendHeaders } := by
          rw [streamSetState_getStream _ _ (.inr (.inr (.inl rfl))), streamSetState_getStream _ _ (.inr (.inl rfl)), foundC]
          rfl
        rw [Conn.stream_of_found found2, streamSetState_pendingReqs, streamSetState_pendingReqs]
        exact ⟨⟨⟨(by decide : StreamState.recvHeaders < .sendHeaders), notFirst⟩, .inr (Nat.le_refl _)⟩, notPending⟩
    · next late =>
      refine ⟨TableKept.refl, fun a ok => ?_⟩
      obtain ⟨⟨ready, notFirst⟩, notPending⟩ := h a ok
      exact ⟨⟨⟨ready, notFirst⟩, .inr (Nat.le_of_not_lt late)⟩, notPending⟩
/-- One pass of `run_pending_requests` over distinct ids of the queue: each stream it dispatches
    was waiting, so it is complete, and the queue held it once. -/
theorem runPendingPass_kept (ids : List Nat) {c : Conn}
    (h : A → TableOk c → ids.Nodup ∧ ∀ i ∈ ids, i ∈ c.pendingReqs) : TableKept A c (runPendingPass h2oProcessRequest ctx c ids).1 := by
  induction ids generalizing A c with
  | nil => exact TableKept.refl
  | cons id rest ih =>
    refine TableKept.assume ?_
    unfold runPendingPass
    split
    · exact TableKept.refl
    split
    · exact ih fun ⟨a, ok⟩ _ => ⟨(h a ok).1.of_cons, fun i memI => (h a ok).2 i (List.mem_cons_of_mem _ memI)⟩
    refine (TableKept.unlink id).trans ((processRequest_kept ctx ?_).trans (ih ?_)) <;> rintro ⟨a, ok⟩ -
    · obtain ⟨s, mem, sid, wait⟩ := ok.core.pending id ((h a ok).2 id (List.mem_cons_self _ _))
      have found := ok.core.getStream_of_mem mem
      rw [sid] at found
      exact ⟨Conn.stream_of_found found ▸ ⟨wait.ready, wait.notFirstFrame⟩, ok.core.pendingNodup.not_mem_erase⟩
    · obtain ⟨nodup, queued⟩ := h a ok
      refine ⟨nodup.of_cons, fun i memI => ?_⟩
      have queue : (processRequest ctx (c.unlink id) id).pendingReqs = (c.unlink id).pendingReqs :=
        processRequestWith_pendingReqs h2oProcessRequest_keepsQueue ctx _ id
      rw [queue]
      have ne : i ≠ id := fun same => (List.nodup_cons.1 nodup).1 (same ▸ memI)
      exact (List.mem_erase_of_ne ne).2 (queued i (List.mem_cons_of_mem _ memI))

/-- The outer loop of `run_pending_requests`: each pass starts from the whole queue. -/
theorem runPendingLoop_kept (fuel : Nat) {c : Conn} : TableKept A c (runPendingLoop h2oProcessRequest ctx fuel c) := by
  induction fuel generalizing c with
  | zero => exact TableKept.refl
  | succ fuel ih =>
    have pass := runPendingPass_kept ctx c.pendingReqs (A := A) fun _ ok => ⟨ok.core.pendingNodup, fun _ memI => memI⟩
    exact TableKept.ite (fun _ => pass.trans ih) fun _ => pass

theorem runPendingRequests_kept : TableKept A c (runPendingRequests ctx c) := runPendingLoop_kept ctx _

/-- `execute_or_enqueue_request_core` on a stream that may wait in the queue and is not in it yet. -/
theorem executeOrEnqueueRequestCore_kept
    (h : A → TableOk c → ∃ s, c.getStream id = some s ∧ s.Waiting ∧ id ∉ c.pendingReqs) :
    TableKept A c (executeOrEnqueueRequestCore ctx c id) :=
  ((TableKept.appendPending h).trans (runPendingRequests_kept ctx)).trans (updateIdleTimeout_same _).kept

end Dispatch

/-! ### Responding -/

section Respond

variable {A : Prop} {c : Conn} {id : Nat}

/-- `h2o_http2_conn_register_for_proceed_callback` on a stream of the map: a stream with nothing to
    send goes on `_streams_to_proceed`, which it is not on while it is scheduled, and must not
    be on already. -/
theorem connRegisterForProceedCallback_kept
    (h : A → TableOk c → (c.getStream id).isSome ∧
      ((c.stream id).hasPendingData = false → (c.stream id).state < .sendBodyIsFinal → id ∉ c.write.streamsToProceed)) :
    TableKept A c (connRegisterForProceedCallback c id) := by
  refine TableKept.assume ?_
  unfold connRegisterForProceedCallback
  lift_lets
  intro c1 s
  have same := connRequestWrite_same c
  refine same.kept.trans (TableKept.ite (fun data => TableKept.ite (fun _ => schedulerSetActive_true_kept _ fun _ _ => ?_)
    fun _ => TableKept.refl) fun idle => TableKept.appendProceed fun ⟨a, ok⟩ ok1 => ?_)
  · simpa using data
  obtain ⟨present, notIn⟩ := h a ok
  obtain ⟨t, found⟩ := Option.isSome_iff_exists.1 ((same.getStream_isSome id).trans present)
  have view := same.stream_view id
  simp only [s, Bool.or_eq_true, decide_eq_true_eq, not_or, Bool.not_eq_true] at idle
  have noData : (c.stream id).hasPendingData = false := by
    rw [← idle.1, Stream.hasPendingData, Stream.hasPendingData]
    exact congrArg (· != 0) (congrArg StreamView.pendingData view).symm
  have early : (c.stream id).state < .sendBodyIsFinal := by
    rw [← show (c1.stream id).state = (c.stream id).state from congrArg StreamView.state view]
    exact Nat.lt_of_not_le idle.2
  refine ⟨t, found, ?_, same.streamsToProceed ▸ notIn noData early⟩
  cases act : t.schedActive
  · rfl
  · rcases (ok1.core.sound_of_found found).activeHasData act with data | final
    · rw [← Conn.stream_of_found found, idle.1] at data
      exact absurd data nofun
    · rw [← Conn.stream_of_found found] at final
      exact absurd final idle.2

/-- The data of `finalostream_send` handed to a stream that is not scheduled; with no data and
    not its last, the stream must not be waiting for its proceed callback already. -/
theorem finalostreamSend_queue_kept (bytes : Nat)
    (h : A → TableOk c → (c.getStream id).map Stream.schedActive = some false ∧
      (bytes = 0 → (c.stream id).state < .sendBodyIsFinal → id ∉ c.write.streamsToProceed)) :
    TableKept A c (connRegisterForProceedCallback (c.modifyStream id fun s => { s with pendingData := bytes }) id) := by
  refine TableKept.assume ?_
  refine (TableKept.modifyStream (by intro; rfl) ?_).trans (connRegisterForProceedCallback_kept ?_)
  · rintro ⟨a, -⟩ ok s found
    have inactive : s.schedActive = false := by simpa [found] using (h a ok).1
    have sound := ok.core.sound_of_found found
    have sid := (Conn.mem_of_getStream found).2
    refine ⟨rfl, rfl, rfl, ⟨sound.slot, sound.bodyStarted, sound.unprocessed, sound.proceedBody,
      fun act => absurd (inactive ▸ act) nofun, sound.processedStarted⟩, fun memI => ?_,
      fun act => absurd (inactive ▸ act) nofun⟩
    have w := ok.core.waiting found (sid ▸ memI)
    exact ⟨w.ready, w.notFirstFrame, w.streamedIfOpen, w.unprocessed⟩
  · rintro ⟨a, ok⟩ -
    obtain ⟨inactive, notIn⟩ := h a ok
    obtain ⟨t, found, -⟩ := Option.map_eq_some'.1 inactive
    have found' : (c.modifyStream id fun s => { s with pendingData := bytes }).getStream id =
        some { t with pendingData := bytes } :=
      (Conn.getStream_modifyStream_self c id (by intro; rfl)).trans (by rw [found]; rfl)
    rw [found', Conn.stream_of_found found']
    refine ⟨rfl, fun noData early => notIn (by simpa [Stream.hasPendingData] using noData) ?_⟩
    rwa [Conn.stream_of_found found]

/-- The HEADERS of a response and the move to SEND_BODY, and to SEND_BODY_IS_FINAL with the last
    data. -/
theorem finalostreamSend_sendHeaders_kept (final : Bool) (h : (c.stream id).state = .sendHeaders) :
    TableKept A c (let c2 := streamSetState (c.encode (.headers id)) id .sendBody
      if final then streamSetState c2 id .sendBodyIsFinal else c2) :=
  (TableSame.encode c _).kept.trans ((streamSetState_quiet_kept (.inr (.inr rfl)) fun _ _ => by
    rw [Conn.encode_stream, h]; decide).trans
    (TableKept.ite (fun _ => streamSetState_sendBodyIsFinal_kept) fun _ => TableKept.refl))

/-- `finalostream_send`: its assertions aside, the data is handed to a stream that is not
    scheduled, which then is scheduled or waits for its proceed callback; a call that is not the
    last must not come while the stream waits for that callback already. -/
theorem finalostreamSend_kept (bytes : Nat) (final : Bool)
    (notProceeding : A → TableOk c → final = false → id ∉ c.write.streamsToProceed) :
    TableKept A c (finalostreamSend c id bytes final) := by
  unfold finalostreamSend
  lift_lets
  intro c0 c1 sendHeaders queue
  have k01 : ∀ {B : Prop}, TableKept B c0 c1 :=
    TableKept.ite (fun _ => streamSetBlockedByServer_false_kept) fun _ => TableKept.refl
  have reads : ∀ {α : Type} (g : Stream → α), (∀ s, g { s with blockedByServer := false } = g s) →
      g (c1.stream id) = g (c.stream id) := fun g hg => by
    simp only [c1]
    split
    · rw [Conn.stream_of_map id (streamSetBlockedByServer_getStream c0 id false) hg, Conn.check_stream]
    · rw [Conn.check_stream]
  have post : A → TableOk c → c1.failed = c.failed →
      (c1.stream id).hasPendingData = false ∧ (final = false → id ∉ c1.write.streamsToProceed) := fun a ok same => by
    have passed := Conn.check_passed (prefix_squeeze (TableKept.check_grows _ _ _) (k01 : TableKept False c0 c1).grows same)
    refine ⟨(reads Stream.hasPendingData fun _ => rfl).trans (by simpa using passed), ?_⟩
    have lists : c1.write = c.write := by
      simp only [c1, c0]
      split <;> simp
    exact lists ▸ notProceeding a ok
  refine ((TableKept.check _ _).trans k01).seq post (TableKept.assume ?_)
  have ready : ∀ {st : StreamState}, (c1.stream id).state = st → st ≠ .idle → st < .sendBodyIsFinal →
      (A ∧ (c1.stream id).hasPendingData = false ∧ (final = false → id ∉ c1.write.streamsToProceed)) ∧ TableOk c1 →
      ∃ t, c1.getStream id = some t ∧ t.schedActive = false := fun {st} heq notIdle early ⟨⟨_, idle, _⟩, ok⟩ => by
    obtain ⟨t, found⟩ := Option.isSome_iff_exists.1 (Conn.present_of_state (heq ▸ notIdle))
    refine ⟨t, found, ?_⟩
    cases act : t.schedActive
    · rfl
    · rcases (ok.core.sound_of_found found).activeHasData act with data | late
      · rw [← Conn.stream_of_found found, idle] at data
        exact absurd data nofun
      · rw [← Conn.stream_of_found found, heq] at late
        exact absurd late (Nat.not_le_of_lt early)
  have queued : ∀ {c' : Conn}, (c'.getStream id).map Stream.schedActive = (c1.getStream id).map Stream.schedActive →
      c'.write.streamsToProceed = c1.write.streamsToProceed → (final = true → (c'.stream id).state = .sendBodyIsFinal) →
      ∀ {st : StreamState}, (c1.stream id).state = st → st ≠ .idle → st < .sendBodyIsFinal →
      TableKept ((A ∧ (c1.stream id).hasPendingData = false ∧ (final = false → id ∉ c1.write.streamsToProceed)) ∧
        TableOk c1) c' (queue c') :=
    fun sched lists last _ heq notIdle early => finalostreamSend_queue_kept bytes fun x _ => by
      obtain ⟨t, found, inactive⟩ := ready heq notIdle early x
      rw [sched, lists, found]
      refine ⟨by rw [Option.map_some', inactive], fun _ early' => x.1.2.2 ?_⟩
      cases final
      · rfl
      · exact absurd (last rfl ▸ early') (Nat.lt_irrefl _)
  split
  case h_1 heq =>
    obtain ⟨t, found⟩ := Option.isSome_iff_exists.1 (Conn.present_of_state (heq ▸ (by decide : StreamState.recvBody ≠ .idle)))
    have found2 : (streamSetState (streamSetState c1 id .reqPending) id .sendHeaders).getStream id =
        some { t with state := .sendHeaders } := by
      rw [streamSetState_getStream _ _ (.inr (.inr (.inl rfl))), streamSetState_getStream _ _ (.inr (.inl rfl)), found]
      rfl
    refine ((streamSetState_quiet_kept (.inr (.inl rfl)) fun _ _ => by rw [heq]; decide).trans
      (streamSetState_sendHeaders_kept.trans (finalostreamSend_sendHeaders_kept final
        (by rw [Conn.stream_of_found found2])))).trans (queued ?_ ?_ ?_ heq (by decide) (by decide))
    · simp only [sendHeaders]
      split <;> simp
    · simp only [sendHeaders]
      split <;> simp
    · rintro rfl
      simp only [sendHeaders, ↓reduceIte]
      exact streamSetState_stream_state _ _ (.inr (.inr (.inr (.inr rfl)))) (by
        rw [streamSetState_getStream _ _ (.inr (.inr (.inr (.inl rfl)))), Conn.encode_getStream, found2]; rfl)
  case h_2 heq =>
    obtain ⟨t, found⟩ := Option.isSome_iff_exists.1 (Conn.present_of_state (heq ▸ (by decide : StreamState.reqPending ≠ .idle)))
    have found2 : (streamSetState c1 id .sendHeaders).getStream id = some { t with state := .sendHeaders } := by
      rw [streamSetState_getStream _ _ (.inr (.inr (.inl rfl))), found]
      rfl
    refine (streamSetState_sendHeaders_kept.trans (finalostreamSend_sendHeaders_kept final
      (by rw [Conn.stream_of_found found2]))).trans (queued ?_ ?_ ?_ heq (by decide) (by decide))
    · simp only [sendHeaders]
      split <;> simp
    · simp only [sendHeaders]
      split <;> simp
    · rintro rfl
      simp only [sendHeaders, ↓reduceIte]
      exact streamSetState_stream_state _ _ (.inr (.inr (.inr (.inr rfl)))) (by
        rw [streamSetState_getStream _ _ (.inr (.inr (.inr (.inl rfl)))), Conn.encode_getStream, found2]; rfl)
  case h_3 heq =>
    obtain ⟨t, found⟩ := Option.isSome_iff_exists.1 (Conn.present_of_state (heq ▸ (by decide : StreamState.sendHeaders ≠ .idle)))
    refine (finalostreamSend_sendHeaders_kept final heq).trans (queued ?_ ?_ ?_ heq (by decide) (by decide))
    · simp only [sendHeaders]
      split <;> simp
    · simp only [sendHeaders]
      split <;> simp
    · rintro rfl
      simp only [sendHeaders, ↓reduceIte]
      exact streamSetState_stream_state _ _ (.inr (.inr (.inr (.inr rfl)))) (by
        rw [streamSetState_getStream _ _ (.inr (.inr (.inr (.inl rfl)))), Conn.encode_getStream, found]; rfl)
  case h_4 heq =>
    obtain ⟨t, found⟩ := Option.isSome_iff_exists.1 (Conn.present_of_state (heq ▸ (by decide : StreamState.sendBody ≠ .idle)))
    refine (TableKept.ite (fun _ => streamSetState_sendBodyIsFinal_kept) fun _ => TableKept.refl).trans
      (queued ?_ ?_ ?_ heq (by decide) (by decide))
    · split <;> simp
    · split <;> simp
    · rintro rfl
      simp only [↓reduceIte]
      exact streamSetState_stream_state _ _ (.inr (.inr (.inr (.inr rfl)))) (by rw [found]; rfl)
  case h_5 => exact TableKept.refl
  case h_6 => exact TableKept.check _ _

/-- `h2o_send_error_400`: a whole response, whatever the stream waits for. -/
theorem h2oSendError400_kept (desc : String) : TableKept A c (h2oSendError400 c id desc) :=
  finalostreamSend_kept _ _ fun _ _ last => absurd last nofun

end Respond

/-! ### Closing a stream -/

section Close

variable {A : Prop} {c : Conn} {id : Nat} (ctx : Ctx)

/-- The scheduler node of a closing stream moves to the ring of recently closed streams, and the
    stream leaves the scheduler. -/
theorem closeClosedNode_kept (node : ClosedNode) (k : Check) : TableKept A c (closeClosedNode c node k) :=
  (TableKept.check _ _).trans (TableKept.of_table rfl rfl rfl)

theorem closeRecentlyClosed_kept : TableKept A c (closeRecentlyClosed c) :=
  (foldl_closeClosedNode (P := TableKept A c) (fun _ _ k => k.trans (closeClosedNode_kept _ _)) _ c TableKept.refl).trans
    (TableKept.of_table rfl rfl rfl)

theorem connPreserveStreamScheduler_kept : TableKept A c (connPreserveStreamScheduler c id) := by
  unfold connPreserveStreamScheduler
  lift_lets
  intro s c1 slot next c2 ring
  have k2 : TableKept A c1 c2 := by
    dsimp only [c2]
    split
    · exact closeClosedNode_kept _ _
    · exact TableKept.refl
  have off : TableKept A c2 (c2.modifyStream id fun s => { s with schedOpen := false, schedActive := false }) :=
    TableKept.modifyStream (by intro; rfl) fun _ ok _ found => ok.core.replaceable_inactive found rfl
  clear_value ring c2
  exact (TableKept.check _ _).trans (k2.trans (off.trans (TableKept.of_table rfl rfl rfl)))

/-- The request body closed as `h2o_http2_conn_unregister_stream` closes it, `proceed_req`
    cleared first: a body that was opened may close from any state. -/
theorem closeReqBody_kept (opened : A → TableOk c → (c.stream id).reqBodyState ≠ .none) :
    TableKept A c (setReqBodyState (c.modifyStream id fun s => { s with proceedReq := false }) id .closeDelivered) := by
  have closed : TableKept A c
      (c.modifyStream id fun s => { s with proceedReq := false, reqBodyState := .closeDelivered }) := by
    refine TableKept.modifyStream (by intro; rfl) fun a ok s found => ?_
    have sound := ok.core.sound_of_found found
    have sid := (Conn.mem_of_getStream found).2
    have ready := sound.bodyStarted (Conn.stream_of_found found ▸ opened a ok)
    refine ⟨rfl, rfl, rfl, ⟨sound.slot, fun _ => ready, fun early => ?_, fun cleared => (nomatch cleared),
      sound.activeHasData, sound.processedStarted⟩, fun memI => ?_, fun act => sid ▸ ok.core.not_proceeding found act⟩
    · rcases early with le | first
      · exact absurd le (Nat.not_le_of_lt ready)
      · exact (nomatch first)
    · have w := ok.core.waiting found (sid ▸ memI)
      exact ⟨w.ready, nofun, nofun, w.unprocessed⟩
  have grows : (c.modifyStream id fun s => { s with proceedReq := false }).failed <+:
      (setReqBodyState (c.modifyStream id fun s => { s with proceedReq := false }) id .closeDelivered).failed :=
    (setReqBodyState_kept fun (f : False) _ => f.elim).grows
  refine closed.trans (TableKept.of_table_grows ?_ (by simp) grows)
  rw [setReqBodyState_table, Conn.modifyStream_modifyStream _ _ (by intro; rfl)]
  rfl

/-- `h2o_http2_conn_unregister_stream` up to the pending requests: whatever its assertions say,
    the stream leaves the map with its counters and links. -/
theorem connReleaseStream_kept : TableKept A c (connReleaseStream c id) := by
  unfold connReleaseStream
  lift_lets
  intro c1 s c2 c3 c4 c5
  have k3 : TableKept A c c3 := by
    refine connPreserveStreamScheduler_kept.trans ((TableKept.ite (fun body => closeReqBody_kept fun _ _ => ?_)
      fun _ => TableKept.refl).trans (TableKept.ite (fun _ => streamSetBlockedByServer_false_kept) fun _ => TableKept.refl))
    simp only [Bool.and_eq_true, decide_eq_true_eq] at body
    exact body.1
  have unblocked : (c3.stream id).blockedByServer = false := by
    simp only [c3]
    split
    · simp only [Conn.stream, streamSetBlockedByServer_getStream]
      cases c2.getStream id <;> rfl
    · next h => simpa using h
  have k4 : TableKept A c3 c4 ∧
      (TableOk c3 → c4.failed = c3.failed → id ∉ c4.pendingReqs ∧ id ∉ c4.write.streamsToProceed) ∧
      c4.streams = c3.streams := by
    have ifLinked : TableKept A c3 (if c3.isLinked id then c3.unlink id else c3) ∧
        (TableOk c3 → (if c3.isLinked id then c3.unlink id else c3).failed = c3.failed →
          id ∉ (if c3.isLinked id then c3.unlink id else c3).pendingReqs ∧
          id ∉ (if c3.isLinked id then c3.unlink id else c3).write.streamsToProceed) ∧
        (if c3.isLinked id then c3.unlink id else c3).streams = c3.streams := by
      split
      · refine ⟨TableKept.unlink id, fun ok _ => ?_, by simp only [Conn.unlink]⟩
        simp only [Conn.unlink]
        exact ok.core.not_linked_unlink id
      · next h => exact ⟨TableKept.refl, fun _ _ => Conn.not_linked (by simpa using h), rfl⟩
    simp only [c4]
    split
    case h_1 | h_5 => exact ifLinked
    case h_2 | h_3 =>
      refine ⟨TableKept.check _ _, fun _ same => ?_, Conn.check_streams _ _ _⟩
      simp only [Conn.check_pendingReqs, Conn.check_write]
      exact Conn.not_linked (Conn.check_passed same)
    case h_4 =>
      refine ⟨(TableKept.check _ _).trans (TableKept.unlink id), fun ok _ => ?_, ?_⟩
      · simp only [Conn.unlink, Conn.check_pendingReqs, Conn.check_write]
        exact ok.core.not_linked_unlink id
      · simp only [Conn.unlink, Conn.check_streams]
  have k5 : TableKept A c4 c5 := TableKept.ite (fun _ => streamSetState_endStream_kept) fun _ => TableKept.refl
  have lists5 : c5.pendingReqs = c4.pendingReqs ∧ c5.write = c4.write := by
    simp only [c5]
    split <;> simp
  have ended : TableOk c4 → ∀ t, c5.getStream id = some t → t.slot = .none ∧ t.blockedByServer = false := by
    intro ok t found
    simp only [c5] at found
    split at found
    · rw [streamSetState_endStream_getStream] at found
      obtain ⟨_, -, rfl⟩ := Option.map_eq_some'.1 found
      exact ⟨rfl, rfl⟩
    · next isEnd =>
      have same : c4.stream id = t := Conn.stream_of_found found
      rw [not_not, same] at isEnd
      refine ⟨(ok.core.sound_of_found found).slot.trans (by simp [Stream.expectedSlot, isEnd]), ?_⟩
      rw [← same, Conn.stream_congr k4.2.2, unblocked]
  have post : A → TableOk c3 → c4.failed = c3.failed →
      (id ∉ c4.pendingReqs ∧ id ∉ c4.write.streamsToProceed) ∧ TableOk c4 :=
    fun a ok3 same => ⟨k4.2.1 ok3 same, k4.1.keeps a ok3 same⟩
  refine k3.trans (k4.1.seq post ((k5.weaken And.left).trans (TableKept.erase ?_)))
  rintro ⟨-, ⟨np, nq⟩, ok4⟩ - t found
  rw [lists5.1, lists5.2]
  exact ⟨(ended ok4 t found).1, (ended ok4 t found).2, np, nq⟩

/-- `h2o_http2_conn_unregister_stream`. -/
theorem connUnregisterStream_kept : TableKept A c (connUnregisterStream ctx c id) :=
  connReleaseStream_kept.trans (TableKept.ite (fun _ => (runPendingRequests_kept ctx).trans (updateIdleTimeout_same _).kept)
    fun _ => TableKept.refl)

theorem streamClose_kept : TableKept A c (streamClose ctx c id) := connUnregisterStream_kept ctx

/-- The tail of `h2o_http2_stream_reset` for a stream whose response has begun: it leaves the
    scheduler and waits on `_streams_to_proceed` to be closed. -/
theorem deferClose_kept (present : A → TableOk c → (c.getStream id).isSome) :
    TableKept A c (let c1 := schedulerSetActive c id false
      if c1.isLinked id then c1
      else { c1 with write := { c1.write with streamsToProceed := c1.write.streamsToProceed ++ [id] } }) := by
  refine TableKept.assume ?_
  lift_lets
  intro c1
  refine schedulerSetActive_false_kept.trans (TableKept.ite (fun _ => TableKept.refl) fun notLinked =>
    TableKept.appendProceed fun ⟨a, ok⟩ _ => ?_)
  obtain ⟨s, found⟩ := Option.isSome_iff_exists.1 (present a ok)
  refine ⟨{ s with schedActive := false }, ?_, rfl, (Conn.not_linked (by simpa using notLinked)).2⟩
  rw [schedulerSetActive, Conn.getStream_modifyStream_self _ _ (by intro; rfl), found]
  rfl

theorem streamReset_kept : TableKept A c (streamReset ctx c id) := by
  unfold streamReset
  dsimp only
  split
  case h_1 | h_2 | h_3 | h_4 => exact streamClose_kept ctx
  case h_8 ended => exact deferClose_kept fun _ _ => Conn.present_of_state (by rw [ended]; decide)
  all_goals
    next sending =>
    exact streamSetState_endStream_kept.trans (deferClose_kept fun _ _ => by
      rw [streamSetState_endStream_getStream, Option.isSome_map']
      exact Conn.present_of_state (by rw [sending]; decide))

theorem resetStreamIfDisregarded_kept : TableKept A c (resetStreamIfDisregarded ctx c id).1 := by
  unfold resetStreamIfDisregarded
  split
  · exact streamReset_kept ctx
  · exact TableKept.refl

/-- `execute_or_enqueue_request` on a request whose headers are in, whose body is past the first
    frame or absent and streamed if open, that has not been processed unless it is not streamed,
    and that is not yet in the pending queue. -/
theorem executeOrEnqueueRequest_kept
    (h : A → TableOk c → (c.stream id).reqBodyState ≠ .openBeforeFirstFrame ∧
      ((c.stream id).reqBodyState = .opened → (c.stream id).proceedReq = true) ∧
      ((c.stream id).processCalled = false ∨ (c.stream id).streamed = false) ∧ id ∉ c.pendingReqs) :
    TableKept A c (executeOrEnqueueRequest ctx c id) := by
  refine TableKept.assume ?_
  unfold executeOrEnqueueRequest
  lift_lets
  intro s c1 r c2 c3
  refine TableKept.checked_of (rfl : c.check _ _ = c1) (TableKept.ite (fun _ => resetStreamIfDisregarded_kept ctx)
    fun _ => ?_)
  have entry : ∀ {B : Prop}, B ∧ (s.state == .recvHeaders || s.state == .reqPending) = true →
      s.state = .recvHeaders ∨ s.state = .reqPending := fun ⟨_, pass⟩ => by simpa using pass
  have present : ∀ {B : Prop}, B ∧ (s.state == .recvHeaders || s.state == .reqPending) = true →
      (c.getStream id).isSome := fun x => Conn.present_of_state (by rcases entry x with e | e <;> rw [e] <;> decide)
  refine (streamSetState_quiet_kept (.inr (.inl rfl)) fun x _ => ?_).trans ((TableKept.ite
    (fun _ => streamSetBlockedByServer_true_kept fun x _ => ?_) fun _ => TableKept.refl).trans
    (executeOrEnqueueRequestCore_kept ctx fun x _ => ?_))
  · rw [Conn.check_stream]
    rcases entry x with e | e <;> rw [e] <;> decide
  · rw [streamSetState_getStream _ _ (.inr (.inl rfl)), Option.isSome_map', Conn.check_getStream]
    exact present x
  obtain ⟨⟨_, ok⟩, pass⟩ := x
  obtain ⟨t, found⟩ := Option.isSome_iff_exists.1 (present ⟨trivial, pass⟩)
  have st : s = t := Conn.stream_of_found found
  obtain ⟨notFirst, streamedIfOpen, unprocessed, notPending⟩ := h ‹_› ok
  rw [Conn.stream_of_found found] at notFirst streamedIfOpen unprocessed
  have called : t.processCalled = false := by
    cases called : t.processCalled
    · rfl
    · rcases (ok.core.sound_of_found found).processedStarted called with streamed | late
      · simp [called, streamed] at unprocessed
      · rcases st ▸ entry ⟨trivial, pass⟩ with e | e <;> rw [e] at late <;> exact absurd late (by decide)
  have found2 : c2.getStream id = some { t with state := .reqPending } := by
    rw [streamSetState_getStream _ _ (.inr (.inl rfl)), Conn.check_getStream, found]
    rfl
  have waiting : ({ t with state := .reqPending } : Stream).Waiting :=
    ⟨(by decide : StreamState.recvHeaders < .reqPending), notFirst, streamedIfOpen, called⟩
  have pending3 : c3.pendingReqs = c.pendingReqs := by
    simp only [c3, c2, c1]
    split <;> simp
  rw [pending3]
  split
  · exact ⟨{ t with state := .reqPending, blockedByServer := true }, by rw [streamSetBlockedByServer_getStream, found2]; rfl,
      ⟨waiting.ready, waiting.notFirstFrame, waiting.streamedIfOpen, waiting.unprocessed⟩, notPending⟩
  · exact ⟨_, found2, waiting, notPending⟩

theorem foldl_streamClose_kept (ids : List Nat) : TableKept A c (ids.foldl (streamClose ctx) c) := by
  induction ids generalizing c with
  | nil => exact TableKept.refl
  | cons id rest ih =>
    rw [List.foldl_cons]
    exact (streamClose_kept ctx).trans ih

/-- `close_connection_now`: every stream is closed, and what the connection then asserts and
    disposes of leaves the table alone. -/
theorem closeConnectionNow_kept : TableKept A c (closeConnectionNow ctx c) := by
  unfold closeConnectionNow
  lift_lets
  intro c1 c2 c3 c4 c5 c6 c7 c8 c9 sk
  have dispose : ∀ d : Conn, TableKept A d (disposeTimersAndBuffers d) := fun _ => TableKept.of_table rfl rfl rfl
  have destroy : ∀ d : Conn, TableKept A d
      { d with destroyed := true, sock := { d.sock with reading := false, writing := false, notifying := false } } :=
    fun _ => TableKept.of_table rfl rfl rfl
  have k2 : TableKept A c c2 := (TableKept.of_table rfl rfl rfl : TableKept A c c1).trans (TableKept.check _ _)
  have k6 : TableKept A c3 c6 := (TableKept.check _ _).trans ((TableKept.check _ _).trans (TableKept.check _ _))
  have k9 : TableKept A c7 c9 := (TableKept.check _ _).trans (TableKept.check _ _)
  exact k2.trans ((foldl_streamClose_kept ctx _).trans (k6.trans (((dispose c6).trans closeRecentlyClosed_kept).trans (k9.trans (destroy c9)))))

theorem closeConnection_kept : TableKept A c (closeConnection ctx c).1 := by
  unfold closeConnection
  lift_lets
  intro c1
  split <;> dsimp only
  · exact TableKept.of_table rfl rfl rfl
  · exact (TableKept.of_table rfl rfl rfl : TableKept A c c1).trans (closeConnectionNow_kept ctx)

end Close

end H2oHttp2
