import Mathlib.Algebra.BigOperators.Group.List
import Mathlib.Algebra.Order.Ring.Nat
import H2oHttp2.Flow

/-!
# The push maximum and the receive window over whole runs

The functions that change the view of `Flow` do so in few ways:

* `SERVER_PREFACE` sends the connection-level WINDOW_UPDATE of `TARGET - 65535`, where `TARGET`
  is `H2O_HTTP2_SETTINGS_HOST_CONNECTION_WINDOW_SIZE` (`expectPreface_flowOk`);
* `handle_data_frame` takes the frame's length off the receive window and, when that leaves at
  most `TARGET/2`, sends one WINDOW_UPDATE that raises it back to `TARGET`
  (`handleDataFrame_flow`);
* `handle_goaway_frame` sets the push maximum to `0x7ffffffe`, and `push_path` raises it by 2
  once all its checks pass (`pushPath_flow`).

`FlowOk floor c` says that the view is in range, with `floor` a lower bound of the push
maximum. Every event keeps it for any `floor` (`step_flowOk`), so every reachable connection
satisfies it with `floor = 0` (`Reachable.flowOk`), and along any run the push maximum never
falls (`run_pushMaxOpen_mono`). Hence the receive window stays between half and full with the
DATA bytes accounted (`conn_window_half_to_full`), and the ids of pushed streams are even,
increasing and below 2^31 (`push_ids_even_increasing_bounded`).
-/
namespace H2oHttp2

namespace FlowKept

variable {v : FlowView} {c : Conn}

theorem setPushMaxOpen (h : FlowKept v c) (m : Nat) :
    FlowKept { v with pushMaxOpen := m } { c with pushMaxOpen := m } := by
  obtain ⟨rfl, noZero⟩ := h
  exact ⟨rfl, noZero⟩

theorem setInputWindow (h : FlowKept v c) (w : Int) :
    FlowKept { v with inputWindow := w } { c with inputWindow := w } := by
  obtain ⟨rfl, noZero⟩ := h
  exact ⟨rfl, noZero⟩

theorem setWrite (h : FlowKept v c) (w : WriteState) : FlowKept v { c with write := w } :=
  h.of_flow rfl rfl

theorem setReadExpect (h : FlowKept v c) (r : ReadExpect) :
    FlowKept { v with prefaceRead := r != .preface } { c with readExpect := r } := by
  obtain ⟨rfl, noZero⟩ := h
  exact ⟨rfl, noZero⟩

/-- A connection-level WINDOW_UPDATE adds its increment to the view. -/
theorem encodeConnIncrement (h : FlowKept v c) (n : Nat) :
    FlowKept { v with connIncrements := v.connIncrements ++ [n] } (c.encode (.windowUpdate 0 n)) := by
  obtain ⟨rfl, noZero⟩ := h
  exact ⟨by simp [Conn.flow, Conn.encode, Conn.connIncrements, Trace.connIncrement], noZero⟩

end FlowKept

variable (ctx : Ctx) {v : FlowView} {c : Conn} (id : Nat)

/-! ### The functions that change the view -/

/-- A connection-level WINDOW_UPDATE that fits raises the receive window by its increment. -/
theorem sendWindowUpdate_conn_flowKept (h : FlowKept v c) (delta : Nat) (fits : v.inputWindow + delta ≤ int32Max) :
    FlowKept { v with inputWindow := v.inputWindow + delta, connIncrements := v.connIncrements ++ [delta] }
      (sendWindowUpdate c 0 delta) := by
  unfold sendWindowUpdate
  lift_lets
  intro c1 avail
  have h1 : FlowKept { v with connIncrements := v.connIncrements ++ [delta] } c1 :=
    connRequestWrite_flowKept ((h.check _ _).encodeConnIncrement delta)
  have window : avail = v.inputWindow := congrArg FlowView.inputWindow h1.flow
  rw [window]
  simp only [windowUpdate, fits, if_true]
  exact h1.setInputWindow _

/-- Where `handle_data_frame` keeps the receive window: above `TARGET/2`, at most `TARGET`. -/
def WindowInRange (w : Int) : Prop :=
  ((hostConnectionWindowSize / 2 : Nat) : Int) < w ∧ w ≤ hostConnectionWindowSize

/-- An increment `handle_data_frame` sends: at least `TARGET/2`, and below `TARGET/2` plus the
    largest frame. -/
def RaiseIncrement (n : Nat) : Prop :=
  hostConnectionWindowSize / 2 ≤ n ∧ n < hostConnectionWindowSize / 2 + hostMaxFrameSize

/-- `handle_data_frame` on a decoded frame: the frame's length is taken off the receive window,
    and if that leaves at most `TARGET/2`, one WINDOW_UPDATE raises it back to `TARGET`. The
    window stays in range, on any stream, whether the frame is accepted or rejected. -/
theorem handleDataFrame_flow (h : FlowKept v c) (range : WindowInRange v.inputWindow) (sid : Nat)
    (endStream : Bool) (p : DataPayload) (answers : Input) :
    ∃ raise : List Nat,
      FlowKept { v with inputWindow := v.inputWindow - p.length + (raise.sum : Nat),
                        connIncrements := v.connIncrements ++ raise }
        (handleDataFrame ctx c sid endStream (.ok p) answers).conn ∧
      WindowInRange (v.inputWindow - p.length + (raise.sum : Nat)) ∧ ∀ n ∈ raise, RaiseIncrement n := by
  have T : hostConnectionWindowSize = 16777216 := rfl
  have len : p.length ≤ 16384 := p.length_le
  obtain ⟨rfl, noZero⟩ := h
  have win : c.flow.inputWindow = c.inputWindow := rfl
  obtain ⟨above, below⟩ := range
  dsimp -zeta only [handleDataFrame]
  lift_lets
  intro c1 c2 c3 c4 c5
  have h1 : FlowKept { c.flow with inputWindow := c.flow.inputWindow - p.length } c1 :=
    FlowKept.setInputWindow ⟨rfl, noZero⟩ _
  obtain ⟨raise, h2, range, raised⟩ : ∃ raise : List Nat,
      FlowKept { c.flow with inputWindow := c.flow.inputWindow - p.length + (raise.sum : Nat),
                             connIncrements := c.flow.connIncrements ++ raise } c2 ∧
      WindowInRange (c.flow.inputWindow - p.length + (raise.sum : Nat)) ∧ ∀ n ∈ raise, RaiseIncrement n := by
    dsimp only [c2]
    split
    · rename_i low
      generalize hn : ((hostConnectionWindowSize : Int) - (c.inputWindow - p.length)).toNat = n
      have raise : (n : Int) = hostConnectionWindowSize - (c.inputWindow - p.length) :=
        hn ▸ Int.toNat_of_nonneg (by omega)
      have fits : c.inputWindow - p.length + (n : Int) ≤ (int32Max : Nat) := by
        rw [raise, T]
        simp only [int32Max]
        omega
      refine ⟨[n], sendWindowUpdate_conn_flowKept h1 n fits, ?_, ?_⟩
      · simp only [List.sum_cons, List.sum_nil, Nat.add_zero, raise, WindowInRange]
        omega
      · simp only [List.mem_singleton, forall_eq, RaiseIncrement, hostMaxFrameSize]
        omega
    · exact ⟨[], by simpa using h1, by simp only [List.sum_nil, WindowInRange]; omega, by simp⟩
  refine ⟨raise, ?_, range, raised⟩
  have h3 : FlowKept _ c3 := h2.modifyStream sid _ (by intros; rfl)
  have h4 : FlowKept _ c4 := .ite (updateStreamInputWindow_flowKept sid h3 _) h3
  have h5 : FlowKept _ c5 := .ite (handleRequestBodyChunk_flowKept ctx sid h4 _ _ _) h4
  split
  · exact .ite_conn (.handled (streamSendError_flowKept h2 _ _)) (.handled h2)
  · exact .ite_conn (.handled (streamReset_flowKept ctx sid (streamSendError_flowKept h2 _ _))) (.handled h5)

/-- Preparing a push stream raises the push maximum to its id. -/
theorem streamPrepareForRequest_push (h : FlowKept v c) (push : streamIsPush id = true) :
    FlowKept { v with pushMaxOpen := max v.pushMaxOpen id } (streamPrepareForRequest c id) := by
  unfold streamPrepareForRequest
  lift_lets
  intro c1 c2
  have h1 : FlowKept v c1 := h.check _ _
  have h2 : FlowKept { v with pushMaxOpen := max v.pushMaxOpen id } c2 := by
    rw [← congrArg FlowView.pushMaxOpen h1.flow]
    simp only [c2, push, if_true]
    exact h1.setPushMaxOpen _
  exact (streamSetState_flowKept id h2 _).modifyStream id _ (by intros; rfl)

/-- The checks `push_path` passes before it opens a stream. -/
structure PushGuards (ctx : Ctx) (c : Conn) : Prop where
  pushEnabled : c.peerSettings.enablePush ≠ 0
  belowLimit : c.numStreams.push.opened < c.peerSettings.maxConcurrentStreams
  notClosing : c.state < .isClosing
  idsLeft : c.pushMaxOpen < 0x7ffffff0
  noPending : c.pendingReqs = []
  canRun : canRunRequests ctx c = true

theorem streamSendPushPromise_flowKept (h : FlowKept v c) : FlowKept v (streamSendPushPromise c id) :=
  (h.encode (by rfl)).modifyStream id _ (by intros; rfl)

/-- `push_path` changes nothing, or all its checks pass and it opens the stream
    `max_open + 2`, raising the push maximum to it. -/
theorem pushPath_flow (h : FlowKept v c) (even : v.pushMaxOpen % 2 = 0) (srcId : Nat) (path : List UInt8)
    (isCritical allowed : Bool) :
    pushPath ctx c srcId path isCritical allowed = c ∨
      PushGuards ctx c ∧
        FlowKept { v with pushMaxOpen := v.pushMaxOpen + 2 } (pushPath ctx c srcId path isCritical allowed) := by
  obtain ⟨rfl, noZero⟩ := h
  generalize pushed : pushPath ctx c srcId path isCritical allowed = p
  unfold pushPath at pushed
  rcases ite_eq_iff.1 pushed with ⟨-, rfl⟩ | ⟨-, pushed⟩
  · exact .inl rfl
  rcases ite_eq_iff.1 pushed with ⟨-, rfl⟩ | ⟨room, pushed⟩
  · exact .inl rfl
  rcases ite_eq_iff.1 pushed with ⟨-, rfl⟩ | ⟨notClosing, pushed⟩
  · exact .inl rfl
  rcases ite_eq_iff.1 pushed with ⟨-, rfl⟩ | ⟨idsLeft, pushed⟩
  · exact .inl rfl
  rcases ite_eq_iff.1 pushed with ⟨-, rfl⟩ | ⟨idle, pushed⟩
  · exact .inl rfl
  rcases ite_eq_iff.1 pushed with ⟨-, rfl⟩ | ⟨-, rfl⟩
  · exact .inl rfl
  simp only [Bool.or_eq_true, Bool.not_eq_true', decide_eq_true_eq, not_or, Bool.not_eq_false] at room
  simp only [Bool.not_eq_true', decide_eq_false_iff_not, not_not] at notClosing
  simp only [Bool.not_eq_true', Bool.not_eq_false, Bool.and_eq_true, List.isEmpty_iff] at idle
  refine .inr ⟨⟨room.1.2, Nat.lt_of_not_le room.2, notClosing, Nat.lt_of_not_le idsLeft, idle.1, idle.2⟩, ?_⟩
  lift_lets
  intro pushed c1 c2 c3 c4 s
  have h1 : FlowKept c.flow c1 :=
    streamOpen_flowKept pushed (⟨rfl, noZero⟩ : FlowKept c.flow { c with pushMemo := c.pushMemo ++ [path] }) (by omega) _
  have h2 : FlowKept c.flow c2 := h1.modifyStream pushed _ (by intros; rfl)
  have h3 : FlowKept c.flow c3 := .ite (schedulerOpen_flowKept pushed h2 _ _) (schedulerOpen_flowKept pushed h2 _ _)
  have push : streamIsPush pushed = true := by
    simp only [streamIsPush, beq_iff_eq]
    exact (Nat.add_mod_right _ _).trans even
  have h4 := executeOrEnqueueRequest_flowKept ctx pushed (streamPrepareForRequest_push pushed h3 push)
  rw [show max c.flow.pushMaxOpen pushed = c.flow.pushMaxOpen + 2 from max_eq_right (Nat.le_add_right _ 2)] at h4
  exact .ite (streamSendPushPromise_flowKept pushed h4) h4

/-! ### Frames that leave the view alone -/

theorem resumeSend_flowKept (h : FlowKept v c) : FlowKept v (resumeSend c) :=
  .ite h (requestGatheredWrite_flowKept h)

theorem updateStreamOutputWindows_flowKept (ids : List Nat) (delta : Int) (h : FlowKept v c) :
    FlowKept v (updateStreamOutputWindows c ids delta) := by
  induction ids generalizing c with
  | nil => exact h
  | cons next rest ih => exact ih (updateStreamOutputWindow_flowKept next h delta)

theorem handleSettingsFrame_flowKept (h : FlowKept v c) (sid : Nat) (ack : Bool) (params : List (Nat × Nat))
    (trailing : Nat) : FlowKept v (handleSettingsFrame c sid ack params trailing).conn := by
  unfold handleSettingsFrame
  lift_lets
  intro prev updated settings c1 c2
  have h1 : FlowKept v c1 := h.of_flow rfl rfl
  have h2 : FlowKept v c2 := connRequestWrite_flowKept (h1.encode (by rfl))
  exact .ite_conn (.handled h) (.ite_conn (.ite_conn (.handled h) (.handled h))
    (.ite_conn (.handled h1) (.ite_conn (.handled (resumeSend_flowKept (updateStreamOutputWindows_flowKept _ _ h2)))
      (.handled h2))))

theorem handleWindowUpdateFrame_flowKept (h : FlowKept v c) (sid : Nat) (payload : Except (DecodeError × Bool) Nat) :
    FlowKept v (handleWindowUpdateFrame ctx c sid payload).conn := by
  unfold handleWindowUpdateFrame
  split
  · exact .ite_conn (.handled (streamSendError_flowKept (.ite (streamReset_flowKept ctx sid h) h) _ _)) (.handled h)
  · refine .ite_conn ?_ (.ite_conn (.ite_conn ?_ (.handled (resumeSend_flowKept h))) (.handled h))
    · split
      · exact h
      · exact resumeSend_flowKept (h.of_flow rfl rfl)
    · lift_lets
      intro updated c1
      have h1 : FlowKept v c1 := updateStreamOutputWindow_flowKept sid h _
      exact .ite_conn (.handled (streamSendError_flowKept (streamReset_flowKept ctx sid h1) _ _))
        (.handled (resumeSend_flowKept h1))

theorem handlePingFrame_flowKept (h : FlowKept v c) (ack : Bool) (payload : Except DecodeError (List UInt8)) :
    FlowKept v (handlePingFrame c ack payload).conn := by
  unfold handlePingFrame
  split
  · exact h
  · exact .ite (connRequestWrite_flowKept (h.encode (by rfl))) h

theorem handleRstStreamFrame_flowKept (h : FlowKept v c) (sid : Nat) (payload : Except DecodeError Unit) :
    FlowKept v (handleRstStreamFrame ctx c sid payload).conn := by
  unfold handleRstStreamFrame
  split
  · exact h
  · exact .ite_conn (.handled h) (.handled (.ite (streamReset_flowKept ctx sid h) h))

/-! ### The writer and the events -/

theorem streamSendPendingData_flowKept (h : FlowKept v c) : FlowKept v (streamSendPendingData c id) := by
  unfold streamSendPendingData
  lift_lets
  intro s n final c1 c2 _ c3
  have h1 : FlowKept v c1 := .ite (h.encode (by rfl)) h
  have h2 : FlowKept v c2 := h1.modifyStream id _ (by intros; rfl)
  have h3 : FlowKept v c3 := h2.setWrite _
  exact .ite h (.ite (streamSetState_flowKept id h3 _) h3)

theorem emitWritereqOfOpenref_flowKept (h : FlowKept v c) : FlowKept v (emitWritereqOfOpenref c id).conn := by
  unfold emitWritereqOfOpenref
  lift_lets
  intro s c1 c2 s2 _
  have h2 : FlowKept v c2 := streamSendPendingData_flowKept id (h.check _ _)
  split
  rename_i c3 still pair
  split at pair <;> obtain ⟨rfl, -⟩ := Prod.mk.inj pair
  · exact h2
  · exact h2.setWrite _

theorem schedulerRunPass_flowKept (ids : List Nat) (h : FlowKept v c) : FlowKept v (schedulerRunPass c ids) := by
  induction ids generalizing c with
  | nil => exact h
  | cons next rest ih =>
    have h1 := emitWritereqOfOpenref_flowKept next h
    have h2 : FlowKept v (if (emitWritereqOfOpenref c next).stillIsActive then (emitWritereqOfOpenref c next).conn
        else schedulerSetActive (emitWritereqOfOpenref c next).conn next false) :=
      .ite h1 (schedulerSetActive_flowKept next h1 _)
    exact .ite h2 (ih h2)

theorem doEmitWritereq_flowKept (h : FlowKept v c) : FlowKept v (doEmitWritereq ctx c) := by
  unfold doEmitWritereq
  lift_lets
  intro c1 c2 _ _ c3
  have h1 : FlowKept v c1 := h.check _ _
  have h2 : FlowKept v c2 := .ite (schedulerRunPass_flowKept _ h1) h1
  have h3 : FlowKept v c3 := .ite (h2.of_flow rfl rfl) h2
  cases c3.state
  · exact h3
  · exact .ite h3 (closeConnection_flowKept ctx (h3.of_flow rfl rfl))
  · exact closeConnection_flowKept ctx h3

theorem streamProceed_flowKept (h : FlowKept v c) : FlowKept v (streamProceed ctx c id) := by
  unfold streamProceed
  dsimp only
  split
  · split
    · exact streamClose_flowKept ctx id h
    · exact streamClose_flowKept ctx id h
    · exact h
  · exact .ite (streamSetBlockedByServer_flowKept id h _) h

theorem proceedStreams_flowKept (fuel : Nat) (h : FlowKept v c) : FlowKept v (proceedStreams ctx fuel c) := by
  induction fuel generalizing c with
  | zero => exact h
  | succ n ih =>
    unfold proceedStreams
    split
    · exact h
    · rename_i next _ _
      exact ih (streamProceed_flowKept ctx next ((h.check _ _).unlink next))

theorem onWriteComplete_flowKept (h : FlowKept v c) (err : Bool) : FlowKept v (onWriteComplete ctx c err) := by
  unfold onWriteComplete
  lift_lets
  intro _ c0 c1 _ c2 _ c3 c4 _ c5 _
  have h1 : FlowKept v c1 := (show FlowKept v c0 from h.of_flow rfl rfl).check _ _
  have h2 : FlowKept v c2 := h1.of_flow rfl rfl
  have h3 : FlowKept v c3 := .ite (proceedStreams_flowKept ctx _ h2) h2
  have h5 : FlowKept v c5 := (updateIdleTimeout_flowKept h3).of_flow rfl rfl
  exact .ite (closeConnectionNow_flowKept ctx h1) (.ite (.ite (h5.of_flow rfl rfl) h5) (doEmitWritereq_flowKept ctx h5))

theorem onNotifyWrite_flowKept (h : FlowKept v c) (err : Bool) : FlowKept v (onNotifyWrite ctx c err) :=
  .ite (closeConnectionNow_flowKept ctx (h.of_flow rfl rfl)) (doEmitWritereq_flowKept ctx (h.of_flow rfl rfl))

theorem emitWritereq_flowKept (h : FlowKept v c) : FlowKept v (emitWritereq ctx c) :=
  doEmitWritereq_flowKept ctx (h.of_flow rfl rfl)

theorem onReadError_flowKept (h : FlowKept v c) : FlowKept v (onReadError ctx c) :=
  closeConnection_flowKept ctx (h.of_flow rfl rfl)

theorem onIdleTimeout_flowKept (h : FlowKept v c) : FlowKept v (onIdleTimeout ctx c) := by
  have h1 : FlowKept v { c with timeoutEntry := false } := h.of_flow rfl rfl
  unfold onIdleTimeout
  exact .ite (closeConnectionNow_flowKept ctx h1) (closeConnection_flowKept ctx (enqueueGoaway_flowKept h1 _ _))

theorem gracefulShutdownResendGoaway_flowKept (h : FlowKept v c) :
    FlowKept v (gracefulShutdownResendGoaway ctx c) :=
  .ite (.ite ((enqueueGoaway_flowKept h _ _).of_flow rfl rfl) (enqueueGoaway_flowKept h _ _)) h

theorem onGracefulShutdownTimeout_flowKept (h : FlowKept v c) : FlowKept v (onGracefulShutdownTimeout ctx c) := by
  have h1 : FlowKept v { c with gracefulShutdown := { c.gracefulShutdown with linked := false } } := h.of_flow rfl rfl
  unfold onGracefulShutdownTimeout
  dsimp only
  split
  · exact gracefulShutdownResendGoaway_flowKept ctx h1
  · exact closeConnection_flowKept ctx h1
  · exact h1

theorem initiateGracefulShutdown_flowKept (h : FlowKept v c) : FlowKept v (initiateGracefulShutdown c) := by
  unfold initiateGracefulShutdown
  lift_lets
  intro c1 c2
  have h2 : FlowKept v c2 := .ite (connRequestWrite_flowKept ((h.check _ _).encode (by rfl))) (h.check _ _)
  exact h2.of_flow rfl rfl

theorem installWriteReq_flowKept (h : FlowKept v c) : FlowKept v (installWriteReq c id) :=
  h.modifyStream id _ (by intros; rfl)

theorem onUpgradeComplete_flowKept (h : FlowKept v c) (sockOk : Bool) : FlowKept v (onUpgradeComplete ctx c sockOk) :=
  .ite (closeConnection_flowKept ctx h) (executeOrEnqueueRequest_flowKept ctx 1 (h.of_flow rfl rfl))

/-! ### The invariant -/

/-- The invariant of the view, with `floor` a lower bound of the push maximum: the push maximum
    is even and below 2^31; the receive window is in range; each connection-level increment
    sent is the preface's `TARGET - 65535` or one of `handle_data_frame`; and once the preface
    is read, the window is at most the peer's 65,535 plus the increments sent. -/
structure FlowView.Ok (floor : Nat) (v : FlowView) : Prop where
  floor_le : floor ≤ v.pushMaxOpen
  pushEven : v.pushMaxOpen % 2 = 0
  pushBelow : v.pushMaxOpen ≤ 0x7ffffffe
  window : WindowInRange v.inputWindow
  increments : ∀ n ∈ v.connIncrements,
    n = hostConnectionWindowSize - hostStreamInitialWindowSize ∨ RaiseIncrement n
  accounted : v.prefaceRead = true → v.inputWindow ≤ hostStreamInitialWindowSize + (v.connIncrements.sum : Nat)

/-- The invariant of a connection: its view is `Ok`, and it has no stream 0. -/
structure FlowOk (floor : Nat) (c : Conn) : Prop where
  view : c.flow.Ok floor
  noZero : ∀ s ∈ c.streams, s.streamId ≠ 0

namespace FlowOk

variable {floor : Nat}

theorem kept (h : FlowOk floor c) : FlowKept c.flow c := ⟨rfl, h.noZero⟩

theorem of_kept (h : FlowKept v c) (ok : v.Ok floor) : FlowOk floor c := ⟨h.flow ▸ ok, h.noZero⟩

theorem ite {p : Prop} [Decidable p] {a b : Conn} (ha : FlowOk floor a) (hb : FlowOk floor b) :
    FlowOk floor (if p then a else b) := by
  split
  · exact ha
  · exact hb

/-- The push maximum is its own lower bound. -/
theorem atOwnFloor (h : FlowOk floor c) : FlowOk c.pushMaxOpen c :=
  ⟨{ h.view with floor_le := Nat.le_refl _ }, h.noZero⟩

end FlowOk

variable {floor : Nat}

theorem handleDataFrame_flowOk (h : FlowOk floor c) (sid : Nat) (endStream : Bool)
    (payload : Except DecodeError DataPayload) (answers : Input) :
    FlowOk floor (handleDataFrame ctx c sid endStream payload answers).conn := by
  cases payload with
  | error e => exact h
  | ok p =>
    have ok := h.view
    obtain ⟨raise, k, range, raised⟩ := handleDataFrame_flow ctx h.kept ok.window sid endStream p answers
    refine .of_kept k ⟨ok.floor_le, ok.pushEven, ok.pushBelow, range, fun n mem => ?_, fun read => ?_⟩
    · rcases List.mem_append.1 mem with old | new
      · exact ok.increments n old
      · exact .inr (raised n new)
    · have before := ok.accounted read
      show c.flow.inputWindow - p.length + (raise.sum : Nat) ≤
        hostStreamInitialWindowSize + ((c.flow.connIncrements ++ raise).sum : Nat)
      rw [List.sum_append]
      omega

/-- `handle_goaway_frame` sets the push maximum to `0x7ffffffe`. -/
theorem handleGoawayFrame_flowOk (h : FlowOk floor c) (payload : Except DecodeError Unit) :
    FlowOk floor (handleGoawayFrame c payload).conn := by
  unfold handleGoawayFrame
  split
  · exact h
  · have ok := h.view
    exact .of_kept (h.kept.setPushMaxOpen 0x7ffffffe)
      ⟨ok.floor_le.trans ok.pushBelow, show (0x7ffffffe : Nat) % 2 = 0 from rfl, Nat.le_refl _, ok.window, ok.increments, ok.accounted⟩

/-- `SERVER_PREFACE` sends the increment `TARGET - 65535`, and the preface is read. -/
theorem expectPreface_flowOk (h : FlowOk floor c) (input : Input) : FlowOk floor (expectPreface ctx c input).conn := by
  unfold expectPreface
  split
  · lift_lets
    intro c1 c2
    have k1 : FlowKept { c.flow with connIncrements :=
        c.flow.connIncrements ++ [hostConnectionWindowSize - hostStreamInitialWindowSize] } c1 :=
      (h.kept.encode (by rfl)).encodeConnIncrement _
    have k2 : FlowKept _ c2 := .ite (k1.encode (by rfl)) k1
    have ok := h.view
    refine .of_kept ((connRequestWrite_flowKept k2).setReadExpect .default)
      ⟨ok.floor_le, ok.pushEven, ok.pushBelow, ok.window, fun n mem => ?_, fun _ => ?_⟩
    · rcases List.mem_append.1 mem with old | preface
      · exact ok.increments n old
      · exact .inl (List.mem_singleton.1 preface)
    · have full := ok.window.2
      show c.flow.inputWindow ≤ hostStreamInitialWindowSize +
        ((c.flow.connIncrements ++ [hostConnectionWindowSize - hostStreamInitialWindowSize]).sum : Nat)
      simp only [List.sum_append, List.sum_cons, List.sum_nil, hostConnectionWindowSize,
        hostStreamInitialWindowSize] at full ⊢
      omega
  · exact h

theorem expectDefault_flowOk (h : FlowOk floor c) (read : c.flow.prefaceRead = true) (input : Input) :
    FlowOk floor (expectDefault ctx c input).conn := by
  unfold expectDefault
  split
  · exact h
  · exact h
  · split
    · exact handleDataFrame_flowOk ctx h _ _ _ _
    · exact .of_kept (handleHeadersFrame_flowKept ctx h.kept read _ _ _ _ _) h.view
    · exact .of_kept (handlePriorityFrame_flowKept ctx h.kept _ _) h.view
    · exact .of_kept (handleRstStreamFrame_flowKept ctx h.kept _ _) h.view
    · exact .of_kept (handleSettingsFrame_flowKept h.kept _ _ _ _) h.view
    · exact h
    · exact .of_kept (handlePingFrame_flowKept h.kept _ _) h.view
    · exact handleGoawayFrame_flowOk h _
    · exact .of_kept (handleWindowUpdateFrame_flowKept ctx h.kept _ _) h.view
    · exact h
    · exact h

theorem readExpect_flowOk (h : FlowOk floor c) (input : Input) : FlowOk floor (readExpect ctx c input).conn := by
  unfold readExpect
  split
  · exact expectPreface_flowOk ctx h input
  · rename_i expectDefault
    exact expectDefault_flowOk ctx h (by simp [Conn.flow, expectDefault]) input
  · rename_i continuation
    exact .of_kept (expectContinuationOfHeaders_flowKept ctx h.kept (by simp [Conn.flow, continuation]) input) h.view

theorem parseInput_flowOk (inputs : List Input) (h : FlowOk floor c) : FlowOk floor (parseInput ctx c inputs).1 := by
  induction inputs generalizing c with
  | nil => exact h
  | cons input rest ih =>
    have handled := readExpect_flowOk ctx h input
    unfold parseInput
    split
    · dsimp only
      split
      · exact handled
      · split
        · exact .of_kept (closeConnection_flowKept ctx (.ite (enqueueGoaway_flowKept handled.kept _ _) handled.kept))
            handled.view
        · exact ih handled
    · exact h

theorem onRead_flowOk (h : FlowOk floor c) (inputs : List Input) : FlowOk floor (onRead ctx c inputs) := by
  have h1 := parseInput_flowOk ctx inputs h
  have k2 := updateIdleTimeout_flowKept h1.kept
  unfold onRead
  exact .of_kept (.ite h1.kept (.ite (doEmitWritereq_flowKept ctx (k2.of_flow rfl rfl)) k2)) h1.view

theorem pushPath_flowOk (h : FlowOk floor c) (srcId : Nat) (path : List UInt8) (isCritical allowed : Bool) :
    FlowOk floor (pushPath ctx c srcId path isCritical allowed) := by
  have ok := h.view
  rcases pushPath_flow ctx h.kept ok.pushEven srcId path isCritical allowed with same | ⟨guards, k⟩
  · rw [same]
    exact h
  · have left : c.flow.pushMaxOpen < 0x7ffffff0 := guards.idsLeft
    exact .of_kept k ⟨Nat.le_add_right_of_le ok.floor_le, (Nat.add_mod_right _ _).trans ok.pushEven,
      show c.flow.pushMaxOpen + 2 ≤ 0x7ffffffe by omega, ok.window, ok.increments, ok.accounted⟩

theorem step_appCall_flowOk (h : FlowOk floor c) (e : Event) {r : Conn} (hr : FlowOk floor r) :
    FlowOk floor (step.appCall c id e r) := by
  unfold step.appCall
  split
  · exact .ite hr h
  · exact h

/-- One event keeps the invariant, for any lower bound of the push maximum. -/
theorem step_flowOk (h : FlowOk floor c) (e : Event) : FlowOk floor (step ctx c e) := by
  unfold step
  split
  · exact h
  cases e with
  | read inputs => exact .ite (onRead_flowOk ctx h inputs) h
  | readError => exact .ite (.of_kept (onReadError_flowKept ctx h.kept) h.view) h
  | writeComplete err => exact .ite (.of_kept (onWriteComplete_flowKept ctx h.kept err) h.view) h
  | notifyWrite err => exact .ite (.of_kept (onNotifyWrite_flowKept ctx h.kept err) h.view) h
  | writeTimer => exact .ite (.of_kept (emitWritereq_flowKept ctx h.kept) h.view) h
  | idleTimeout => exact .ite (.of_kept (onIdleTimeout_flowKept ctx h.kept) h.view) h
  | gracefulTimer => exact .ite (.of_kept (onGracefulShutdownTimeout_flowKept ctx h.kept) h.view) h
  | requestShutdown => exact .of_kept (initiateGracefulShutdown_flowKept h.kept) h.view
  | requestWrite => exact .of_kept (connRequestWrite_flowKept h.kept) h.view
  | installWriteReq id => exact step_appCall_flowOk id h _ (.of_kept (installWriteReq_flowKept id h.kept) h.view)
  | proceedReq id errstr writeOk =>
    exact step_appCall_flowOk id h _ (.of_kept (proceedRequest_flowKept ctx id h.kept errstr writeOk) h.view)
  | send id bytes final =>
    exact step_appCall_flowOk id h _ (.of_kept (finalostreamSend_flowKept id h.kept bytes final) h.view)
  | pushPath id path isCritical allowed =>
    exact step_appCall_flowOk id h _ (pushPath_flowOk ctx h id path isCritical allowed)

theorem run_flowOk (es : List Event) (h : FlowOk floor c) : FlowOk floor (run ctx c es) := by
  induction es generalizing c with
  | nil => exact h
  | cons e es ih => exact ih (step_flowOk ctx h e)

theorem createConn_flowOk : FlowOk 0 createConn :=
  ⟨⟨Nat.le_refl _, rfl, by decide, ⟨by decide, Int.le_refl _⟩, fun _ mem => absurd mem (List.not_mem_nil _),
    fun read => absurd read (by decide)⟩, fun _ mem => absurd mem (List.not_mem_nil _)⟩

theorem accept_flowOk : FlowOk 0 accept :=
  .of_kept (updateIdleTimeout_flowKept (createConn_flowOk.kept.of_flow rfl rfl)) createConn_flowOk.view

theorem handleUpgrade_flowOk {params : List (Nat × Nat)} {trailing : Nat}
    (upgraded : handleUpgrade params trailing = some c) : FlowOk 0 c := by
  unfold handleUpgrade at upgraded
  dsimp only at upgraded
  split at upgraded
  · cases upgraded
  · cases upgraded
    refine .of_kept (streamPrepareForRequest_flowKept 1
      (schedulerOpen_flowKept 1 (streamOpen_flowKept 1 ?_ (by decide) _) _ _) (by decide)) createConn_flowOk.view
    exact createConn_flowOk.kept.of_flow rfl rfl

/-- Every reachable connection keeps the push maximum and the receive window in range. -/
theorem Reachable.flowOk {ctx : Ctx} (r : Reachable ctx c) : FlowOk 0 c := by
  induction r with
  | accept => exact accept_flowOk
  | upgrade sockOk upgraded =>
    exact .of_kept (onUpgradeComplete_flowKept ctx (handleUpgrade_flowOk upgraded).kept sockOk)
      (handleUpgrade_flowOk upgraded).view
  | step e _ ih => exact step_flowOk ctx ih e

/-- Along any run the push maximum never falls. -/
theorem run_pushMaxOpen_mono (h : FlowOk floor c) (es : List Event) : c.pushMaxOpen ≤ (run ctx c es).pushMaxOpen :=
  (run_flowOk ctx es h.atOwnFloor).view.floor_le

/-! ### The receive window over a run of DATA frames -/

/-- A DATA frame as `expect_default` hands it to `handle_data_frame`: its stream, END_STREAM,
    its decoded payload (at most `H2O_HTTP2_SETTINGS_HOST_MAX_FRAME_SIZE` long) and the input it
    came in. -/
structure DataFrame where
  sid : Nat
  endStream : Bool
  payload : DataPayload
  answers : Input

/-- `handle_data_frame` on each frame of `ds` in turn. -/
def receiveData (ctx : Ctx) (c : Conn) (ds : List DataFrame) : Conn :=
  ds.foldl (fun c d => (handleDataFrame ctx c d.sid d.endStream (.ok d.payload) d.answers).conn) c

/-- The bytes the frames `ds` charge to the receive window. -/
def dataBytes (ds : List DataFrame) : Nat := (ds.map (·.payload.length)).sum

theorem receiveData_flow (ds : List DataFrame) (h : FlowKept v c) (range : WindowInRange v.inputWindow) :
    ∃ raise : List Nat,
      FlowKept { v with inputWindow := v.inputWindow - dataBytes ds + (raise.sum : Nat),
                        connIncrements := v.connIncrements ++ raise } (receiveData ctx c ds) ∧
      WindowInRange (v.inputWindow - dataBytes ds + (raise.sum : Nat)) ∧ ∀ n ∈ raise, RaiseIncrement n := by
  induction ds generalizing v c with
  | nil => exact ⟨[], by simpa [dataBytes, receiveData] using h, by simpa [dataBytes] using range, by simp⟩
  | cons d ds ih =>
    obtain ⟨raise1, k1, range1, raised1⟩ := handleDataFrame_flow ctx h range d.sid d.endStream d.payload d.answers
    obtain ⟨raise2, k2, range2, raised2⟩ := ih k1 range1
    have window : v.inputWindow - dataBytes (d :: ds) + ((raise1 ++ raise2).sum : Nat) =
        v.inputWindow - d.payload.length + (raise1.sum : Nat) - dataBytes ds + (raise2.sum : Nat) := by
      simp only [dataBytes, List.map_cons, List.sum_cons, List.sum_append]
      omega
    refine ⟨raise1 ++ raise2, ?_, window ▸ range2, fun n mem => (List.mem_append.1 mem).elim (raised1 n) (raised2 n)⟩
    rw [window, ← List.append_assoc]
    exact k2

/-- From any reachable connection that has read the client preface, over any sequence of DATA
    frames on any streams, accepted or rejected: the receive window ends above `TARGET/2` and at
    most `TARGET`; each connection-level WINDOW_UPDATE sent on the way has an increment in
    `[TARGET/2, TARGET/2 + max frame size)`, so at most `INT32_MAX`; the bytes received plus the
    window equal the window before plus the increments sent; and so the bytes received stay
    below the peer's 65,535 plus the connection-level increments the connection has sent. -/
theorem conn_window_half_to_full (r : Reachable ctx c) (read : c.readExpect ≠ .preface) (ds : List DataFrame) :
    WindowInRange (receiveData ctx c ds).inputWindow ∧
      (∃ raise : List Nat, (receiveData ctx c ds).connIncrements = c.connIncrements ++ raise ∧
        ∀ n ∈ raise, RaiseIncrement n ∧ n ≤ int32Max) ∧
      (dataBytes ds : Int) + (receiveData ctx c ds).inputWindow =
        c.inputWindow + ((receiveData ctx c ds).connIncrements.sum : Nat) - (c.connIncrements.sum : Nat) ∧
      (dataBytes ds : Int) < hostStreamInitialWindowSize + ((receiveData ctx c ds).connIncrements.sum : Nat) := by
  have ok := r.flowOk.view
  obtain ⟨raise, k, range, raised⟩ := receiveData_flow ctx ds r.flowOk.kept ok.window
  have window : (receiveData ctx c ds).inputWindow = c.inputWindow - dataBytes ds + (raise.sum : Nat) :=
    congrArg FlowView.inputWindow k.flow
  have increments : (receiveData ctx c ds).connIncrements = c.connIncrements ++ raise :=
    congrArg FlowView.connIncrements k.flow
  have accounted : c.inputWindow ≤ hostStreamInitialWindowSize + (c.connIncrements.sum : Nat) :=
    ok.accounted (by simpa [Conn.flow] using read)
  have range' : WindowInRange (receiveData ctx c ds).inputWindow := by
    rw [window]
    exact range
  refine ⟨range', ⟨raise, increments, fun n mem => ⟨raised n mem, ?_⟩⟩, ?_, ?_⟩
  · have := (raised n mem).2
    simp only [hostConnectionWindowSize, hostMaxFrameSize] at this
    simp only [int32Max]
    omega
  · rw [window, increments, List.sum_append]
    omega
  · have above := range'.1
    rw [increments, List.sum_append]
    rw [window] at above
    simp only [hostConnectionWindowSize] at above
    omega

/-- The connection after the client preface. -/
def prefaceConn : Conn := run sampleCtx accept [.read [prefaceInput]]

/-- A DATA frame of the largest size on stream 1, which is idle. -/
def fullFrame : DataFrame := ⟨1, false, ⟨16384, [], by decide, by decide⟩, prefaceInput⟩

/-- 513 DATA frames of the largest size: 8,404,992 bytes, more than `TARGET/2`. -/
def halfTargetFrames : List DataFrame := List.replicate 513 fullFrame

/-- Over `halfTargetFrames` the window falls to `TARGET/2` on the way, so at least one
    connection-level WINDOW_UPDATE is sent. -/
theorem window_update_after_half_target :
    WindowInRange (receiveData sampleCtx prefaceConn halfTargetFrames).inputWindow ∧
      (∃ raise : List Nat, (receiveData sampleCtx prefaceConn halfTargetFrames).connIncrements =
          prefaceConn.connIncrements ++ raise ∧ ∀ n ∈ raise, RaiseIncrement n ∧ n ≤ int32Max) ∧
      (dataBytes halfTargetFrames : Int) + (receiveData sampleCtx prefaceConn halfTargetFrames).inputWindow =
        prefaceConn.inputWindow + ((receiveData sampleCtx prefaceConn halfTargetFrames).connIncrements.sum : Nat) -
          (prefaceConn.connIncrements.sum : Nat) ∧
      (dataBytes halfTargetFrames : Int) <
        hostStreamInitialWindowSize + ((receiveData sampleCtx prefaceConn halfTargetFrames).connIncrements.sum : Nat) ∧
      prefaceConn.connIncrements.sum < (receiveData sampleCtx prefaceConn halfTargetFrames).connIncrements.sum := by
  obtain ⟨range, raised, conserved, below⟩ :=
    conn_window_half_to_full sampleCtx (show Reachable sampleCtx prefaceConn from Reachable.run _ .accept) (by decide)
      halfTargetFrames
  refine ⟨range, raised, conserved, below, ?_⟩
  have bytes : dataBytes halfTargetFrames = 8404992 := by
    simp only [dataBytes, halfTargetFrames, List.map_replicate, List.sum_replicate, Nat.nsmul_eq_mul]
    rfl
  have start : prefaceConn.inputWindow = 16777216 := by decide
  have above := range.1
  rw [bytes, start] at conserved
  simp only [hostConnectionWindowSize] at above
  omega

/-! ### Push ids -/

/-- In every reachable state `push_stream_ids.max_open` is even and at most `0x7ffffffe`, and
    along any run it never falls. `push_path` opens nothing, or opens the stream
    `max_open + 2`, at most `0x7ffffff0`, and raises `max_open` to it, having found push
    enabled, the peer's limit not reached, the connection not closing and no request pending.
    So the pushed ids are even and strictly increasing. Once `max_open` is at least
    `0x7ffffff0`, as after `handle_goaway_frame`, `push_path` opens nothing in any later state. -/
theorem push_ids_even_increasing_bounded (r : Reachable ctx c) (srcId : Nat) (path : List UInt8)
    (isCritical allowed : Bool) :
    c.pushMaxOpen % 2 = 0 ∧ c.pushMaxOpen ≤ 0x7ffffffe ∧
      (∀ es, c.pushMaxOpen ≤ (run ctx c es).pushMaxOpen) ∧
      (pushPath ctx c srcId path isCritical allowed = c ∨
        PushGuards ctx c ∧ (pushPath ctx c srcId path isCritical allowed).pushMaxOpen = c.pushMaxOpen + 2 ∧
          c.pushMaxOpen + 2 ≤ 0x7ffffff0) ∧
      (0x7ffffff0 ≤ c.pushMaxOpen →
        ∀ es, pushPath ctx (run ctx c es) srcId path isCritical allowed = run ctx c es) := by
  have h := r.flowOk
  have ok := h.view
  refine ⟨ok.pushEven, ok.pushBelow, run_pushMaxOpen_mono ctx h, ?_, fun goaway es => ?_⟩
  · rcases pushPath_flow ctx h.kept ok.pushEven srcId path isCritical allowed with same | ⟨guards, k⟩
    · exact .inl same
    · have even := ok.pushEven
      have left := guards.idsLeft
      exact .inr ⟨guards, congrArg FlowView.pushMaxOpen k.flow, by simp only [Conn.flow] at even; omega⟩
  · have later := run_flowOk ctx es h.atOwnFloor
    rcases pushPath_flow ctx later.kept later.view.pushEven srcId path isCritical allowed with same | ⟨guards, -⟩
    · exact same
    · have raised := later.view.floor_le
      have left := guards.idsLeft
      simp only [Conn.flow] at raised
      omega

theorem push_ids_after_preface :
    prefaceConn.pushMaxOpen % 2 = 0 ∧ prefaceConn.pushMaxOpen ≤ 0x7ffffffe ∧
      (∀ es, prefaceConn.pushMaxOpen ≤ (run sampleCtx prefaceConn es).pushMaxOpen) ∧
      (pushPath sampleCtx prefaceConn 1 [] false true = prefaceConn ∨
        PushGuards sampleCtx prefaceConn ∧
          (pushPath sampleCtx prefaceConn 1 [] false true).pushMaxOpen = prefaceConn.pushMaxOpen + 2 ∧
          prefaceConn.pushMaxOpen + 2 ≤ 0x7ffffff0) ∧
      (0x7ffffff0 ≤ prefaceConn.pushMaxOpen →
        ∀ es, pushPath sampleCtx (run sampleCtx prefaceConn es) 1 [] false true = run sampleCtx prefaceConn es) :=
  push_ids_even_increasing_bounded sampleCtx (Reachable.run _ .accept) 1 [] false true

end H2oHttp2
