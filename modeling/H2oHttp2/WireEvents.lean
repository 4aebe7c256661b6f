import H2oHttp2.WireHandlers
import H2oHttp2.Shutdown

/-!
# The writer and the events keep the invariant

`do_emit_writereq` hands `_write.buf` to the socket only when it is entered with the socket
idle and the write timer unlinked (`doEmitWritereq_ordered`); every caller enters it so. On
the way from `on_write_complete` to it, the proceed callbacks may run requests, which leave
the socket alone (`SocketKept`). With the handlers of `WireHandlers`, every event keeps
`WireOrdered` (`step_ordered`), so every reachable connection satisfies it
(`Reachable.wireOrdered`).

Hence the GOAWAY frames a connection sends have non-increasing last-stream-ids, none below
`pull_stream_ids.max_open` (`goaway_ids_nonincreasing`), and at most one write is outstanding,
with none of the writer's assertions failing (`single_write_outstanding`).
-/
namespace H2oHttp2

/-! ### The socket's part of the view -/

/-- The socket's part of the view: the write in flight, and whether the socket writes or
    waits to write. -/
def WireView.socket (v : WireView) : Bool × Bool × Bool := (v.inFlight, v.writing, v.notifying)

/-- `c'` has the socket's part of the view `c` had. -/
def SocketKept (c c' : Conn) : Prop := c'.wire.socket = c.wire.socket

namespace SocketKept

variable {c c' c'' : Conn}

theorem of_wire (same : c'.wire = c.wire) : SocketKept c c' := congrArg WireView.socket same

theorem trans (first : SocketKept c c') (second : SocketKept c' c'') : SocketKept c c'' :=
  Eq.trans second first

theorem ite {p : Prop} [Decidable p] {a b : Conn} (ha : SocketKept c a) (hb : SocketKept c b) :
    SocketKept c (if p then a else b) := by
  split
  · exact ha
  · exact hb

end SocketKept

variable (ctx : Ctx) {c : Conn} (id : Nat)

theorem Conn.check_socket (c : Conn) (cond : Bool) (k : Check) : SocketKept c (c.check cond k) := by
  unfold Conn.check
  split <;> rfl

theorem connRequestWrite_socket (c : Conn) : SocketKept c (connRequestWrite c) := by
  rcases connRequestWrite_wire c with same | ⟨-, -, linked⟩
  · exact .of_wire same
  · unfold SocketKept
    rw [linked]
    rfl

theorem updateIdleTimeout_socket (c : Conn) : SocketKept c (updateIdleTimeout c) := by
  unfold updateIdleTimeout
  split
  · exact Conn.check_socket c _ _
  · exact .ite rfl (.ite rfl rfl)

theorem sendWindowUpdate_socket (c : Conn) (streamId delta : Nat) :
    SocketKept c (sendWindowUpdate c streamId delta) := by
  unfold sendWindowUpdate
  lift_lets
  intro c1 avail
  have k1 : SocketKept c c1 := ((Conn.check_socket c _ _).trans rfl).trans (connRequestWrite_socket _)
  split
  · exact k1
  · exact .ite k1 k1

theorem updateStreamInputWindow_socket (c : Conn) (delta : Nat) :
    SocketKept c (updateStreamInputWindow c id delta) := by
  unfold updateStreamInputWindow
  lift_lets
  intro c1 s
  have k1 : SocketKept c c1 := .of_wire (Conn.modifyStream_wire c _ _)
  exact .ite ((k1.trans (sendWindowUpdate_socket c1 _ _)).trans (.of_wire (Conn.modifyStream_wire _ _ _))) k1

theorem processRequest_socket (c : Conn) : SocketKept c (processRequest ctx c id) := by
  unfold processRequest processRequestWith
  lift_lets
  intro s c2 _ c3 c1 c4
  have k3 : SocketKept c c3 := (Conn.check_socket c _ _).trans (.of_wire (Conn.with_numStreams_wire c2 _))
  have k1 : SocketKept c c1 :=
    .ite ((k3.trans (.of_wire (Conn.modifyStream_wire c3 _ _))).trans (updateStreamInputWindow_socket id _ _))
      (.ite (.of_wire (by simp)) rfl)
  have k4 : SocketKept c c4 := .ite (k1.trans (.of_wire (Conn.with_pullMaxProcessed_wire c1 _))) k1
  exact k4.trans (.of_wire (h2oProcessRequest_wire c4 id))

theorem runPendingPass_socket (c : Conn) (ids : List Nat) : SocketKept c (runPendingPass h2oProcessRequest ctx c ids).1 := by
  induction ids generalizing c with
  | nil => rfl
  | cons next rest ih =>
    unfold runPendingPass
    split
    · rfl
    · split
      · exact ih c
      · exact ((SocketKept.of_wire (Conn.unlink_wire c next)).trans (processRequest_socket ctx next _)).trans (ih _)

theorem runPendingLoop_socket (fuel : Nat) (c : Conn) : SocketKept c (runPendingLoop h2oProcessRequest ctx fuel c) := by
  induction fuel generalizing c with
  | zero => rfl
  | succ n ih =>
    have pass := runPendingPass_socket ctx c c.pendingReqs
    unfold runPendingLoop
    dsimp only
    split
    · exact pass.trans (ih _)
    · exact pass

theorem connUnregisterStream_socket (c : Conn) : SocketKept c (connUnregisterStream ctx c id) := by
  have k1 : SocketKept c (connReleaseStream c id) := .of_wire (connReleaseStream_wire c id)
  unfold connUnregisterStream
  dsimp only
  exact .ite ((k1.trans (runPendingLoop_socket ctx _ _)).trans (updateIdleTimeout_socket _)) k1

theorem streamProceed_socket (c : Conn) : SocketKept c (streamProceed ctx c id) := by
  unfold streamProceed
  dsimp only
  split
  · split
    · exact connUnregisterStream_socket ctx id c
    · exact connUnregisterStream_socket ctx id c
    · rfl
  · exact .ite (.of_wire (streamSetBlockedByServer_wire c id _)) rfl

theorem proceedStreams_socket (fuel : Nat) (c : Conn) : SocketKept c (proceedStreams ctx fuel c) := by
  induction fuel generalizing c with
  | zero => rfl
  | succ n ih =>
    unfold proceedStreams
    split
    · rfl
    · rename_i next _ _
      exact (((Conn.check_socket c _ _).trans (.of_wire (Conn.unlink_wire _ next))).trans
        (streamProceed_socket ctx next _)).trans (ih _)

/-! ### The writer's moves -/

namespace WireView.Ordered

variable {v : WireView} (h : v.Ordered)
include h

/-- `do_emit_writereq` hands the buffer to the socket: a write is in flight, the socket
    writes, and the idle timer is linked. -/
theorem startWrite (timer : v.writeTimer = false) (notNotifying : v.notifying = false) :
    { v with inFlight := true, writing := true, idleTimer := true }.Ordered :=
  { h with
    inFlightWriting := rfl
    timerIdle := fun linked => absurd (timer ▸ linked) Bool.false_ne_true
    inFlightTimed := fun _ => rfl
    notBoth := fun _ => notNotifying }

/-- `on_write_complete` takes the buffer back from the socket. -/
theorem finishWrite : { v with inFlight := false, writing := false }.Ordered :=
  { h with
    inFlightWriting := rfl
    timerIdle := fun linked => ⟨rfl, (h.timerIdle linked).2⟩
    inFlightTimed := fun f => absurd f Bool.false_ne_true
    notBoth := fun f => absurd f Bool.false_ne_true }

/-- Unlinking the write timer. -/
theorem unlinkWriteTimer : { v with writeTimer := false }.Ordered :=
  { h with timerIdle := fun f => absurd f Bool.false_ne_true }

/-- `h2o_socket_notify_write` while the socket is idle and the write timer unlinked. -/
theorem startNotify (notWriting : v.writing = false) (timer : v.writeTimer = false) :
    { v with notifying := true }.Ordered :=
  { h with
    timerIdle := fun linked => absurd (timer ▸ linked) Bool.false_ne_true
    notBoth := fun w => absurd (notWriting ▸ w) Bool.false_ne_true }

/-- `on_notify_write`: the notification has come. -/
theorem stopNotify : { v with notifying := false }.Ordered :=
  { h with
    timerIdle := fun linked => ⟨(h.timerIdle linked).1, rfl⟩
    notBoth := fun _ => rfl }

/-- While a write is in flight the write timer is unlinked. -/
theorem timer_of_inFlight (busy : v.inFlight = true) : v.writeTimer = false :=
  Bool.eq_false_iff.2 fun linked => by
    have idle := (h.timerIdle linked).1
    rw [← h.inFlightWriting, busy] at idle
    exact Bool.noConfusion idle

/-- A linked write timer means the socket is idle. -/
theorem idle_of_timer (linked : v.writeTimer = true) : v.socket = (false, false, false) := by
  obtain ⟨writing, notifying⟩ := h.timerIdle linked
  simp [WireView.socket, h.inFlightWriting, writing, notifying]

end WireView.Ordered

theorem WireOrdered.ite_of {p : Prop} [Decidable p] {a b : Conn} (ha : p → WireOrdered a) (hb : ¬p → WireOrdered b) :
    WireOrdered (if p then a else b) := by
  split
  · exact ha ‹_›
  · exact hb ‹_›

theorem WireOrdered.of_view {c : Conn} {v : WireView} (same : c.wire = v) (h : v.Ordered) : WireOrdered c := by
  unfold WireOrdered
  rw [same]
  exact h

/-! ### The writer -/

variable (c) in
@[simp] theorem streamSendPendingData_wire : (streamSendPendingData c id).wire = c.wire := by
  unfold streamSendPendingData
  lift_lets
  intro s n final c1 c2 _ c3
  have w1 : c1.wire = c.wire := by
    dsimp only [c1]
    split
    · exact Conn.encode_wire c rfl
    · rfl
  have w3 : c3.wire = c.wire := (Conn.with_window_wire c2 _).trans ((Conn.modifyStream_wire c1 _ _).trans w1)
  split
  · rfl
  · split
    · exact (streamSetState_wire c3 id _).trans w3
    · exact w3

variable (c) in
@[simp] theorem emitWritereqOfOpenref_wire : (emitWritereqOfOpenref c id).conn.wire = c.wire := by
  unfold emitWritereqOfOpenref
  lift_lets
  intro s c1 c2 s2 _
  have w2 : c2.wire = c.wire := (streamSendPendingData_wire c1 id).trans (Conn.check_wire c _ rfl)
  split
  rename_i c3 still pair
  split at pair <;> obtain ⟨rfl, -⟩ := Prod.mk.inj pair
  · exact w2
  · exact (Conn.with_streamsToProceed_wire c2 _).trans w2

variable (c) in
@[simp] theorem schedulerRunPass_wire (ids : List Nat) : (schedulerRunPass c ids).wire = c.wire := by
  induction ids generalizing c with
  | nil => rfl
  | cons next rest ih =>
    unfold schedulerRunPass
    dsimp only
    have w := emitWritereqOfOpenref_wire c next
    have w1 : (if (emitWritereqOfOpenref c next).stillIsActive then (emitWritereqOfOpenref c next).conn
        else schedulerSetActive (emitWritereqOfOpenref c next).conn next false).wire = c.wire := by
      split
      · exact w
      · exact (schedulerSetActive_wire _ next _).trans w
    split
    · exact w1
    · exact (ih _).trans w1

variable (c) in
@[simp] theorem schedulerRun_wire : (schedulerRun c).wire = c.wire := schedulerRunPass_wire c _

theorem Conn.with_writeTimer_wire (c : Conn) (b : Bool) :
    { c with write := { c.write with timeoutEntry := b } }.wire = { c.wire with writeTimer := b } := rfl

theorem Conn.with_notifying_wire (c : Conn) (b : Bool) :
    { c with sock := { c.sock with notifying := b } }.wire = { c.wire with notifying := b } := rfl

theorem Conn.with_bufReleased_wire (c : Conn) :
    { c with write := { c.write with bufInFlight := none } }.wire = { c.wire with inFlight := false } := rfl

theorem Conn.with_startWrite_wire (c : Conn) :
    { c with sock := { c.sock with writing := true },
             write := { c.write with bufInFlight := some c.write.buf, buf := [] },
             timeoutEntry := true }.wire = { c.wire with inFlight := true, writing := true, idleTimer := true } := rfl

/-- `do_emit_writereq` keeps the invariant when it is entered with the socket idle and the
    write timer unlinked. -/
theorem doEmitWritereq_ordered (h : WireOrdered c) (idle : c.wire.socket = (false, false, false))
    (timer : c.write.timeoutEntry = false) : WireOrdered (doEmitWritereq ctx c) := by
  have notInFlight : c.write.bufInFlight.isNone = true := by
    simp only [Conn.wire, WireView.socket, Prod.mk.injEq] at idle
    cases hb : c.write.bufInFlight <;> simp_all
  unfold doEmitWritereq
  lift_lets
  intro c1 c2 _ _ c3
  have w1 : c1.wire = c.wire := by simp only [c1, notInFlight, Conn.check_true]
  have w2 : c2.wire = c.wire := by
    dsimp only [c2]
    split
    · exact (schedulerRun_wire c1).trans w1
    · exact w1
  have h2 : WireOrdered c2 := WireOrdered.of_wire w2 h
  have h3 : WireOrdered c3 := by
    dsimp only [c3]
    split
    · refine WireOrdered.of_view (Conn.with_startWrite_wire c2) ?_
      rw [w2]
      exact h.startWrite timer (congrArg (fun s : Bool × Bool × Bool => s.2.2) idle)
    · exact h2
  cases c3.state
  · exact h3
  · exact .ite h3 (closeConnection_ordered ctx h3.close)
  · exact closeConnection_ordered ctx h3

theorem streamProceed_ordered (h : WireOrdered c) : WireOrdered (streamProceed ctx c id) := by
  unfold streamProceed
  dsimp only
  split
  · split
    · exact streamClose_ordered ctx id h
    · exact streamClose_ordered ctx id h
    · exact h
  · exact .ite (streamSetBlockedByServer_ordered id h _) h

theorem proceedStreams_ordered (fuel : Nat) (h : WireOrdered c) : WireOrdered (proceedStreams ctx fuel c) := by
  induction fuel generalizing c with
  | zero => exact h
  | succ n ih =>
    unfold proceedStreams
    split
    · exact h
    · rename_i next _ _
      exact ih (streamProceed_ordered ctx next
        (WireOrdered.of_wire (Conn.unlink_wire _ next) (Conn.check_ordered _ (by rfl) h)))

/-- `on_write_complete` keeps the invariant: the write it completes was the only one. -/
theorem onWriteComplete_ordered (h : WireOrdered c) (writing : c.sock.writing = true) (err : Bool) :
    WireOrdered (onWriteComplete ctx c err) := by
  have notNotifying : c.sock.notifying = false := h.notBoth writing
  have busy : c.write.bufInFlight.isSome = true := h.inFlightWriting.trans writing
  have timer : c.write.timeoutEntry = false :=
    Bool.eq_false_iff.2 fun linked => by simpa [Conn.wire, writing] using (h.timerIdle linked).1
  unfold onWriteComplete
  lift_lets
  intro _ c0 c1 _ c2 _ c3 c4 _ c5 _
  have w1 : c1.wire = { c.wire with writing := false } := by simp only [c1, c0, busy, Conn.check_true]; rfl
  split
  · refine WireOrdered.of_view (closeConnectionNow_wire ctx c1 (by simp [c1, c0, timer])) ?_
    rw [w1]
    exact h.closeNow
  · have w2 : c2.wire = { c.wire with inFlight := false, writing := false } := by
      rw [show c2.wire = { c1.wire with inFlight := false } from Conn.with_bufReleased_wire c1, w1]
    have h2 : WireOrdered c2 := WireOrdered.of_view w2 h.finishWrite
    have idle2 : c2.wire.socket = (false, false, false) := by
      rw [w2]
      simp [WireView.socket, Conn.wire, notNotifying]
    have h3 : WireOrdered c3 := .ite (proceedStreams_ordered ctx _ h2) h2
    have k3 : SocketKept c2 c3 := .ite (proceedStreams_socket ctx _ c2) rfl
    have h5 : WireOrdered c5 :=
      WireOrdered.of_view (Conn.with_writeTimer_wire c4 false) (updateIdleTimeout_ordered h3).unlinkWriteTimer
    have idle5 : c5.wire.socket = (false, false, false) := Eq.trans (k3.trans (updateIdleTimeout_socket c3)) idle2
    split
    · exact .ite (WireOrdered.of_view (Conn.with_notifying_wire c5 true)
        (h5.startNotify (congrArg (fun s : Bool × Bool × Bool => s.2.1) idle5) rfl)) h5
    · exact doEmitWritereq_ordered ctx h5 idle5 rfl

/-- `on_notify_write` keeps the invariant. -/
theorem onNotifyWrite_ordered (h : WireOrdered c) (notifying : c.sock.notifying = true) (err : Bool) :
    WireOrdered (onNotifyWrite ctx c err) := by
  have notWriting : c.sock.writing = false :=
    Bool.eq_false_iff.2 fun w => by simpa [Conn.wire, notifying] using h.notBoth w
  have timer : c.write.timeoutEntry = false :=
    Bool.eq_false_iff.2 fun linked => by simpa [Conn.wire, notifying] using (h.timerIdle linked).2
  have idle : ({ c with sock := { c.sock with notifying := false } } : Conn).wire.socket = (false, false, false) := by
    rw [Conn.with_notifying_wire]
    show (c.wire.inFlight, c.wire.writing, false) = _
    rw [h.inFlightWriting]
    simp [Conn.wire, notWriting]
  have h1 := WireOrdered.of_view (Conn.with_notifying_wire c false) h.stopNotify
  unfold onNotifyWrite
  split
  · exact closeConnectionNow_ordered ctx h1 timer
  · exact doEmitWritereq_ordered ctx h1 idle timer

/-- The write timer fires. -/
theorem emitWritereq_ordered (h : WireOrdered c) (linked : c.write.timeoutEntry = true) :
    WireOrdered (emitWritereq ctx c) :=
  doEmitWritereq_ordered ctx (WireOrdered.of_view (Conn.with_writeTimer_wire c false) h.unlinkWriteTimer)
    (h.idle_of_timer linked) rfl

/-! ### The events -/

theorem Conn.with_reading_wire (c : Conn) (b : Bool) : { c with sock := { c.sock with reading := b } }.wire = c.wire :=
  rfl

theorem Conn.with_timeoutEntry_wire (c : Conn) (b : Bool) :
    { c with timeoutEntry := b }.wire = { c.wire with idleTimer := b } := rfl

theorem Conn.encode_goaway_wire (c : Conn) (lastStreamId : Nat) (errnum : Int) (data : Option String) :
    (c.encode (.goaway lastStreamId errnum data)).wire = { c.wire with goawayIds := c.wire.goawayIds ++ [lastStreamId] } := by
  simp [Conn.wire, Conn.encode, Conn.goawayIds, Trace.goawayLastStreamId]

theorem createConn_ordered : WireOrdered createConn :=
  show createConn.wire.Ordered from
  { nonincreasing := List.Pairwise.nil
    maxOpenBelow := fun _ member => absurd member (List.not_mem_nil _)
    advisoryWhileOpen := fun _ _ member => absurd member (List.not_mem_nil _)
    maxOpenBounded := Nat.zero_le _
    inFlightWriting := rfl
    timerIdle := fun linked => Bool.noConfusion linked
    inFlightTimed := fun busy => Bool.noConfusion busy
    notBoth := fun writing => Bool.noConfusion writing
    checksHeld := rfl }

theorem accept_ordered : WireOrdered accept :=
  updateIdleTimeout_ordered (WireOrdered.of_wire (Conn.with_reading_wire createConn true) createConn_ordered)

theorem handleUpgrade_ordered {params : List (Nat × Nat)} {trailing : Nat}
    (upgraded : handleUpgrade params trailing = some c) : WireOrdered c := by
  unfold handleUpgrade at upgraded
  dsimp only at upgraded
  split at upgraded
  · cases upgraded
  · cases upgraded
    exact streamPrepareForRequest_ordered 1 (WireOrdered.of_wire (schedulerOpen_wire _ 1 _ _)
      (streamOpen_ordered 1 (WireOrdered.of_wire (Conn.with_peerSettings_wire createConn _) createConn_ordered) _))
      (by decide)

theorem onUpgradeComplete_ordered (h : WireOrdered c) (sockOk : Bool) : WireOrdered (onUpgradeComplete ctx c sockOk) :=
  .ite (closeConnection_ordered ctx h)
    (executeOrEnqueueRequest_ordered ctx 1 (WireOrdered.of_wire (Conn.with_reading_wire c true) h))

theorem onRead_ordered (h : WireOrdered c) (inputs : List Input) : WireOrdered (onRead ctx c inputs) := by
  unfold onRead
  lift_lets
  intro parsed c1 c2 _
  have h1 : WireOrdered c1 := parseInput_ordered ctx inputs h
  have h2 : WireOrdered c2 := updateIdleTimeout_ordered h1
  split
  · exact h1
  · split
    · rename_i _ linked
      exact doEmitWritereq_ordered ctx (WireOrdered.of_view (Conn.with_writeTimer_wire c2 false) h2.unlinkWriteTimer)
        (h2.idle_of_timer linked) rfl
    · exact h2

theorem onReadError_ordered (h : WireOrdered c) : WireOrdered (onReadError ctx c) :=
  closeConnection_ordered ctx (WireOrdered.of_wire (Conn.with_reading_wire c false) h)

theorem onIdleTimeout_ordered (h : WireOrdered c) : WireOrdered (onIdleTimeout ctx c) := by
  unfold onIdleTimeout
  lift_lets
  intro c1
  split
  · rename_i busy
    refine WireOrdered.of_view (closeConnectionNow_wire ctx c1 (h.timer_of_inFlight busy)) ?_
    exact h.closeNow
  · rename_i idle
    have h1 : WireOrdered c1 := WireOrdered.of_view (Conn.with_timeoutEntry_wire c false)
      (h.setIdleTimer false (Bool.eq_false_iff.2 idle))
    exact closeConnection_ordered ctx (enqueueGoaway_ordered h1 _ _)

theorem gracefulShutdownResendGoaway_ordered (h : WireOrdered c) :
    WireOrdered (gracefulShutdownResendGoaway ctx c) := by
  unfold gracefulShutdownResendGoaway
  lift_lets
  intro c1
  have h1 : WireOrdered c1 := enqueueGoaway_ordered h _ _
  exact .ite (.ite (WireOrdered.of_wire (Conn.with_gracefulShutdown_wire c1 _) h1) h1) h

theorem onGracefulShutdownTimeout_ordered (h : WireOrdered c) : WireOrdered (onGracefulShutdownTimeout ctx c) := by
  have h1 := WireOrdered.of_wire (Conn.with_gracefulShutdown_wire c { c.gracefulShutdown with linked := false }) h
  unfold onGracefulShutdownTimeout
  dsimp only
  split
  · exact gracefulShutdownResendGoaway_ordered ctx h1
  · exact closeConnection_ordered ctx h1
  · exact h1

theorem initiateGracefulShutdown_ordered (h : WireOrdered c) : WireOrdered (initiateGracefulShutdown c) := by
  unfold initiateGracefulShutdown
  lift_lets
  intro c1 c2
  have h1 : WireOrdered c1 := Conn.check_ordered _ (by rfl) h
  have h2 : WireOrdered c2 := by
    dsimp only [c2]
    split
    · rename_i open'
      have opened : c1.state = .opened := by
        revert open'
        cases c1.state <;> decide
      exact connRequestWrite_ordered (WireOrdered.of_view (Conn.encode_goaway_wire c1 _ _ _) (h1.advisoryGoaway opened))
    · exact h1
  exact WireOrdered.of_wire (Conn.with_gracefulShutdown_wire c2 _) h2

theorem pushPath_ordered (h : WireOrdered c) (srcId : Nat) (path : List UInt8) (isCritical allowed : Bool) :
    WireOrdered (pushPath ctx c srcId path isCritical allowed) := by
  unfold pushPath
  refine .ite h (.ite h (.ite h (.ite_of (fun _ => h) fun room => .ite h (.ite h ?_))))
  lift_lets
  intro pushed c1 c2 c3 c4 s
  have h1 : WireOrdered c1 := streamOpen_ordered pushed (WireOrdered.of_wire (Conn.with_pushMemo_wire c _) h) _
  have h2 : WireOrdered c2 := WireOrdered.of_wire (Conn.modifyStream_wire c1 _ _) h1
  have h3 : WireOrdered c3 :=
    .ite (WireOrdered.of_wire (schedulerOpen_wire c2 pushed _ _) h2) (WireOrdered.of_wire (schedulerOpen_wire c2 pushed _ _) h2)
  have bound : pushed < 0x80000000 := by
    simp only [pushed]
    omega
  have h4 : WireOrdered c4 := executeOrEnqueueRequest_ordered ctx pushed (streamPrepareForRequest_ordered pushed h3 bound)
  exact .ite (WireOrdered.of_wire (Conn.modifyStream_wire _ _ _) (Conn.encode_ordered (by rfl) h4)) h4

theorem installWriteReq_ordered (h : WireOrdered c) : WireOrdered (installWriteReq c id) :=
  WireOrdered.of_wire (Conn.modifyStream_wire c _ _) h

theorem step_appCall_ordered (h : WireOrdered c) (e : Event) {r : Conn} (hr : WireOrdered r) :
    WireOrdered (step.appCall c id e r) := by
  unfold step.appCall
  split
  · exact .ite hr h
  · exact h

/-- One event keeps the invariant. -/
theorem step_ordered (h : WireOrdered c) (e : Event) : WireOrdered (step ctx c e) := by
  unfold step
  split
  · exact h
  cases e with
  | read inputs => exact .ite (onRead_ordered ctx h inputs) h
  | readError => exact .ite (onReadError_ordered ctx h) h
  | writeComplete err =>
    show WireOrdered (if c.sock.writing then _ else c)
    split
    · rename_i writing
      exact onWriteComplete_ordered ctx h writing err
    · exact h
  | notifyWrite err =>
    show WireOrdered (if c.sock.notifying then _ else c)
    split
    · rename_i notifying
      exact onNotifyWrite_ordered ctx h notifying err
    · exact h
  | writeTimer =>
    show WireOrdered (if c.write.timeoutEntry then _ else c)
    split
    · rename_i linked
      exact emitWritereq_ordered ctx h linked
    · exact h
  | idleTimeout => exact .ite (onIdleTimeout_ordered ctx h) h
  | gracefulTimer => exact .ite (onGracefulShutdownTimeout_ordered ctx h) h
  | requestShutdown => exact initiateGracefulShutdown_ordered h
  | requestWrite => exact connRequestWrite_ordered h
  | installWriteReq id => exact step_appCall_ordered id h _ (installWriteReq_ordered id h)
  | proceedReq id errstr writeOk => exact step_appCall_ordered id h _ (proceedRequest_ordered ctx id h errstr writeOk)
  | send id bytes final => exact step_appCall_ordered id h _ (finalostreamSend_ordered id h bytes final)
  | pushPath id path isCritical allowed =>
    exact step_appCall_ordered id h _ (pushPath_ordered ctx h id path isCritical allowed)

/-- Every reachable connection keeps its GOAWAY frames in order and one write at a time. -/
theorem Reachable.wireOrdered {ctx : Ctx} (r : Reachable ctx c) : WireOrdered c := by
  induction r with
  | accept => exact accept_ordered
  | upgrade sockOk upgraded => exact onUpgradeComplete_ordered ctx (handleUpgrade_ordered upgraded) sockOk
  | step e _ ih => exact step_ordered ctx ih e

/-! ### The results -/

/-- The GOAWAY frames of a connection have non-increasing last-stream-ids, none is below
    `pull_stream_ids.max_open`, so that `max_open` does not grow after the first
    `enqueue_goaway`, and while the connection is open only the advisory GOAWAY of a graceful
    shutdown has been sent. -/
theorem goaway_ids_nonincreasing {ctx : Ctx} (r : Reachable ctx c) :
    c.goawayIds.Pairwise (· ≥ ·) ∧ (∀ g ∈ c.goawayIds, c.pullMaxOpen ≤ g) ∧
      (c.state = .opened → ∀ g ∈ c.goawayIds, g = int32Max) :=
  ⟨r.wireOrdered.nonincreasing, r.wireOrdered.maxOpenBelow, r.wireOrdered.advisoryWhileOpen⟩

/-- The graceful shutdown of `connectRun` sends GOAWAY with `2^31 - 1` and then with `0`. -/
theorem goaway_ids_nonincreasing_after_shutdown :
    connectConn.goawayIds.Pairwise (· ≥ ·) ∧ (∀ g ∈ connectConn.goawayIds, connectConn.pullMaxOpen ≤ g) ∧
      (connectConn.state = .opened → ∀ g ∈ connectConn.goawayIds, g = int32Max) :=
  goaway_ids_nonincreasing (Reachable.run connectRun .accept)

/-- At most one write is outstanding: none of the writer's assertions (lines 151, 368, 407,
    1422 and 1505) fails, the write timer is linked only while the socket neither writes nor
    waits to, `_write.buf_in_flight` is set exactly while the socket writes, and the idle timer
    is linked while it is. -/
theorem single_write_outstanding {ctx : Ctx} (r : Reachable ctx c) :
    (∀ k ∈ c.failed, k.aboutWriter = false) ∧
      (c.write.timeoutEntry = true → c.sock.writing = false ∧ c.sock.notifying = false) ∧
      c.write.bufInFlight.isSome = c.sock.writing ∧
      (c.write.bufInFlight.isSome = true → c.timeoutEntry = true) := by
  have h := r.wireOrdered
  refine ⟨?_, h.timerIdle, h.inFlightWriting, h.inFlightTimed⟩
  simpa [Conn.wire, List.all_eq_true] using h.checksHeld

/-- The run of `closingRun` ends closing with a write in flight and a failed assertion of
    `stream_send_error`, but no failed assertion of the writer. -/
theorem single_write_outstanding_while_closing :
    (∀ k ∈ closingConn.failed, k.aboutWriter = false) ∧
      (closingConn.write.timeoutEntry = true → closingConn.sock.writing = false ∧ closingConn.sock.notifying = false) ∧
      closingConn.write.bufInFlight.isSome = closingConn.sock.writing ∧
      (closingConn.write.bufInFlight.isSome = true → closingConn.timeoutEntry = true) :=
  single_write_outstanding (Reachable.run closingRun .accept)

end H2oHttp2
