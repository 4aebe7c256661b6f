import H2oHttp2.HeaderBlocks

/-!
# Flow control: a new initial window size

`handle_settings_frame` moves every stream's send window by the change of the peer's
SETTINGS_INITIAL_WINDOW_SIZE, but drops what `update_stream_output_window` returns. A stream
whose window the change would take past `2^31 - 1` keeps its window
(`updateStreamOutputWindows_overflow`), and the frame is accepted all the same
(`handleSettingsFrame_ignores_overflow`); `initial_window_overflow_ignored` reaches such a
stream by a WINDOW_UPDATE.
-/
namespace H2oHttp2

/-! ### Handlers -/

theorem requestGatheredWrite_streams (c : Conn) : (requestGatheredWrite c).streams = c.streams := by
  unfold requestGatheredWrite
  dsimp only
  split <;> simp

theorem connRequestWrite_streams (c : Conn) : (connRequestWrite c).streams = c.streams := by
  unfold connRequestWrite
  split
  · rfl
  · exact requestGatheredWrite_streams c

theorem resumeSend_streams (c : Conn) : (resumeSend c).streams = c.streams := by
  unfold resumeSend
  split
  · rfl
  · exact requestGatheredWrite_streams c

/-- Moving one stream's send window leaves every other stream's window alone, and a window
    the move would take past `2^31 - 1` too. -/
theorem updateStreamOutputWindow_keeps (c : Conn) (id' : Nat) (delta : Int) {id : Nat}
    (over : id' = id → (int32Max : Int) < (c.stream id).outputWindow + delta) :
    ((updateStreamOutputWindow c id' delta).1.stream id).outputWindow = (c.stream id).outputWindow := by
  unfold updateStreamOutputWindow
  dsimp only
  split
  · rfl
  · rename_i v hv
    by_cases same : id' = id
    · subst same
      simp only [windowUpdate] at hv
      split at hv
      · have := over rfl; omega
      · cases hv
    · have ne : id ≠ id' := Ne.symm same
      split <;> simp [schedulerSetActive, ne, apply_ite Stream.outputWindow]

/-- The loop of `handle_settings_frame` leaves the window of a stream that would overflow as it
    was, whatever else it changes. -/
theorem updateStreamOutputWindows_overflow (c : Conn) (ids : List Nat) (delta : Int) {id : Nat}
    (over : (int32Max : Int) < (c.stream id).outputWindow + delta) :
    ((updateStreamOutputWindows c ids delta).stream id).outputWindow = (c.stream id).outputWindow := by
  induction ids generalizing c with
  | nil => rfl
  | cons id' ids ih =>
    have step := updateStreamOutputWindow_keeps c id' delta fun _ => over
    simp only [updateStreamOutputWindows, List.foldl_cons] at ih ⊢
    rw [ih _ (step ▸ over), step]

/-- A SETTINGS frame whose parameters are accepted is answered with 0, even when the new initial
    window size would take a stream's send window past `2^31 - 1`; that stream keeps its window. -/
theorem handleSettingsFrame_ignores_overflow (c : Conn) (params : List (Nat × Nat)) (trailing : Nat) {id : Nat}
    (accepted : (updatePeerSettings c.peerSettings params trailing).2.1 = 0)
    (over : (int32Max : Int) < (c.stream id).outputWindow +
      ((updatePeerSettings c.peerSettings params trailing).1.initialWindowSize - c.peerSettings.initialWindowSize : Int)) :
    (handleSettingsFrame c 0 false params trailing).ret = 0 ∧
      ((handleSettingsFrame c 0 false params trailing).conn.stream id).outputWindow = (c.stream id).outputWindow := by
  simp only [handleSettingsFrame, accepted, ne_eq, not_true_eq_false, ite_false, Bool.false_eq_true]
  have streams : ∀ c' : Conn, (connRequestWrite (c'.encode .settingsAck)).streams = c'.streams := fun c' =>
    connRequestWrite_streams _
  split
  · refine ⟨rfl, ?_⟩
    rw [Conn.stream_congr (resumeSend_streams _), updateStreamOutputWindows_overflow _ _ _ ?_]
    · exact congrArg Stream.outputWindow (Conn.stream_congr (streams _) id)
    · simpa [Conn.stream_congr (streams _)] using over
  · exact ⟨rfl, congrArg Stream.outputWindow (Conn.stream_congr (streams _) id)⟩

/-! ### A run -/

/-- A WINDOW_UPDATE frame. -/
def windowUpdateInput (id : Nat) (increment : Nat) (lt : id < 0x80000000) : Input :=
  ⟨.frame (.windowUpdate id (.ok increment)) lt trivial, false, true⟩

/-- A SETTINGS frame with the given parameters. -/
def settingsInput (params : List (Nat × Nat)) : Input :=
  ⟨.frame (.settings 0 false params 0) (Nat.zero_lt_succ _) trivial, false, true⟩

/-- HEADERS on stream 1 ending the stream, then WINDOW_UPDATE raising stream 1's send window to
    `2^31 - 1`. -/
def raisedRun : List Event :=
  [.read [prefaceInput, headersInput 1 true true [1] (by decide) (by decide),
    windowUpdateInput 1 (int32Max - hostStreamInitialWindowSize) (by decide)]]

/-- The connection after `raisedRun`. -/
def raisedConn : Conn := run sampleCtx accept raisedRun

/-- The settings the peer sends next: an initial window size one above the default. -/
def raisedParams : List (Nat × Nat) := [(settingsInitialWindowSize, hostStreamInitialWindowSize + 1)]

/-- Then SETTINGS with `raisedParams`. -/
def settingsOverflowConn : Conn := run sampleCtx raisedConn [.read [settingsInput raisedParams]]

/-- Stream 1's window stands at `2^31 - 1` when the initial window size grows by one: the
    SETTINGS frame is answered with 0 and acknowledged, the connection stays open, and stream 1
    keeps its window. -/
theorem initial_window_overflow_ignored :
    Reachable sampleCtx settingsOverflowConn ∧ (raisedConn.stream 1).outputWindow = int32Max ∧
      raisedConn.peerSettings.initialWindowSize = hostStreamInitialWindowSize ∧
      (handleSettingsFrame raisedConn 0 false raisedParams 0).ret = 0 ∧
      settingsOverflowConn.peerSettings.initialWindowSize = hostStreamInitialWindowSize + 1 ∧
      (settingsOverflowConn.stream 1).outputWindow = int32Max ∧ settingsOverflowConn.state = .opened ∧
      settingsOverflowConn.log.getLast? = some (.frame .settingsAck) :=
  ⟨Reachable.run _ (Reachable.run _ .accept), by decide⟩

end H2oHttp2
