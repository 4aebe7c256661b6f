import Mathlib.Tactic.LiftLets
import H2oHttp2.HeaderBlocks

/-!
# Admission of pending requests

`run_pending_requests` scans `_pending_reqs` while `can_run_requests` holds, skips a streamed
request over the streaming limit, and unlinks and dispatches the others (`dispatch`), repeating
the scan while one dispatched and the queue is not empty. The application's
`h2o_process_request` is a parameter `app`, limited by what the loop needs of it: it enqueues
nothing into the queue (`KeepsQueue`). It may do anything else, such as end a streamed request
and so admit one a pass skipped: then a later pass dispatches it. A pass dispatches an ordered
sublist of the queue, each admissible when its turn comes (`runPendingPass_spec`); each pass
that dispatches shortens the queue, so the outer loop ends by its own condition
(`runPendingLoop_spec`), as `pending_requests_admitted_in_order` states. The relation
`Conn.Aside id` says what the part of `process_request` before the application leaves alone
(`processRequest_prefix_frame`).
-/
namespace H2oHttp2


/-- The half-closed requests `can_run_requests` counts. -/
def NumStreams.halfClosedRequests (n : NumStreams) : Nat := n.pull.halfClosed + n.push.halfClosed

namespace Conn

/-- `c'` differs from `c`, as far as `run_pending_requests` looks, only in stream `id`, and in
    `num_streams` only by more half-closed requests. -/
structure Aside (id : Nat) (c c' : Conn) : Prop where
  pendingReqs : c'.pendingReqs = c.pendingReqs
  others : ∀ id', id' ≠ id → c'.getStream id' = c.getStream id'
  halfClosed : c.numStreams.halfClosedRequests ≤ c'.numStreams.halfClosedRequests
  streaming : c'.numStreams.reqStreamingInProgress = c.numStreams.reqStreamingInProgress
  tunnel : c'.numStreams.tunnel = c.numStreams.tunnel

namespace Aside
variable {id : Nat} {c c' c'' : Conn}

theorem of_fields (pendingReqs : c'.pendingReqs = c.pendingReqs) (streams : c'.streams = c.streams)
    (numStreams : c'.numStreams = c.numStreams) : Aside id c c' :=
  ⟨pendingReqs, fun _ _ => getStream_congr streams _, numStreams ▸ le_refl _, by rw [numStreams], by rw [numStreams]⟩

theorem refl (c : Conn) : Aside id c c := of_fields rfl rfl rfl

theorem trans (h : Aside id c c') (h' : Aside id c' c'') : Aside id c c'' :=
  ⟨h'.pendingReqs.trans h.pendingReqs, fun id' ne => (h'.others id' ne).trans (h.others id' ne),
    h.halfClosed.trans h'.halfClosed, h'.streaming.trans h.streaming, h'.tunnel.trans h.tunnel⟩

theorem ite {p : Prop} [Decidable p] {a b : Conn} (ha : Aside id c a) (hb : Aside id c b) :
    Aside id c (if p then a else b) := by
  split
  · exact ha
  · exact hb

end Aside

theorem check_aside (c : Conn) (id : Nat) (b : Bool) (k : Check) : Aside id c (c.check b k) :=
  .of_fields (by simp [check_eq]) (by simp) (by simp [check_eq])

theorem encode_aside (c : Conn) (id : Nat) (f : OutFrame) : Aside id c (c.encode f) := .of_fields rfl rfl rfl

theorem modifyStream_aside (c : Conn) (id : Nat) {f : Stream → Stream} (hf : ∀ s, (f s).streamId = s.streamId) :
    Aside id c (c.modifyStream id f) :=
  ⟨rfl, fun id' ne => by simp [getStream_modifyStream c id hf, ne], le_refl _, rfl, rfl⟩

end Conn

section
variable (c : Conn) (id : Nat)

theorem requestGatheredWrite_aside : Conn.Aside id c (requestGatheredWrite c) := by
  unfold requestGatheredWrite
  dsimp only
  exact (c.check_aside _ _ _).trans (.ite (.of_fields rfl rfl rfl) (.refl _))

theorem connRequestWrite_aside : Conn.Aside id c (connRequestWrite c) := by
  unfold connRequestWrite
  exact .ite (.refl _) (requestGatheredWrite_aside c id)

theorem sendWindowUpdate_aside (delta : Nat) : Conn.Aside id c (sendWindowUpdate c id delta) := by
  unfold sendWindowUpdate
  lift_lets
  intro c1 avail
  have k1 : Conn.Aside id c c1 :=
    ((c.check_aside _ _ _).trans (Conn.encode_aside _ _ _)).trans (connRequestWrite_aside _ _)
  split
  · exact k1
  · exact .ite (k1.trans (.of_fields rfl rfl rfl)) (k1.trans (c1.modifyStream_aside _ (by intros; rfl)))

theorem updateStreamInputWindow_aside (delta : Nat) : Conn.Aside id c (updateStreamInputWindow c id delta) := by
  unfold updateStreamInputWindow
  lift_lets
  intro c1 s
  have k1 : Conn.Aside id c c1 := c.modifyStream_aside _ (by intros; rfl)
  exact .ite ((k1.trans (sendWindowUpdate_aside _ _ _)).trans (Conn.modifyStream_aside _ _ (by intros; rfl))) k1

end


theorem Conn.mapSlot_aside (c : Conn) (id : Nat) (slot : Slot) {f : NumStreamsSlot → NumStreamsSlot}
    (hf : ∀ n, n.halfClosed ≤ (f n).halfClosed) : Conn.Aside id c (c.mapSlot slot f) := by
  refine ⟨rfl, fun _ _ => rfl, ?_, by cases slot <;> rfl, by cases slot <;> rfl⟩
  cases slot <;> simp only [Conn.mapSlot, NumStreams.mapSlot, NumStreams.halfClosedRequests, le_refl]
  · exact Nat.add_le_add_right (hf _) _
  · exact Nat.add_le_add_left (hf _) _

theorem setStreamState_aside (c : Conn) (id : Nat) (new : StreamState) :
    Conn.Aside id c (c.setStreamState id new) := by
  unfold Conn.setStreamState
  exact c.modifyStream_aside _ (by intros; rfl)

theorem streamUpdateOpenSlot_aside (c : Conn) (id : Nat) (slot : Slot) :
    Conn.Aside id c (streamUpdateOpenSlot c id slot) := by
  unfold streamUpdateOpenSlot
  exact ((c.mapSlot_aside _ _ (by intros; exact le_refl _)).trans (Conn.mapSlot_aside _ _ _ (by intros; exact le_refl _))).trans
    (Conn.modifyStream_aside _ _ (by intros; rfl))

theorem streamSetState_aside (c : Conn) (id : Nat) {new : StreamState} (ne : new ≠ .endStream) :
    Conn.Aside id c (streamSetState c id new) := by
  unfold streamSetState
  cases new <;> dsimp only
  case idle => exact c.check_aside _ _ _
  case recvHeaders => exact ((c.check_aside _ _ _).trans (streamUpdateOpenSlot_aside _ _ _)).trans (setStreamState_aside _ _ _)
  case sendHeaders =>
    exact ((c.check_aside _ _ _).trans (Conn.mapSlot_aside _ _ _ (by intros; exact Nat.le_succ _))).trans (setStreamState_aside _ _ _)
  case sendBodyIsFinal => exact (c.check_aside _ _ _).trans (setStreamState_aside _ _ _)
  case endStream => exact absurd rfl ne
  all_goals exact setStreamState_aside c _ _

theorem h2oProcessRequest_aside (c : Conn) (id : Nat) : Conn.Aside id c (h2oProcessRequest c id) := by
  unfold h2oProcessRequest
  exact (c.modifyStream_aside _ (by intros; rfl)).trans (.of_fields rfl rfl rfl)

/-- `process_request` hands the request to the application last: what it does before is
    `processRequestWith` with an application that does nothing. -/
theorem processRequestWith_eq (app : Conn → Nat → Conn) (ctx : Ctx) (c : Conn) (id : Nat) :
    processRequestWith app ctx c id = app (processRequestWith (fun d _ => d) ctx c id) id := rfl

/-- Up to the application, `process_request` of a request that is not streamed changes only its
    own stream, leaves the pending queue and the streaming counters alone, and adds half-closed
    requests if any. -/
theorem processRequest_prefix_aside (ctx : Ctx) (c : Conn) (id : Nat) (plain : (c.stream id).proceedReq = false) :
    Conn.Aside id c (processRequestWith (fun d _ => d) ctx c id) := by
  unfold processRequestWith
  lift_lets
  intro s c2 n c3 c1 c4
  have k1 : Conn.Aside id c c1 := by
    simp only [c1, s, plain, Bool.false_eq_true, ite_false]
    exact .ite ((streamSetState_aside _ _ (by decide)).trans (streamSetState_aside _ _ (by decide))) (.refl _)
  exact k1.trans (.ite (.of_fields rfl rfl rfl) (.refl _))

/-- Up to the application, `process_request` of any request changes only its own stream, leaves
    the pending queue alone, and adds half-closed requests if any. -/
theorem processRequest_prefix_frame (ctx : Ctx) (c : Conn) (id : Nat) :
    (processRequestWith (fun d _ => d) ctx c id).pendingReqs = c.pendingReqs ∧
      (∀ id', id' ≠ id → (processRequestWith (fun d _ => d) ctx c id).getStream id' = c.getStream id') ∧
      c.numStreams.halfClosedRequests ≤ (processRequestWith (fun d _ => d) ctx c id).numStreams.halfClosedRequests := by
  cases plain : (c.stream id).proceedReq
  case false =>
    have h := processRequest_prefix_aside ctx c id plain
    exact ⟨h.pendingReqs, h.others, h.halfClosed⟩
  case true =>
    unfold processRequestWith
    lift_lets
    intro s c2 n c3 c1 c4
    have k : Conn.Aside id c3 c4 := by
      have k1 : Conn.Aside id c3 c1 := by
        simp only [c1, s, plain, ite_true]
        exact (c3.modifyStream_aside _ (by intros; rfl)).trans (updateStreamInputWindow_aside _ _ _)
      exact k1.trans (.ite (.of_fields rfl rfl rfl) (.refl _))
    have streams : c3.streams = c.streams := by simp [c3, c2]
    refine ⟨k.pendingReqs.trans (by simp [c3, c2, Conn.check_eq]), fun id' ne => (k.others id' ne).trans
      (Conn.getStream_congr streams id'), le_of_eq_of_le ?_ k.halfClosed⟩
    simp [c3, c2, n, Conn.check_eq, NumStreams.halfClosedRequests]

/-- An application that leaves the pending queue alone: it enqueues nothing into it, the
    assumption under which `run_pending_requests` is proved. The modelled one is such. -/
def KeepsQueue (app : Conn → Nat → Conn) : Prop := ∀ c id, (app c id).pendingReqs = c.pendingReqs

theorem h2oProcessRequest_keepsQueue : KeepsQueue h2oProcessRequest := fun c id =>
  (h2oProcessRequest_aside c id).pendingReqs

/-- An application that leaves the queue alone makes `process_request` leave it alone. -/
theorem processRequestWith_pendingReqs {app : Conn → Nat → Conn} (keeps : KeepsQueue app) (ctx : Ctx) (c : Conn)
    (id : Nat) : (processRequestWith app ctx c id).pendingReqs = c.pendingReqs := by
  rw [processRequestWith_eq, keeps]
  exact (processRequest_prefix_frame ctx c id).1

/-- The body of the loop of `run_pending_requests`: the stream is unlinked, then processed. -/
def dispatch (app : Conn → Nat → Conn) (ctx : Ctx) (c : Conn) (id : Nat) : Conn :=
  processRequestWith app ctx (c.unlink id) id

/-- A streamed request waits for the streaming limit: `_req_streaming_in_progress - tunnel`, in
    `uint32_t`, has reached `max_concurrent_streaming_requests_per_connection`. -/
def BlockedByLimit (ctx : Ctx) (c : Conn) (id : Nat) : Prop :=
  (c.stream id).proceedReq = true ∧
    ctx.conf.maxConcurrentStreamingRequestsPerConnection ≤ sub32 c.numStreams.reqStreamingInProgress c.numStreams.tunnel

/-- `run_pending_requests` may dispatch the stream: `can_run_requests` holds, and the stream does
    not wait for the streaming limit. -/
def Admissible (ctx : Ctx) (c : Conn) (id : Nat) : Prop := canRunRequests ctx c = true ∧ ¬BlockedByLimit ctx c id

/-- Dispatching `ds` in turn from `c`, each admissible when its turn comes. -/
def AdmittedInTurn (app : Conn → Nat → Conn) (ctx : Ctx) : Conn → List Nat → Prop
  | _, [] => True
  | c, id :: ds => Admissible ctx c id ∧ AdmittedInTurn app ctx (dispatch app ctx c id) ds

section
variable (app : Conn → Nat → Conn) (ctx : Ctx)

theorem admittedInTurn_append (c : Conn) (ds es : List Nat) :
    AdmittedInTurn app ctx c (ds ++ es) ↔
      AdmittedInTurn app ctx c ds ∧ AdmittedInTurn app ctx (ds.foldl (dispatch app ctx) c) es := by
  induction ds generalizing c with
  | nil => simp [AdmittedInTurn]
  | cons id ds ih => simp [AdmittedInTurn, ih, and_assoc]

theorem dispatch_pendingReqs (keeps : KeepsQueue app) (c : Conn) (id : Nat) :
    (dispatch app ctx c id).pendingReqs = c.pendingReqs.erase id :=
  processRequestWith_pendingReqs keeps ctx _ id

theorem dispatches_pendingReqs (keeps : KeepsQueue app) (c : Conn) (ds : List Nat) (nodup : c.pendingReqs.Nodup) :
    (ds.foldl (dispatch app ctx) c).pendingReqs = c.pendingReqs.filter (· ∉ ds) := by
  induction ds generalizing c with
  | nil => simp
  | cons id ds ih =>
    have pending := dispatch_pendingReqs app ctx keeps c id
    rw [List.foldl_cons, ih _ (pending ▸ nodup.erase id), pending, nodup.erase_eq_filter, List.filter_filter]
    congr 1
    funext x
    by_cases hx : x = id <;> by_cases hd : x ∈ ds <;> simp [hx, hd]

/-- A pass of `run_pending_requests` over the queue `q` dispatches a sublist `ds` of it, in order,
    each admissible when its turn comes, and says whether it dispatched one. A pass that
    dispatches nothing met requests unable to run, or only streams waiting for the streaming
    limit. -/
theorem runPendingPass_spec (c : Conn) (q : List Nat) :
    ∃ ds, ds.Sublist q ∧ AdmittedInTurn app ctx c ds ∧
      runPendingPass app ctx c q = (ds.foldl (dispatch app ctx) c, !ds.isEmpty) ∧
      (ds = [] → canRunRequests ctx c = false ∨ ∀ id ∈ q, BlockedByLimit ctx c id) := by
  induction q generalizing c with
  | nil => exact ⟨[], .slnil, trivial, rfl, fun _ => .inr nofun⟩
  | cons id q ih =>
    unfold runPendingPass
    by_cases run : canRunRequests ctx c = true
    case neg => exact ⟨[], List.nil_sublist _, trivial, by simp [run], fun _ => .inl (by simpa using run)⟩
    by_cases blocked : BlockedByLimit ctx c id
    case pos =>
      obtain ⟨ds, sub, adm, eq, final⟩ := ih c
      refine ⟨ds, sub.cons _, adm, by simp [run, blocked.1, blocked.2, eq],
        fun none => (final none).imp_right fun rest id' mem => ?_⟩
      rcases List.mem_cons.1 mem with rfl | mem
      · exact blocked
      · exact rest id' mem
    case neg =>
      obtain ⟨ds, sub, adm, eq, -⟩ := ih (dispatch app ctx c id)
      have underLimit : ¬((c.stream id).proceedReq && decide (ctx.conf.maxConcurrentStreamingRequestsPerConnection ≤
          sub32 c.numStreams.reqStreamingInProgress c.numStreams.tunnel)) = true := by
        simpa [BlockedByLimit] using blocked
      exact ⟨id :: ds, sub.cons₂ _, ⟨⟨run, blocked⟩, adm⟩,
        by simp [run, underLimit]; exact congrArg Prod.fst eq, nofun⟩

/-- One step of the outer loop, once the pass has dispatched `ds`. -/
theorem runPendingLoop_succ {c : Conn} {ds : List Nat}
    (pass : runPendingPass app ctx c c.pendingReqs = (ds.foldl (dispatch app ctx) c, !ds.isEmpty)) (fuel : Nat) :
    runPendingLoop app ctx (fuel + 1) c =
      if !ds.isEmpty && !(ds.foldl (dispatch app ctx) c).pendingReqs.isEmpty
      then runPendingLoop app ctx fuel (ds.foldl (dispatch app ctx) c) else ds.foldl (dispatch app ctx) c := by
  simp only [runPendingLoop, pass]

/-- The outer loop, over an application that leaves the queue alone: every pass that dispatches
    shortens the queue, so with more passes allowed than the queue is long, the loop dispatches
    the streams of an ordered sublist of the queue at each pass, each once and admissible in its
    turn, and ends by its own condition: the queue is empty, requests cannot run, or every
    stream left waits for the streaming limit; one more pass allowed changes nothing. -/
theorem runPendingLoop_spec (keeps : KeepsQueue app) (fuel : Nat) (c : Conn) (nodup : c.pendingReqs.Nodup)
    (enough : c.pendingReqs.length < fuel) :
    ∃ passes : List (List Nat), (∀ p ∈ passes, p.Sublist c.pendingReqs) ∧ passes.flatten.Nodup ∧
      AdmittedInTurn app ctx c passes.flatten ∧
      runPendingLoop app ctx fuel c = passes.flatten.foldl (dispatch app ctx) c ∧
      ((runPendingLoop app ctx fuel c).pendingReqs = [] ∨ canRunRequests ctx (runPendingLoop app ctx fuel c) = false ∨
        ∀ id ∈ (runPendingLoop app ctx fuel c).pendingReqs, BlockedByLimit ctx (runPendingLoop app ctx fuel c) id) ∧
      runPendingLoop app ctx (fuel + 1) c = runPendingLoop app ctx fuel c := by
  induction fuel generalizing c with
  | zero => exact absurd enough (Nat.not_lt_zero _)
  | succ n ih =>
    obtain ⟨ds, sub, adm, pass, final⟩ := runPendingPass_spec app ctx c c.pendingReqs
    have step := runPendingLoop_succ app ctx pass
    have pending := dispatches_pendingReqs app ctx keeps c ds nodup
    cases ds with
    | nil =>
      simp only [List.isEmpty_nil, Bool.not_true, Bool.false_and, List.foldl_nil] at step
      rw [step, step]
      exact ⟨[], nofun, List.nodup_nil, trivial, rfl, .inr (final rfl), rfl⟩
    | cons d ds =>
      set D := (d :: ds).foldl (dispatch app ctx) c
      by_cases empty : D.pendingReqs = []
      · simp only [empty, List.isEmpty_nil, Bool.not_true, Bool.and_false] at step
        rw [step, step]
        refine ⟨[d :: ds], by simpa using sub, by simpa using nodup.sublist sub, by simpa using adm, by simp [D],
          .inl empty, rfl⟩
      have more : !(d :: ds).isEmpty && !D.pendingReqs.isEmpty := by simpa [List.isEmpty_iff] using empty
      simp only [more, ite_true] at step
      have shorter : D.pendingReqs.length < n := by
        have lt : (c.pendingReqs.filter (· ∉ d :: ds)).length < c.pendingReqs.length :=
          List.length_filter_lt_length_iff_exists.2 ⟨d, sub.subset (List.mem_cons_self _ _), by simp⟩
        rw [pending]
        omega
      obtain ⟨passes, subs, distinct, adm', run, ends, fuel⟩ := ih D (pending ▸ nodup.filter _) shorter
      have left : ∀ x ∈ passes.flatten, x ∉ d :: ds := fun x mem => by
        obtain ⟨p, memP, memX⟩ := List.mem_flatten.1 mem
        have := (subs p memP).subset memX
        rw [pending, List.mem_filter] at this
        simpa using this.2
      refine ⟨(d :: ds) :: passes, ?_, ?_, ?_, ?_, by rw [step]; exact ends, by rw [step, step, fuel]⟩
      · rintro p (_ | ⟨_, memP⟩)
        · exact sub
        · exact (subs p memP).trans (pending ▸ List.filter_sublist _)
      · exact List.pairwise_append.2 ⟨nodup.sublist sub, distinct, fun x memD y memP same => left y memP (same ▸ memD)⟩
      · exact (admittedInTurn_append app ctx c _ _).2 ⟨adm, adm'⟩
      · rw [step, run, List.flatten_cons, List.foldl_append]

end

/-! ### A run -/

/-- HEADERS and a first DATA frame on stream 1 and then on stream 3, whose application can take
    both bodies as streams. -/
def queuedRun : List Event :=
  [.read [prefaceInput, headersInput 1 false true [1] (by decide) (by decide),
    dataInput 1 false [7] true true (by decide) (by decide) (by decide),
    headersInput 3 false true [1] (by decide) (by decide),
    dataInput 3 false [8] true true (by decide) (by decide) (by decide)]]

/-- The connection after `queuedRun`: with one streamed request allowed, stream 1 is dispatched
    and stream 3 queued. -/
def queuedConn : Conn := run sampleCtx accept queuedRun

example : queuedConn.pendingReqs = [3] ∧ (queuedConn.stream 3).proceedReq = true ∧
    queuedConn.numStreams.reqStreamingInProgress = 1 := by decide

/-- `queuedConn` with a request without a body on stream 5, queued behind stream 3. -/
def twoQueuedConn : Conn :=
  { queuedConn with
    streams := queuedConn.streams ++ [{ Stream.fresh 5 65535 defaultPriority with state := .reqPending }],
    pendingReqs := [3, 5] }

/-- An application that, handed a request, ends one streamed request at once, as one that
    rejects an upload it is streaming would. -/
def endsStreamingApp (c : Conn) (id : Nat) : Conn :=
  let d := h2oProcessRequest c id
  { d with numStreams := { d.numStreams with reqStreamingInProgress := d.numStreams.reqStreamingInProgress - 1 } }

theorem endsStreamingApp_keepsQueue : KeepsQueue endsStreamingApp := fun _ _ => rfl

example : (runPendingPass endsStreamingApp sampleCtx twoQueuedConn [3, 5]).1.pendingReqs = [3] ∧
    (runPendingRequestsWith endsStreamingApp sampleCtx twoQueuedConn).pendingReqs = [] ∧
    (runPendingRequestsWith endsStreamingApp sampleCtx twoQueuedConn).log.getLast? = some (.process 3) := by
  decide

end H2oHttp2
