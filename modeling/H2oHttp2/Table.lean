import Mathlib.Data.List.Nodup
import Mathlib.Tactic.LiftLets
import H2oHttp2.Events

/-!
# The stream table and its counters: the invariant

`num_streams` counts the streams of the map by the slot each one is counted in
(`_num_streams_slot`): `opened` every stream of the slot, `half_closed` those sending their
response, and `blocked_by_server` the streams blocked by the server. `close_connection_now`
asserts that they are zero once every stream is closed. `TableCore` says that they agree with
the map, that each stream sits in the slot its state and id give (`Stream.expectedSlot`), that
the ids of the map are distinct, that `_pending_reqs` holds distinct streams of the map whose
request is complete and not yet handed to `h2o_process_request` (`Stream.Waiting`), and that
`_write.streams_to_proceed` holds distinct streams of the map none of which is scheduled.
`TableOk` adds that push streams lie below `push_stream_ids.max_open`, which keeps a pushed id
out of the map.

The code keeps the counters in step with the map only while none of its assertions fails.
`TableKept A c c'` says that `c'` comes from `c` by appending to `failed` only, and that it
keeps the invariant when nothing was appended, given `A`: what the caller knows of the state
where its call began. Each function that the operations of `TableFrames` go through has a
`_kept` lemma, its preconditions hypotheses under `A`: the invariant is proved for those
operations, not yet for the writer, the other frame handlers and the events, so not over
`Reachable`. This module covers the table operations and the functions of `Stream`.
-/
namespace H2oHttp2

/-- The states `num_streams.*.half_closed` counts: the response is being sent. -/
def StreamState.sending : StreamState → Bool
  | .sendHeaders | .sendBody | .sendBodyIsFinal => true
  | _ => false

/-- The slot of `num_streams` a stream counts in by its state and id: the priority-only slot
    while IDLE, no slot at END_STREAM, and the push or the pull slot in between. -/
def Stream.expectedSlot (s : Stream) : Slot :=
  match s.state with
  | .idle => .priority
  | .endStream => .none
  | _ => if streamIsPush s.streamId then .push else .pull

/-- The counters of a slot; `Slot.none` has none. -/
def NumStreams.slot (n : NumStreams) : Slot → NumStreamsSlot
  | .none => ⟨0, 0⟩
  | .priority => n.priority
  | .pull => n.pull
  | .push => n.push

/-- What holds of every stream of the map. A request body is opened only once the request
    headers are in, a request is handed to `h2o_process_request` only once its headers and the
    first frame of its body are, and then it is streamed or its response has begun,
    `proceed_req` is set only on an opened body, and a stream is scheduled only while it has
    data to send or is sending its last. -/
structure Stream.Sound (s : Stream) : Prop where
  slot : s.slot = s.expectedSlot
  bodyStarted : s.reqBodyState ≠ .none → .recvHeaders < s.state
  unprocessed : s.state ≤ .recvHeaders ∨ s.reqBodyState = .openBeforeFirstFrame → s.processCalled = false
  proceedBody : s.proceedReq = true → s.reqBodyState ≠ .none
  activeHasData : s.schedActive = true → s.hasPendingData = true ∨ .sendBodyIsFinal ≤ s.state
  processedStarted : s.processCalled = true → s.streamed = true ∨ .sendHeaders ≤ s.state

/-- A stream that may wait on `_pending_reqs`: its request headers are complete, its body is past
    the first frame or absent, a body still open is streamed, and it has not been handed to
    `h2o_process_request`. -/
structure Stream.Waiting (s : Stream) : Prop where
  ready : .recvHeaders < s.state
  notFirstFrame : s.reqBodyState ≠ .openBeforeFirstFrame
  streamedIfOpen : s.reqBodyState = .opened → s.proceedReq = true
  unprocessed : s.processCalled = false

/-- The stream table agrees with the counters and the lists that name its streams. -/
structure TableCore (c : Conn) : Prop where
  nodup : (c.streams.map (·.streamId)).Nodup
  sound : ∀ s ∈ c.streams, s.Sound
  opened : ∀ σ, σ ≠ .none → (c.numStreams.slot σ).opened = c.streams.countP (·.slot == σ)
  halfClosed : ∀ σ, σ ≠ .none →
    (c.numStreams.slot σ).halfClosed = c.streams.countP fun s => s.slot == σ && s.state.sending
  blocked : c.numStreams.blockedByServer = c.streams.countP (·.blockedByServer)
  pendingNodup : c.pendingReqs.Nodup
  pending : ∀ id ∈ c.pendingReqs, ∃ s ∈ c.streams, s.streamId = id ∧ s.Waiting
  proceedNodup : c.write.streamsToProceed.Nodup
  proceedPresent : ∀ id ∈ c.write.streamsToProceed, ∃ s ∈ c.streams, s.streamId = id
  activeNotProceeding : ∀ s ∈ c.streams, s.schedActive = true → s.streamId ∉ c.write.streamsToProceed

/-- Every push stream has an id up to `bound`, and below `2^31 - 1`. -/
def PushIdsBelow (bound : Nat) (c : Conn) : Prop :=
  ∀ s ∈ c.streams, streamIsPush s.streamId = true → s.streamId ≤ bound ∧ s.streamId ≤ 0x7ffffffe

/-- The invariant. -/
structure TableOk (c : Conn) : Prop where
  core : TableCore c
  pushIds : PushIdsBelow c.pushMaxOpen c

/-- `c'` comes from `c` by appending to `failed` only, and keeps the invariant when nothing was
    appended, given `A`. -/
structure TableKept (A : Prop) (c c' : Conn) : Prop where
  grows : c.failed <+: c'.failed
  keeps : A → TableOk c → c'.failed = c.failed → TableOk c'

/-! ### Slots and counters -/

namespace NumStreams

variable (n : NumStreams)

@[simp] theorem slot_none : n.slot .none = ⟨0, 0⟩ := rfl

theorem slot_mapSlot (σ : Slot) (f : NumStreamsSlot → NumStreamsSlot) (τ : Slot) :
    (n.mapSlot σ f).slot τ = if σ = τ ∧ τ ≠ .none then f (n.slot τ) else n.slot τ := by
  cases σ <;> cases τ <;> rfl

@[simp] theorem mapSlot_blockedByServer (σ : Slot) (f : NumStreamsSlot → NumStreamsSlot) :
    (n.mapSlot σ f).blockedByServer = n.blockedByServer := by
  cases σ <;> rfl

@[simp] theorem slot_blocked (b : Nat) (σ : Slot) : { n with blockedByServer := b }.slot σ = n.slot σ := by
  cases σ <;> rfl

@[simp] theorem slot_streaming (r t : Nat) (σ : Slot) :
    { n with reqStreamingInProgress := r, tunnel := t }.slot σ = n.slot σ := by
  cases σ <;> rfl

end NumStreams

@[simp] theorem StreamState.sending_endStream : StreamState.endStream.sending = false := rfl

theorem Stream.expectedSlot_eq_none (s : Stream) : s.expectedSlot = .none ↔ s.state = .endStream := by
  unfold Stream.expectedSlot
  split <;> (try split) <;> simp_all

theorem Stream.expectedSlot_of_between {s : Stream} (notIdle : s.state ≠ .idle) (notEnd : s.state ≠ .endStream) :
    s.expectedSlot = if streamIsPush s.streamId then .push else .pull := by
  unfold Stream.expectedSlot
  split <;> simp_all

theorem Stream.expectedSlot_congr {s s' : Stream} (sid : s'.streamId = s.streamId)
    (between : s.state ≠ .idle ∧ s.state ≠ .endStream) (between' : s'.state ≠ .idle ∧ s'.state ≠ .endStream) :
    s'.expectedSlot = s.expectedSlot := by
  rw [Stream.expectedSlot_of_between between'.1 between'.2, Stream.expectedSlot_of_between between.1 between.2, sid]

/-- A stream moved to a state past RECV_HEADERS in its own slot, its request and its schedule
    otherwise as they were. -/
theorem Stream.Sound.advance {s s' : Stream} (h : s.Sound) (slot : s'.slot = s'.expectedSlot)
    (ready : .recvHeaders < s'.state) (body : s'.reqBodyState = s.reqBodyState) (called : s'.processCalled = s.processCalled)
    (proceed : s'.proceedReq = s.proceedReq) (streamed : s'.streamed = s.streamed) (le : s.state ≤ s'.state)
    (active : s'.schedActive = true → s'.hasPendingData = true ∨ .sendBodyIsFinal ≤ s'.state) : s'.Sound := by
  refine ⟨slot, fun _ => ready, fun first => ?_, fun asked => ?_, active, fun processed => ?_⟩
  · have notBefore : ¬s'.state ≤ .recvHeaders := fun le => Nat.lt_irrefl _ (Nat.lt_of_lt_of_le ready le)
    rw [called]
    exact h.unprocessed (.inr (body ▸ first.resolve_left notBefore))
  · rw [body]; exact h.proceedBody (proceed ▸ asked)
  · rw [streamed]
    exact (h.processedStarted (called ▸ processed)).imp_right fun started => Nat.le_trans started le

theorem Stream.Waiting.advance {s s' : Stream} (h : s.Waiting) (ready : .recvHeaders < s'.state)
    (body : s'.reqBodyState = s.reqBodyState) (called : s'.processCalled = s.processCalled)
    (proceed : s'.proceedReq = s.proceedReq) : s'.Waiting :=
  ⟨ready, body ▸ h.notFirstFrame, by rw [body, proceed]; exact h.streamedIfOpen, called ▸ h.unprocessed⟩

/-- The targets `h2o_http2_stream_set_state` moves a stream to without an assertion or a counter,
    from a state between IDLE and them. -/
theorem StreamState.quiet_bounds {o n : StreamState} (quiet : n = .recvBody ∨ n = .reqPending ∨ n = .sendBody)
    (notIdle : .idle < o) (le : o ≤ n) :
    o ≠ .endStream ∧ n ≠ .idle ∧ n ≠ .endStream ∧ .recvHeaders < n ∧ ¬.sendBodyIsFinal ≤ o := by
  rcases quiet with rfl | rfl | rfl <;> cases o <;> revert notIdle le <;> decide

/-! ### The map around one stream -/

namespace Conn

theorem mem_of_getStream {c : Conn} {id : Nat} {s : Stream} (found : c.getStream id = some s) :
    s ∈ c.streams ∧ s.streamId = id := by
  unfold getStream at found
  have same := List.find?_some found
  exact ⟨List.mem_of_find?_eq_some found, of_decide_eq_true same⟩

theorem modifyStream_streams (c : Conn) (id : Nat) (f : Stream → Stream) :
    (c.modifyStream id f).streams = c.streams.map fun s => if s.streamId = id then f s else s := rfl

@[simp] theorem modifyStream_numStreams (c : Conn) (id : Nat) (f : Stream → Stream) :
    (c.modifyStream id f).numStreams = c.numStreams := rfl

@[simp] theorem modifyStream_pendingReqs (c : Conn) (id : Nat) (f : Stream → Stream) :
    (c.modifyStream id f).pendingReqs = c.pendingReqs := rfl

theorem modifyStream_of_none {c : Conn} {id : Nat} (absent : c.getStream id = none) (f : Stream → Stream) :
    (c.modifyStream id f).streams = c.streams := by
  refine (List.map_congr_left fun t mem => if_neg fun same => ?_).trans (List.map_id' _)
  exact List.find?_eq_none.1 absent t mem (decide_eq_true same)

theorem modifyStream_modifyStream (c : Conn) (id : Nat) {f : Stream → Stream} (hf : ∀ s, (f s).streamId = s.streamId)
    (g : Stream → Stream) : (c.modifyStream id f).modifyStream id g = c.modifyStream id (g ∘ f) := by
  simp only [modifyStream, List.map_map]
  congr 2
  funext t
  by_cases same : t.streamId = id <;> simp [same, hf]

end Conn

/-- A member of a list of streams with distinct ids, and the streams around it, none of which
    has its id. -/
theorem split_streams {l : List Stream} {s : Stream} (nodup : (l.map (·.streamId)).Nodup) (mem : s ∈ l) :
    ∃ l₁ l₂, l = l₁ ++ s :: l₂ ∧ ∀ t ∈ l₁ ++ l₂, t.streamId ≠ s.streamId := by
  obtain ⟨l₁, l₂, rfl⟩ := List.append_of_mem mem
  refine ⟨l₁, l₂, rfl, fun t mem' same => ?_⟩
  simp only [List.map_append, List.map_cons, List.nodup_append, List.nodup_cons] at nodup
  obtain ⟨-, ⟨notIn, -⟩, disjoint⟩ := nodup
  rcases List.mem_append.1 mem' with mem' | mem'
  · exact disjoint (List.mem_map_of_mem _ mem') (same ▸ List.mem_cons_self _ _)
  · exact notIn (same ▸ List.mem_map_of_mem _ mem')

theorem map_replace {l₁ l₂ : List Stream} {s : Stream} (f : Stream → Stream)
    (others : ∀ t ∈ l₁ ++ l₂, t.streamId ≠ s.streamId) :
    (l₁ ++ s :: l₂).map (fun t => if t.streamId = s.streamId then f t else t) = l₁ ++ f s :: l₂ := by
  have keep : ∀ l : List Stream, (∀ t ∈ l, t.streamId ≠ s.streamId) →
      l.map (fun t => if t.streamId = s.streamId then f t else t) = l :=
    fun l ne => (List.map_congr_left fun t mem => if_neg (ne t mem)).trans (List.map_id' _)
  rw [List.map_append, List.map_cons, if_pos rfl, keep l₁ fun t mem => others t (List.mem_append_left _ mem),
    keep l₂ fun t mem => others t (List.mem_append_right _ mem)]

namespace TableCore

variable {c c' : Conn} {id : Nat} {s s' : Stream}

theorem eq_of_mem (h : TableCore c) {t u : Stream} (ht : t ∈ c.streams) (hu : u ∈ c.streams)
    (same : t.streamId = u.streamId) : t = u :=
  List.inj_on_of_nodup_map h.nodup ht hu same

theorem getStream_of_mem (h : TableCore c) {t : Stream} (mem : t ∈ c.streams) : c.getStream t.streamId = some t := by
  cases found : c.getStream t.streamId with
  | none => exact absurd (decide_eq_true rfl) (List.find?_eq_none.1 found t mem)
  | some u =>
    obtain ⟨memU, same⟩ := Conn.mem_of_getStream found
    rw [h.eq_of_mem memU mem same]

theorem modifyStream_eq (h : TableCore c) (found : c.getStream id = some s) (f : Stream → Stream) :
    (c.modifyStream id f).streams = (c.modifyStream id fun _ => f s).streams := by
  obtain ⟨mem, rfl⟩ := Conn.mem_of_getStream found
  refine List.map_congr_left fun t memT => ?_
  by_cases same : t.streamId = s.streamId
  · rw [if_pos same, if_pos same, h.eq_of_mem memT mem same]
  · rw [if_neg same, if_neg same]

/-- The count of a property over the map after the stream `s` became `s'`. -/
theorem countP_replace (h : TableCore c) (found : c.getStream id = some s) (s' : Stream) (p : Stream → Bool) :
    (c.modifyStream id fun _ => s').streams.countP p + (if p s then 1 else 0) =
      c.streams.countP p + (if p s' then 1 else 0) := by
  obtain ⟨mem, rfl⟩ := Conn.mem_of_getStream found
  obtain ⟨l₁, l₂, split, others⟩ := split_streams h.nodup mem
  rw [Conn.modifyStream_streams, split, map_replace _ others]
  simp only [List.countP_append, List.countP_cons]
  omega

theorem mem_replace (h : TableCore c) (found : c.getStream id = some s) (s' : Stream) {t : Stream} :
    t ∈ (c.modifyStream id fun _ => s').streams ↔ t = s' ∨ t ∈ c.streams ∧ t.streamId ≠ id := by
  obtain ⟨mem, rfl⟩ := Conn.mem_of_getStream found
  obtain ⟨l₁, l₂, split, others⟩ := split_streams h.nodup mem
  rw [Conn.modifyStream_streams, split, map_replace _ others]
  simp only [List.mem_append, List.mem_cons]
  constructor
  · rintro (memT | rfl | memT)
    · exact .inr ⟨.inl memT, others t (List.mem_append_left _ memT)⟩
    · exact .inl rfl
    · exact .inr ⟨.inr (.inr memT), others t (List.mem_append_right _ memT)⟩
  · rintro (rfl | ⟨memT | rfl | memT, ne⟩)
    · exact .inr (.inl rfl)
    · exact .inl memT
    · exact absurd rfl ne
    · exact .inr (.inr memT)

/-- The invariant after the stream `s` with id `id` became `s'`, with the counters moved from
    what `s` adds to them to what `s'` does. -/
theorem replace (h : TableCore c) (found : c.getStream id = some s) (s' : Stream)
    (streams : c'.streams = (c.modifyStream id fun _ => s').streams) (sid : s'.streamId = id) (sound : s'.Sound)
    (opened : ∀ σ, σ ≠ .none → (c'.numStreams.slot σ).opened + (if s.slot = σ then 1 else 0) =
      (c.numStreams.slot σ).opened + (if s'.slot = σ then 1 else 0))
    (halfClosed : ∀ σ, σ ≠ .none →
      (c'.numStreams.slot σ).halfClosed + (if s.slot = σ ∧ s.state.sending then 1 else 0) =
        (c.numStreams.slot σ).halfClosed + (if s'.slot = σ ∧ s'.state.sending then 1 else 0))
    (blocked : c'.numStreams.blockedByServer + (if s.blockedByServer then 1 else 0) =
      c.numStreams.blockedByServer + (if s'.blockedByServer then 1 else 0))
    (pending : c'.pendingReqs = c.pendingReqs) (waiting : id ∈ c.pendingReqs → s'.Waiting)
    (proceed : c'.write.streamsToProceed = c.write.streamsToProceed)
    (active : s'.schedActive = true → id ∉ c.write.streamsToProceed) : TableCore c' := by
  obtain ⟨mem, rfl⟩ := Conn.mem_of_getStream found
  have count := h.countP_replace found s'
  have memIff : ∀ {t}, t ∈ c'.streams ↔ t = s' ∨ t ∈ c.streams ∧ t.streamId ≠ s.streamId := fun {t} =>
    streams ▸ h.mem_replace found s'
  have kept : ∀ {t}, t ∈ c.streams → t.streamId ≠ s.streamId → t ∈ c'.streams := fun m ne => memIff.2 (.inr ⟨m, ne⟩)
  refine ⟨?_, ?_, fun σ ne => ?_, fun σ ne => ?_, ?_, pending ▸ h.pendingNodup, ?_, proceed ▸ h.proceedNodup, ?_, ?_⟩
  · rw [streams, Conn.modifyStream_streams, List.map_map]
    convert h.nodup using 2
    funext t
    by_cases same : t.streamId = s.streamId <;> simp [same, sid]
  · intro t memT
    rcases memIff.1 memT with rfl | ⟨memT, -⟩
    · exact sound
    · exact h.sound t memT
  · have := count fun t => t.slot == σ
    rw [← streams] at this
    have := opened σ ne
    have := h.opened σ ne
    simp only [beq_iff_eq] at *
    omega
  · have := count fun t => t.slot == σ && t.state.sending
    rw [← streams] at this
    have := halfClosed σ ne
    have := h.halfClosed σ ne
    simp only [Bool.and_eq_true, beq_iff_eq] at *
    omega
  · have := count fun t => t.blockedByServer
    rw [← streams] at this
    have := h.blocked
    omega
  · intro id' memId
    obtain ⟨t, memT, rfl, wait⟩ := h.pending id' (pending ▸ memId)
    by_cases same : t.streamId = s.streamId
    · exact ⟨s', memIff.2 (.inl rfl), sid.trans same.symm, waiting (same ▸ pending ▸ memId)⟩
    · exact ⟨t, kept memT same, rfl, wait⟩
  · intro id' memId
    obtain ⟨t, memT, rfl⟩ := h.proceedPresent id' (proceed ▸ memId)
    by_cases same : t.streamId = s.streamId
    · exact ⟨s', memIff.2 (.inl rfl), sid.trans same.symm⟩
    · exact ⟨t, kept memT same, rfl⟩
  · intro t memT act
    rw [proceed]
    rcases memIff.1 memT with rfl | ⟨memT, -⟩
    · exact sid ▸ active act
    · exact h.activeNotProceeding t memT act

end TableCore

/-! ### What the invariant reads -/

/-- What the invariant reads of a stream. -/
structure StreamView where
  streamId : Nat
  state : StreamState
  slot : Slot
  blockedByServer : Bool
  reqBodyState : ReqBodyState
  proceedReq : Bool
  processCalled : Bool
  streamed : Bool
  schedActive : Bool
  pendingData : Nat

def Stream.view (s : Stream) : StreamView :=
  ⟨s.streamId, s.state, s.slot, s.blockedByServer, s.reqBodyState, s.proceedReq, s.processCalled, s.streamed,
    s.schedActive, s.pendingData⟩

/-- What the invariant reads of a connection, but the push maximum. -/
structure TableView where
  streams : List StreamView
  priority : NumStreamsSlot
  pull : NumStreamsSlot
  push : NumStreamsSlot
  blockedByServer : Nat
  pendingReqs : List Nat
  streamsToProceed : List Nat

/-- What `TableCore` reads of a connection. -/
def Conn.table (c : Conn) : TableView :=
  ⟨c.streams.map Stream.view, c.numStreams.priority, c.numStreams.pull, c.numStreams.push,
    c.numStreams.blockedByServer, c.pendingReqs, c.write.streamsToProceed⟩

theorem Stream.Sound.of_view {s s' : Stream} (h : s.Sound) (same : s'.view = s.view) : s'.Sound := by
  simp only [Stream.view, StreamView.mk.injEq] at same
  obtain ⟨sid, state, slot, -, body, proceed, called, streamed, active, data⟩ := same
  have expected : s'.expectedSlot = s.expectedSlot := by simp only [Stream.expectedSlot, sid, state]
  refine ⟨slot.trans (h.slot.trans expected.symm), ?_, ?_, ?_, ?_, ?_⟩
  · rw [body, state]; exact h.bodyStarted
  · rw [body, state, called]; exact h.unprocessed
  · rw [body, proceed]; exact h.proceedBody
  · rw [active, Stream.hasPendingData, data, state]; exact h.activeHasData
  · rw [called, streamed, state]; exact h.processedStarted

theorem Stream.Waiting.of_view {s s' : Stream} (h : s.Waiting) (same : s'.view = s.view) : s'.Waiting := by
  simp only [Stream.view, StreamView.mk.injEq] at same
  obtain ⟨-, state, -, -, body, proceed, called, -, -, -⟩ := same
  exact ⟨state ▸ h.ready, body ▸ h.notFirstFrame, by rw [body, proceed]; exact h.streamedIfOpen, called ▸ h.unprocessed⟩

namespace Conn

theorem table_eq {c c' : Conn} (streams : c'.streams = c.streams) (numStreams : c'.numStreams = c.numStreams)
    (pending : c'.pendingReqs = c.pendingReqs) (proceed : c'.write.streamsToProceed = c.write.streamsToProceed) :
    c'.table = c.table := by
  simp only [Conn.table, streams, numStreams, pending, proceed]

/-- Changing a stream in what the invariant does not read of it leaves the table alone. -/
theorem table_modifyStream (c : Conn) (id : Nat) {f : Stream → Stream} (hf : ∀ s, (f s).view = s.view) :
    (c.modifyStream id f).table = c.table := by
  have views : (c.modifyStream id f).streams.map Stream.view = c.streams.map Stream.view := by
    rw [modifyStream_streams, List.map_map]
    exact List.map_congr_left fun s _ => by by_cases h : s.streamId = id <;> simp [h, hf]
  simp only [table, views]
  rfl

variable {c c' : Conn} (same : c'.table = c.table)
include same

theorem views_of_table : c'.streams.map Stream.view = c.streams.map Stream.view := congrArg TableView.streams same

/-- Every stream of `c'` has the view of a stream of `c`. -/
theorem mem_of_table {s : Stream} (mem : s ∈ c'.streams) : ∃ t ∈ c.streams, t.view = s.view :=
  List.mem_map.1 (views_of_table same ▸ List.mem_map_of_mem Stream.view mem)

theorem ids_of_table : c'.streams.map (·.streamId) = c.streams.map (·.streamId) := by
  have := congrArg (List.map StreamView.streamId) (views_of_table same)
  rwa [List.map_map, List.map_map] at this

theorem countP_of_table (p : StreamView → Bool) :
    c'.streams.countP (fun s => p s.view) = c.streams.countP (fun s => p s.view) := by
  have := congrArg (List.countP p) (views_of_table same)
  rwa [List.countP_map, List.countP_map] at this

theorem stream_view_of_table (id : Nat) : (c'.stream id).view = (c.stream id).view := by
  have := congrArg (fun l => (l.find? (·.streamId = id)).getD (Stream.fresh id 0 defaultPriority).view)
    (views_of_table same)
  simp only [List.find?_map, Option.getD_map] at this
  exact this

theorem getStream_isSome_of_table (id : Nat) : (c'.getStream id).isSome = (c.getStream id).isSome := by
  have := congrArg (fun l => (l.find? (·.streamId = id)).isSome) (views_of_table same)
  simp only [List.find?_map, Option.isSome_map'] at this
  exact this

end Conn

theorem TableCore.of_table {c c' : Conn} (h : TableCore c) (same : c'.table = c.table) : TableCore c' := by
  have back : ∀ t ∈ c.streams, ∃ s ∈ c'.streams, s.view = t.view := fun t mem => Conn.mem_of_table same.symm mem
  have forth : ∀ s ∈ c'.streams, ∃ t ∈ c.streams, t.view = s.view := fun s mem => Conn.mem_of_table same mem
  have ids := Conn.ids_of_table same
  have count := Conn.countP_of_table same
  simp only [Conn.table, TableView.mk.injEq] at same
  obtain ⟨-, priority, pull, push, blocked, pending, proceed⟩ := same
  have slots : ∀ σ, c'.numStreams.slot σ = c.numStreams.slot σ := by
    intro σ
    cases σ <;> simp only [NumStreams.slot, priority, pull, push]
  refine ⟨ids ▸ h.nodup, fun s mem => ?_, fun σ ne => ?_, fun σ ne => ?_, ?_,
    pending ▸ h.pendingNodup, fun i memI => ?_, proceed ▸ h.proceedNodup, fun i memI => ?_, fun s mem act => ?_⟩
  · obtain ⟨t, memT, view⟩ := forth s mem
    exact (h.sound t memT).of_view view.symm
  · exact (slots σ ▸ h.opened σ ne).trans (count fun v => v.slot == σ).symm
  · exact (slots σ ▸ h.halfClosed σ ne).trans (count fun v => v.slot == σ && v.state.sending).symm
  · exact (blocked ▸ h.blocked).trans (count StreamView.blockedByServer).symm
  · obtain ⟨t, memT, sid, wait⟩ := h.pending i (pending ▸ memI)
    obtain ⟨s, mem, view⟩ := back t memT
    exact ⟨s, mem, (congrArg StreamView.streamId view).trans sid, wait.of_view view⟩
  · obtain ⟨t, memT, sid⟩ := h.proceedPresent i (proceed ▸ memI)
    obtain ⟨s, mem, view⟩ := back t memT
    exact ⟨s, mem, (congrArg StreamView.streamId view).trans sid⟩
  · obtain ⟨t, memT, view⟩ := forth s mem
    have sid : t.streamId = s.streamId := congrArg StreamView.streamId view
    rw [proceed, ← sid]
    exact h.activeNotProceeding t memT ((congrArg StreamView.schedActive view).trans act)

theorem PushIdsBelow.mono {b b' : Nat} {c c' : Conn} (h : PushIdsBelow b c) (le : b ≤ b')
    (streams : ∀ s ∈ c'.streams, ∃ t ∈ c.streams, t.streamId = s.streamId) : PushIdsBelow b' c' := by
  intro s mem push
  obtain ⟨t, memT, same⟩ := streams s mem
  have := h t memT (same ▸ push)
  omega

theorem TableOk.of_table {c c' : Conn} (h : TableOk c) (same : c'.table = c.table) (push : c.pushMaxOpen ≤ c'.pushMaxOpen) :
    TableOk c' :=
  ⟨h.core.of_table same, h.pushIds.mono push fun s mem => by
    obtain ⟨t, memT, view⟩ := Conn.mem_of_table same mem
    exact ⟨t, memT, congrArg StreamView.streamId view⟩⟩

/-! ### Composing the functions -/

/-- Two appends that end where they began appended nothing in between. -/
theorem prefix_squeeze {l₁ l₂ l₃ : List Check} (h₁ : l₁ <+: l₂) (h₂ : l₂ <+: l₃) (same : l₃ = l₁) : l₂ = l₁ := by
  refine (h₁.eq_of_length (le_antisymm h₁.length_le ?_)).symm
  rw [← same]
  exact h₂.length_le

namespace TableKept

variable {A B : Prop} {c c' c'' : Conn}

theorem of_table (same : c'.table = c.table) (push : c'.pushMaxOpen = c.pushMaxOpen) (failed : c'.failed = c.failed) :
    TableKept A c c' :=
  ⟨failed ▸ List.prefix_refl _, fun _ ok _ => ok.of_table same push.ge⟩

theorem refl : TableKept A c c := of_table rfl rfl rfl

/-- A function whose assertions may fail, and which otherwise leaves the table as it was. -/
theorem of_table_grows (same : c'.table = c.table) (push : c'.pushMaxOpen = c.pushMaxOpen)
    (grows : c.failed <+: c'.failed) : TableKept A c c' :=
  ⟨grows, fun _ ok _ => ok.of_table same push.ge⟩

/-- Raising `push_stream_ids.max_open`. -/
theorem raisePushMaxOpen {m : Nat} (le : c.pushMaxOpen ≤ m) : TableKept A c { c with pushMaxOpen := m } :=
  ⟨List.prefix_refl _, fun _ ok _ => ok.of_table rfl le⟩

theorem trans (h₁ : TableKept A c c') (h₂ : TableKept A c' c'') : TableKept A c c'' := by
  refine ⟨h₁.grows.trans h₂.grows, fun a ok same => ?_⟩
  have mid := prefix_squeeze h₁.grows h₂.grows same
  exact h₂.keeps a (h₁.keeps a ok mid) (same.trans mid.symm)

theorem weaken (h : TableKept B c c') (ab : A → B) : TableKept A c c' := ⟨h.grows, fun a => h.keeps (ab a)⟩

/-- The invariant of the state a function starts from is known to what it runs. -/
theorem assume (h : TableKept (A ∧ TableOk c) c c') : TableKept A c c' := ⟨h.grows, fun a ok => h.keeps ⟨a, ok⟩ ok⟩

theorem ite {p : Prop} [Decidable p] {a b : Conn} (ha : p → TableKept A c a) (hb : ¬p → TableKept A c b) :
    TableKept A c (if p then a else b) := by
  split
  · exact ha ‹_›
  · exact hb ‹_›

theorem check_grows (c : Conn) (cond : Bool) (k : Check) : c.failed <+: (c.check cond k).failed := by
  rw [Conn.check_failed]
  split
  · exact List.prefix_refl _
  · exact List.prefix_append _ _

/-- What runs after an assertion may take it to hold. -/
theorem checked {cond : Bool} {k : Check} (h : TableKept (A ∧ cond = true) (c.check cond k) c') : TableKept A c c' := by
  refine ⟨(check_grows c cond k).trans h.grows, fun a ok same => ?_⟩
  have mid := prefix_squeeze (check_grows c cond k) h.grows same
  cases cond
  · simp at mid
  · exact h.keeps ⟨a, rfl⟩ (by simpa using ok) (same.trans mid.symm)

theorem check (cond : Bool) (k : Check) : TableKept A c (c.check cond k) := checked (of_table rfl rfl rfl)

theorem checked_of {cond : Bool} {k : Check} {c1 : Conn} (hc1 : c.check cond k = c1) (h : TableKept (A ∧ cond = true) c1 c') :
    TableKept A c c' :=
  checked (hc1 ▸ h)

/-- An assertion, named `c1`, followed by what appends to `failed` only: what follows may take
    the assertion to hold, and `c1` to be `c`. -/
theorem of_check {cond : Bool} {k : Check} {c1 : Conn} (hc1 : c.check cond k = c1) (grows : c1.failed <+: c'.failed)
    (pass : cond = true → c1 = c → TableKept A c c') : TableKept A c c' := by
  subst hc1
  refine checked ⟨grows, fun ⟨a, hc⟩ ok same => ?_⟩
  subst hc
  exact (pass rfl rfl).keeps a ok same

end TableKept

/-! ### Steps that leave the table alone -/

/-- `c'` comes from `c` by appending to `failed` only, and differs from it in nothing the
    invariant reads: what holds of a stream's view or of the lists before such a step holds
    after it. -/
structure TableSame (c c' : Conn) : Prop where
  grows : c.failed <+: c'.failed
  table : c'.table = c.table
  push : c'.pushMaxOpen = c.pushMaxOpen

namespace TableSame

variable {A : Prop} {c c' c'' : Conn}

theorem of_table (table : c'.table = c.table) (push : c'.pushMaxOpen = c.pushMaxOpen) (failed : c'.failed = c.failed) :
    TableSame c c' :=
  ⟨failed ▸ List.prefix_refl _, table, push⟩

theorem refl (c : Conn) : TableSame c c := of_table rfl rfl rfl

theorem trans (h₁ : TableSame c c') (h₂ : TableSame c' c'') : TableSame c c'' :=
  ⟨h₁.grows.trans h₂.grows, h₂.table.trans h₁.table, h₂.push.trans h₁.push⟩

theorem ite {p : Prop} [Decidable p] {a b : Conn} (ha : p → TableSame c a) (hb : ¬p → TableSame c b) :
    TableSame c (if p then a else b) := by
  split
  · exact ha ‹_›
  · exact hb ‹_›

theorem check (c : Conn) (cond : Bool) (k : Check) : TableSame c (c.check cond k) :=
  ⟨TableKept.check_grows c cond k, Conn.table_eq (by simp) (by simp [Conn.check_eq]) (by simp [Conn.check_eq]) (by simp),
    by simp [Conn.check_eq]⟩

theorem modifyStream_view (c : Conn) (id : Nat) {f : Stream → Stream} (hf : ∀ s, (f s).view = s.view) :
    TableSame c (c.modifyStream id f) :=
  of_table (Conn.table_modifyStream c id hf) rfl rfl

theorem kept (h : TableSame c c') : TableKept A c c' := ⟨h.grows, fun _ ok _ => ok.of_table h.table h.push.ge⟩

theorem stream_view (h : TableSame c c') (id : Nat) : (c'.stream id).view = (c.stream id).view :=
  Conn.stream_view_of_table h.table id

theorem getStream_isSome (h : TableSame c c') (id : Nat) : (c'.getStream id).isSome = (c.getStream id).isSome :=
  Conn.getStream_isSome_of_table h.table id

theorem pendingReqs (h : TableSame c c') : c'.pendingReqs = c.pendingReqs := congrArg TableView.pendingReqs h.table

theorem streamsToProceed (h : TableSame c c') : c'.write.streamsToProceed = c.write.streamsToProceed :=
  congrArg TableView.streamsToProceed h.table

end TableSame

/-! ### Adding and dropping streams and list entries -/

namespace TableCore

variable {c c' : Conn} {id : Nat} {s s' : Stream}

theorem not_mem_of_absent (absent : c.getStream id = none) {t : Stream} (mem : t ∈ c.streams) : t.streamId ≠ id :=
  fun same => List.find?_eq_none.1 absent t mem (decide_eq_true same)

/-- The invariant after a stream with a new id is added to the map, counted where it belongs. -/
theorem insert (h : TableCore c) (s' : Stream) (absent : c.getStream s'.streamId = none) (streams : c'.streams = c.streams ++ [s'])
    (sound : s'.Sound)
    (opened : ∀ σ, σ ≠ .none →
      (c'.numStreams.slot σ).opened = (c.numStreams.slot σ).opened + (if s'.slot = σ then 1 else 0))
    (halfClosed : ∀ σ, σ ≠ .none → (c'.numStreams.slot σ).halfClosed =
      (c.numStreams.slot σ).halfClosed + (if s'.slot = σ ∧ s'.state.sending then 1 else 0))
    (blocked : c'.numStreams.blockedByServer = c.numStreams.blockedByServer + (if s'.blockedByServer then 1 else 0))
    (pending : c'.pendingReqs = c.pendingReqs) (proceed : c'.write.streamsToProceed = c.write.streamsToProceed) :
    TableCore c' := by
  have fresh := fun {t} (mem : t ∈ c.streams) => not_mem_of_absent absent mem
  have mem' : ∀ {t}, t ∈ c'.streams ↔ t ∈ c.streams ∨ t = s' := by
    intro t; rw [streams, List.mem_append, List.mem_singleton]
  have count : ∀ p : Stream → Bool, c'.streams.countP p = c.streams.countP p + (if p s' then 1 else 0) := by
    intro p; rw [streams, List.countP_append, List.countP_cons, List.countP_nil, Nat.zero_add]
  refine ⟨?_, fun t mem => ?_, fun σ ne => ?_, fun σ ne => ?_, ?_, pending ▸ h.pendingNodup, ?_,
    proceed ▸ h.proceedNodup, ?_, fun t mem act => ?_⟩
  · rw [streams, List.map_append, List.map_singleton]
    exact h.nodup.append (List.nodup_singleton _) fun i memI memS => by
      obtain ⟨t, memT, rfl⟩ := List.mem_map.1 memI
      exact fresh memT (List.mem_singleton.1 memS)
  · rcases mem'.1 mem with mem | rfl
    · exact h.sound t mem
    · exact sound
  · rw [opened σ ne, h.opened σ ne, count]; simp
  · rw [halfClosed σ ne, h.halfClosed σ ne, count]; simp
  · rw [blocked, h.blocked, count]
  · intro i memI
    obtain ⟨t, memT, same, wait⟩ := h.pending i (pending ▸ memI)
    exact ⟨t, mem'.2 (.inl memT), same, wait⟩
  · intro i memI
    obtain ⟨t, memT, same⟩ := h.proceedPresent i (proceed ▸ memI)
    exact ⟨t, mem'.2 (.inl memT), same⟩
  · rw [proceed]
    rcases mem'.1 mem with mem | rfl
    · exact h.activeNotProceeding t mem act
    · intro memI
      obtain ⟨u, memU, same⟩ := h.proceedPresent _ memI
      exact fresh memU same

/-- The invariant after the stream `s`, in no slot and not blocked, leaves the map, once it is
    off both lists. -/
theorem erase (h : TableCore c) (found : c.getStream id = some s) (slot : s.slot = .none)
    (unblocked : s.blockedByServer = false) (notPending : id ∉ c.pendingReqs)
    (notProceeding : id ∉ c.write.streamsToProceed) :
    TableCore { c with streams := c.streams.filter (·.streamId ≠ id) } := by
  obtain ⟨mem, rfl⟩ := Conn.mem_of_getStream found
  obtain ⟨l₁, l₂, split, others⟩ := split_streams h.nodup mem
  have kept : c.streams.filter (·.streamId ≠ s.streamId) = l₁ ++ l₂ := by
    rw [split, List.filter_append, List.filter_cons_of_neg (by simp), List.filter_eq_self.2, List.filter_eq_self.2]
    · intro t memT; simpa using others t (List.mem_append_right _ memT)
    · intro t memT; simpa using others t (List.mem_append_left _ memT)
  have count : ∀ p : Stream → Bool, p s = false → (l₁ ++ l₂).countP p = c.streams.countP p := by
    intro p ps; rw [split]; simp [List.countP_append, List.countP_cons, ps]
  have mem' : ∀ {t}, t ∈ l₁ ++ l₂ ↔ t ∈ c.streams ∧ t.streamId ≠ s.streamId := by
    intro t; rw [← kept, List.mem_filter, decide_eq_true_iff]
  have keep : ∀ i, i ≠ s.streamId → ∀ t ∈ c.streams, t.streamId = i → t ∈ l₁ ++ l₂ :=
    fun i ne t memT same => mem'.2 ⟨memT, same ▸ ne⟩
  refine ⟨?_, fun t memT => h.sound t (mem'.1 (kept ▸ memT)).1, fun σ ne => ?_, fun σ ne => ?_, ?_, h.pendingNodup,
    fun i memI => ?_, h.proceedNodup, fun i memI => ?_, fun t memT => h.activeNotProceeding t (mem'.1 (kept ▸ memT)).1⟩
  · exact h.nodup.sublist (List.Sublist.map _ (List.filter_sublist _))
  · simp only [kept]; rw [count _ (by simp [slot, Ne.symm ne]), h.opened σ ne]
  · simp only [kept]; rw [count _ (by simp [slot, Ne.symm ne]), h.halfClosed σ ne]
  · simp only [kept]; rw [count _ unblocked, h.blocked]
  · obtain ⟨t, memT, same, wait⟩ := h.pending i memI
    exact ⟨t, kept ▸ keep i (fun e => notPending (e ▸ memI)) t memT same, same, wait⟩
  · obtain ⟨t, memT, same⟩ := h.proceedPresent i memI
    exact ⟨t, kept ▸ keep i (fun e => notProceeding (e ▸ memI)) t memT same, same⟩

theorem unlink (h : TableCore c) (id : Nat) : TableCore (c.unlink id) where
  nodup := h.nodup
  sound := h.sound
  opened := h.opened
  halfClosed := h.halfClosed
  blocked := h.blocked
  pendingNodup := h.pendingNodup.erase id
  pending i mem := h.pending i ((List.erase_sublist _ _).subset mem)
  proceedNodup := h.proceedNodup.erase id
  proceedPresent i mem := h.proceedPresent i ((List.erase_sublist _ _).subset mem)
  activeNotProceeding t mem act memI := h.activeNotProceeding t mem act ((List.erase_sublist _ _).subset memI)

/-- The lists hold a stream once, so unlinking it takes it off both. -/
theorem not_linked_unlink (h : TableCore c) (id : Nat) :
    id ∉ c.pendingReqs.erase id ∧ id ∉ c.write.streamsToProceed.erase id :=
  ⟨h.pendingNodup.not_mem_erase, h.proceedNodup.not_mem_erase⟩

theorem appendPending (h : TableCore c) (found : c.getStream id = some s) (waiting : s.Waiting)
    (notIn : id ∉ c.pendingReqs) : TableCore { c with pendingReqs := c.pendingReqs ++ [id] } := by
  obtain ⟨mem, rfl⟩ := Conn.mem_of_getStream found
  refine { h with pendingNodup := h.pendingNodup.append (List.nodup_singleton _) ?_, pending := fun i memI => ?_ }
  · exact fun i memI memS => notIn (List.mem_singleton.1 memS ▸ memI)
  · rcases List.mem_append.1 memI with memI | memI
    · exact h.pending i memI
    · exact ⟨s, mem, (List.mem_singleton.1 memI).symm, waiting⟩

theorem appendProceed (h : TableCore c) (found : c.getStream id = some s) (inactive : s.schedActive = false)
    (notIn : id ∉ c.write.streamsToProceed) :
    TableCore { c with write := { c.write with streamsToProceed := c.write.streamsToProceed ++ [id] } } := by
  obtain ⟨mem, rfl⟩ := Conn.mem_of_getStream found
  refine { h with proceedNodup := h.proceedNodup.append (List.nodup_singleton _) ?_,
                  proceedPresent := fun i memI => ?_, activeNotProceeding := fun t memT act memI => ?_ }
  · exact fun i memI memS => notIn (List.mem_singleton.1 memS ▸ memI)
  · rcases List.mem_append.1 memI with memI | memI
    · exact h.proceedPresent i memI
    · exact ⟨s, mem, (List.mem_singleton.1 memI).symm⟩
  · rcases List.mem_append.1 memI with memI | memI
    · exact h.activeNotProceeding t memT act memI
    · have := h.eq_of_mem memT mem (List.mem_singleton.1 memI)
      simp_all

end TableCore

/-- `s'` may take the place of the stream `s` of `c` without moving a counter: it has the same
    slot, sends as `s` does, and is blocked as `s` is. -/
structure Conn.Replaceable (c : Conn) (s s' : Stream) : Prop where
  slot : s'.slot = s.slot
  sending : s'.state.sending = s.state.sending
  blocked : s'.blockedByServer = s.blockedByServer
  sound : s'.Sound
  waiting : s.streamId ∈ c.pendingReqs → s'.Waiting
  active : s'.schedActive = true → s.streamId ∉ c.write.streamsToProceed

theorem Conn.not_linked {c : Conn} {id : Nat} (h : (!c.isLinked id) = true) :
    id ∉ c.pendingReqs ∧ id ∉ c.write.streamsToProceed := by
  simpa [Conn.isLinked] using h

theorem TableCore.modify {c : Conn} {id : Nat} (h : TableCore c) {f : Stream → Stream}
    (hid : ∀ s, (f s).streamId = s.streamId) (hf : ∀ s, c.getStream id = some s → c.Replaceable s (f s)) :
    TableCore (c.modifyStream id f) := by
  cases found : c.getStream id with
  | none => exact h.of_table (Conn.table_eq (Conn.modifyStream_of_none found f) rfl rfl rfl)
  | some s =>
    obtain ⟨-, rfl⟩ := Conn.mem_of_getStream found
    obtain ⟨slot, sending, blocked, sound, waiting, active⟩ := hf s found
    exact h.replace found (f s) (h.modifyStream_eq found f) (hid s) sound (by simp [slot]) (by simp [slot, sending])
      (by simp [blocked]) rfl waiting rfl active

theorem PushIdsBelow.modifyStream {b : Nat} {c : Conn} (h : PushIdsBelow b c) (id : Nat) {f : Stream → Stream}
    (hid : ∀ s, s.streamId = id → (f s).streamId = id) : PushIdsBelow b (c.modifyStream id f) :=
  h.mono le_rfl fun s mem => by
    obtain ⟨t, memT, rfl⟩ := List.mem_map.1 mem
    refine ⟨t, memT, ?_⟩
    split
    · next same => exact same.trans (hid t same).symm
    · rfl

namespace TableKept

variable {A : Prop} {c : Conn} {id : Nat}

theorem unlink (id : Nat) : TableKept A c (c.unlink id) :=
  ⟨List.prefix_refl _, fun _ ok _ => ⟨ok.core.unlink id, ok.pushIds⟩⟩

theorem modifyStream {f : Stream → Stream} (hid : ∀ s, (f s).streamId = s.streamId)
    (hf : A → TableOk c → ∀ s, c.getStream id = some s → c.Replaceable s (f s)) : TableKept A c (c.modifyStream id f) :=
  ⟨List.prefix_refl _, fun a ok _ => ⟨ok.core.modify hid (hf a ok), ok.pushIds.modifyStream id fun s same => (hid s).trans same⟩⟩

/-- Changing a stream in what the invariant does not read of it. -/
theorem modifyStream_view {f : Stream → Stream} (hf : ∀ s, (f s).view = s.view) : TableKept A c (c.modifyStream id f) :=
  of_table (Conn.table_modifyStream c id hf) rfl rfl

theorem appendPending (h : A → TableOk c → ∃ s, c.getStream id = some s ∧ s.Waiting ∧ id ∉ c.pendingReqs) :
    TableKept A c { c with pendingReqs := c.pendingReqs ++ [id] } :=
  ⟨List.prefix_refl _, fun a ok _ => by
    obtain ⟨s, found, waiting, notIn⟩ := h a ok
    exact ⟨ok.core.appendPending found waiting notIn, ok.pushIds⟩⟩

theorem appendProceed
    (h : A → TableOk c → ∃ s, c.getStream id = some s ∧ s.schedActive = false ∧ id ∉ c.write.streamsToProceed) :
    TableKept A c { c with write := { c.write with streamsToProceed := c.write.streamsToProceed ++ [id] } } :=
  ⟨List.prefix_refl _, fun a ok _ => by
    obtain ⟨s, found, inactive, notIn⟩ := h a ok
    exact ⟨ok.core.appendProceed found inactive notIn, ok.pushIds⟩⟩

/-- A stream leaves the map, as `h2o_http2_conn_unregister_stream` removes it, once it is in no
    slot, not blocked, and on neither list. -/
theorem erase (h : A → TableOk c → ∀ s, c.getStream id = some s →
      s.slot = .none ∧ s.blockedByServer = false ∧ id ∉ c.pendingReqs ∧ id ∉ c.write.streamsToProceed) :
    TableKept A c { c with streams := c.streams.filter (·.streamId ≠ id) } := by
  refine ⟨List.prefix_refl _, fun a ok _ => ?_⟩
  cases found : c.getStream id with
  | none =>
    have same : c.streams.filter (·.streamId ≠ id) = c.streams :=
      List.filter_eq_self.2 fun t mem => by simpa using TableCore.not_mem_of_absent found mem
    exact ok.of_table (Conn.table_eq same rfl rfl rfl) le_rfl
  | some s =>
    obtain ⟨slot, unblocked, notPending, notProceeding⟩ := h a ok s found
    exact ⟨ok.core.erase found slot unblocked notPending notProceeding,
      ok.pushIds.mono le_rfl fun t mem => ⟨t, (List.mem_filter.1 mem).1, rfl⟩⟩

end TableKept

/-- A stream taken off the scheduler, and otherwise as the invariant reads it, may take its own
    place. -/
theorem TableCore.replaceable_inactive {c : Conn} {id : Nat} {s s' : Stream} (h : TableCore c)
    (found : c.getStream id = some s) (same : s'.view = { s.view with schedActive := false }) : c.Replaceable s s' := by
  have mem := (Conn.mem_of_getStream found).1
  have sound := h.sound s mem
  have inactive : s'.schedActive = false := congrArg StreamView.schedActive same
  have sound' : ({ s with schedActive := false } : Stream).Sound :=
    ⟨sound.slot, sound.bodyStarted, sound.unprocessed, sound.proceedBody, fun act => (nomatch act), sound.processedStarted⟩
  refine ⟨congrArg StreamView.slot same, by rw [show s'.state = s.state from congrArg StreamView.state same],
    congrArg StreamView.blockedByServer same, sound'.of_view same, fun memI => ?_, fun act => absurd (inactive ▸ act) nofun⟩
  obtain ⟨t, memT, sid, w⟩ := h.pending _ memI
  rw [h.eq_of_mem memT mem sid] at w
  exact (⟨w.ready, w.notFirstFrame, w.streamedIfOpen, w.unprocessed⟩ : ({ s with schedActive := false } : Stream).Waiting).of_view same

/-! ### Streams found by id -/

namespace Conn

theorem stream_of_found {c : Conn} {id : Nat} {s : Stream} (found : c.getStream id = some s) : c.stream id = s := by
  rw [stream, found]; rfl

/-- A stream `c.stream id` gives that differs from what it gives for an id outside the map is in
    the map. -/
theorem found_of_ne_fresh {c : Conn} {id : Nat} (P : Stream → Prop) (hp : P (c.stream id))
    (fresh : ¬P (Stream.fresh id 0 defaultPriority)) : ∃ s, c.getStream id = some s ∧ c.stream id = s := by
  cases found : c.getStream id with
  | none => rw [stream, found] at hp; exact absurd hp fresh
  | some s => exact ⟨s, rfl, stream_of_found found⟩

/-- A stream out of IDLE is in the map. -/
theorem present_of_state {c : Conn} {id : Nat} (h : (c.stream id).state ≠ .idle) : (c.getStream id).isSome := by
  cases found : c.getStream id with
  | none => rw [stream, found] at h; exact absurd rfl h
  | some _ => rfl

/-- An assertion that records nothing held. -/
theorem check_passed {c : Conn} {cond : Bool} {k : Check} (same : (c.check cond k).failed = c.failed) : cond = true := by
  cases cond
  · simp at same
  · rfl

variable (c : Conn) (σ : Slot) (f : NumStreamsSlot → NumStreamsSlot)

@[simp] theorem mapSlot_streams : (c.mapSlot σ f).streams = c.streams := rfl
@[simp] theorem mapSlot_numStreams : (c.mapSlot σ f).numStreams = c.numStreams.mapSlot σ f := rfl
@[simp] theorem mapSlot_pendingReqs : (c.mapSlot σ f).pendingReqs = c.pendingReqs := rfl
@[simp] theorem mapSlot_write : (c.mapSlot σ f).write = c.write := rfl
@[simp] theorem mapSlot_pushMaxOpen : (c.mapSlot σ f).pushMaxOpen = c.pushMaxOpen := rfl

@[simp] theorem check_numStreams (cond : Bool) (k : Check) : (c.check cond k).numStreams = c.numStreams := by
  simp [check_eq]
@[simp] theorem check_pendingReqs (cond : Bool) (k : Check) : (c.check cond k).pendingReqs = c.pendingReqs := by
  simp [check_eq]
@[simp] theorem check_pushMaxOpen (cond : Bool) (k : Check) : (c.check cond k).pushMaxOpen = c.pushMaxOpen := by
  simp [check_eq]

@[simp] theorem setStreamState_numStreams (id : Nat) (new : StreamState) :
    (c.setStreamState id new).numStreams = c.numStreams := rfl
@[simp] theorem setStreamState_pendingReqs (id : Nat) (new : StreamState) :
    (c.setStreamState id new).pendingReqs = c.pendingReqs := rfl
@[simp] theorem setStreamState_write (id : Nat) (new : StreamState) : (c.setStreamState id new).write = c.write := rfl
@[simp] theorem setStreamState_pushMaxOpen (id : Nat) (new : StreamState) :
    (c.setStreamState id new).pushMaxOpen = c.pushMaxOpen := rfl
@[simp] theorem setStreamState_failed (id : Nat) (new : StreamState) : (c.setStreamState id new).failed = c.failed := rfl
@[simp] theorem modifyStream_pushMaxOpen (id : Nat) (g : Stream → Stream) :
    (c.modifyStream id g).pushMaxOpen = c.pushMaxOpen := rfl

theorem mapSlot_modifyStream (id : Nat) (g : Stream → Stream) :
    (c.mapSlot σ f).modifyStream id g = (c.modifyStream id g).mapSlot σ f := rfl

theorem modifyStream_streams_congr {c c' : Conn} (h : c'.streams = c.streams) (id : Nat) (g : Stream → Stream) :
    (c'.modifyStream id g).streams = (c.modifyStream id g).streams := by
  rw [modifyStream_streams, modifyStream_streams, h]

end Conn

namespace TableCore

variable {c : Conn} {id : Nat} {s : Stream}

theorem sound_of_found (h : TableCore c) (found : c.getStream id = some s) : s.Sound :=
  h.sound s (Conn.mem_of_getStream found).1

theorem waiting (h : TableCore c) (found : c.getStream id = some s) (memI : id ∈ c.pendingReqs) : s.Waiting := by
  obtain ⟨mem, rfl⟩ := Conn.mem_of_getStream found
  obtain ⟨t, memT, same, wait⟩ := h.pending _ memI
  rwa [h.eq_of_mem memT mem same] at wait

/-- A stream whose request headers are not complete is not pending. -/
theorem not_pending (h : TableCore c) (found : c.getStream id = some s) (notReady : ¬.recvHeaders < s.state) :
    id ∉ c.pendingReqs :=
  fun memI => notReady (h.waiting found memI).ready

theorem not_proceeding (h : TableCore c) (found : c.getStream id = some s) (active : s.schedActive = true) :
    id ∉ c.write.streamsToProceed := by
  obtain ⟨mem, rfl⟩ := Conn.mem_of_getStream found
  exact h.activeNotProceeding s mem active

theorem opened_pos (h : TableCore c) (found : c.getStream id = some s) (ne : s.slot ≠ .none) :
    1 ≤ (c.numStreams.slot s.slot).opened := by
  rw [h.opened _ ne]
  exact List.countP_pos_iff.2 ⟨s, (Conn.mem_of_getStream found).1, by simp⟩

theorem halfClosed_pos (h : TableCore c) (found : c.getStream id = some s) (ne : s.slot ≠ .none)
    (sending : s.state.sending = true) : 1 ≤ (c.numStreams.slot s.slot).halfClosed := by
  rw [h.halfClosed _ ne]
  exact List.countP_pos_iff.2 ⟨s, (Conn.mem_of_getStream found).1, by simp [sending]⟩

theorem blocked_pos (h : TableCore c) (found : c.getStream id = some s) (blocked : s.blockedByServer = true) :
    1 ≤ c.numStreams.blockedByServer := by
  rw [h.blocked]
  exact List.countP_pos_iff.2 ⟨s, (Conn.mem_of_getStream found).1, blocked⟩

end TableCore

theorem PushIdsBelow.of_streams {b : Nat} {c c' : Conn} (h : PushIdsBelow b c) (streams : c'.streams = c.streams) :
    PushIdsBelow b c' := by
  unfold PushIdsBelow; rw [streams]; exact h

namespace TableKept

variable {A : Prop} {c c' c'' : Conn}

/-- An assertion failed on the way. -/
theorem of_failed (k : Check) (grows : c.failed ++ [k] <+: c'.failed) : TableKept A c c' := by
  refine ⟨(List.prefix_append _ _).trans grows, fun _ _ same => ?_⟩
  have := grows.length_le
  simp only [same, List.length_append, List.length_singleton] at this
  omega

theorem trans_ite {p : Prop} [Decidable p] {a b : Conn} (h : TableKept A c b) (ha : p → TableKept A b a) :
    TableKept A c (if p then a else b) :=
  ite (fun hp => h.trans (ha hp)) fun _ => h

/-- The condition of `of_replace` on the stream `id`, found as `s`, and what `c'` counts. -/
def ReplaceOk (c c' : Conn) (id : Nat) (g : Stream → Stream) (s : Stream) : Prop :=
  c.getStream id = some s ∧ (g s).streamId = id ∧ (g s).Sound ∧
    (∀ σ, σ ≠ .none → (c'.numStreams.slot σ).opened + (if s.slot = σ then 1 else 0) =
      (c.numStreams.slot σ).opened + (if (g s).slot = σ then 1 else 0)) ∧
    (∀ σ, σ ≠ .none → (c'.numStreams.slot σ).halfClosed + (if s.slot = σ ∧ s.state.sending then 1 else 0) =
      (c.numStreams.slot σ).halfClosed + (if (g s).slot = σ ∧ (g s).state.sending then 1 else 0)) ∧
    c'.numStreams.blockedByServer + (if s.blockedByServer then 1 else 0) =
      c.numStreams.blockedByServer + (if (g s).blockedByServer then 1 else 0) ∧
    (id ∈ c.pendingReqs → (g s).Waiting) ∧ ((g s).schedActive = true → id ∉ c.write.streamsToProceed)

/-- A function that changes the stream `id`, found as `s`, into `g s`, moves the counters from
    what `s` adds to them to what `g s` does, and leaves the rest of the table alone, whatever
    its assertions say. -/
theorem of_replace_grows (id : Nat) (g : Stream → Stream) (grows : c.failed <+: c'.failed)
    (push : c'.pushMaxOpen = c.pushMaxOpen) (pending : c'.pendingReqs = c.pendingReqs)
    (proceed : c'.write.streamsToProceed = c.write.streamsToProceed) (streams : c'.streams = (c.modifyStream id g).streams)
    (h : A → TableOk c → ∃ s, ReplaceOk c c' id g s) : TableKept A c c' := by
  refine ⟨grows, fun a ok _ => ?_⟩
  obtain ⟨s, found, sid, sound, opened, halfClosed, blocked, waiting, active⟩ := h a ok
  have streams' := streams.trans (ok.core.modifyStream_eq found g)
  refine ⟨ok.core.replace found (g s) streams' sid sound opened halfClosed blocked pending waiting proceed active, ?_⟩
  rw [push]
  exact (ok.pushIds.modifyStream id fun _ _ => sid).of_streams streams'

theorem of_replace (id : Nat) (g : Stream → Stream) (failed : c'.failed = c.failed)
    (push : c'.pushMaxOpen = c.pushMaxOpen) (pending : c'.pendingReqs = c.pendingReqs)
    (proceed : c'.write.streamsToProceed = c.write.streamsToProceed) (streams : c'.streams = (c.modifyStream id g).streams)
    (h : A → TableOk c → ∃ s, ReplaceOk c c' id g s) : TableKept A c c' :=
  of_replace_grows id g (failed ▸ List.prefix_refl _) push pending proceed streams h

/-- Sequencing that hands on what the first part establishes when it appends nothing. -/
theorem seq {P : Prop} (h₁ : TableKept A c c') (post : A → TableOk c → c'.failed = c.failed → P)
    (h₂ : TableKept (A ∧ P) c' c'') : TableKept A c c'' := by
  refine ⟨h₁.grows.trans h₂.grows, fun a ok same => ?_⟩
  have mid := prefix_squeeze h₁.grows h₂.grows same
  exact h₂.keeps ⟨a, post a ok mid⟩ (h₁.keeps a ok mid) (same.trans mid.symm)

end TableKept

/-! ### The scheduler and the blocked-by-server flag -/

section Stream

variable {A : Prop} {c : Conn} {id : Nat}

theorem schedulerOpen_kept (parent : SchedParent) (weight : Nat) : TableKept A c (schedulerOpen c id parent weight) :=
  TableKept.modifyStream_view fun _ => rfl

theorem schedulerSetActive_false_kept : TableKept A c (schedulerSetActive c id false) :=
  TableKept.modifyStream (fun _ => rfl) fun _ ok _ found =>
    have sound := ok.core.sound_of_found found
    ⟨rfl, rfl, rfl, ⟨sound.slot, sound.bodyStarted, sound.unprocessed, sound.proceedBody, fun act => (nomatch act),
      sound.processedStarted⟩,
      fun memI => have w := ok.core.waiting found ((Conn.mem_of_getStream found).2 ▸ memI)
        ⟨w.ready, w.notFirstFrame, w.streamedIfOpen, w.unprocessed⟩,
      fun act => nomatch act⟩

/-- Scheduling a stream that is on neither list, as `update_stream_output_window` and
    `h2o_http2_conn_register_for_proceed_callback` do after asserting it: the stream has data to
    send or is sending its last. -/
theorem schedulerSetActive_true_kept (k : Check)
    (data : A → TableOk c → (c.stream id).hasPendingData = true ∨ .sendBodyIsFinal ≤ (c.stream id).state) :
    TableKept A c (schedulerSetActive (c.check (!c.isLinked id) k) id true) := by
  generalize hc1 : c.check _ _ = c1
  refine TableKept.of_check hc1 (List.prefix_refl _) fun notLinked same => ?_
  subst same
  replace notLinked := Conn.not_linked notLinked
  refine TableKept.modifyStream (fun _ => rfl) fun a ok s found => ?_
  have sound := ok.core.sound_of_found found
  have sid := (Conn.mem_of_getStream found).2
  rw [Conn.stream_of_found found] at data
  refine ⟨rfl, rfl, rfl, ⟨sound.slot, sound.bodyStarted, sound.unprocessed, sound.proceedBody, fun _ => data a ok,
    sound.processedStarted⟩,
    fun memI => ?_, fun _ => sid ▸ notLinked.2⟩
  have w := ok.core.waiting found (sid ▸ memI)
  exact ⟨w.ready, w.notFirstFrame, w.streamedIfOpen, w.unprocessed⟩

/-- Blocking a stream of the map, as `h2o_http2_stream_set_blocked_by_server` does. -/
theorem streamSetBlockedByServer_true_kept (present : A → TableOk c → (c.getStream id).isSome) :
    TableKept A c (streamSetBlockedByServer c id true) := by
  unfold streamSetBlockedByServer
  rw [if_pos rfl]
  generalize hc1 : c.check _ _ = c1
  refine TableKept.of_check hc1 (List.prefix_refl _) fun pass same => ?_
  subst same
  refine TableKept.of_replace id _ rfl rfl rfl rfl rfl fun a ok => ?_
  obtain ⟨s, found⟩ := Option.isSome_iff_exists.1 (present a ok)
  have sound := ok.core.sound_of_found found
  rw [Conn.stream_of_found found, Bool.not_eq_true'] at pass
  refine ⟨s, found, (Conn.mem_of_getStream found).2,
    ⟨sound.slot, sound.bodyStarted, sound.unprocessed, sound.proceedBody, sound.activeHasData, sound.processedStarted⟩,
    fun σ _ => by simp, fun σ _ => by simp, by simp [pass], fun memI => ?_, fun act => ok.core.not_proceeding found act⟩
  have w := ok.core.waiting found memI
  exact ⟨w.ready, w.notFirstFrame, w.streamedIfOpen, w.unprocessed⟩

/-- Unblocking a stream, as `h2o_http2_stream_set_blocked_by_server` does; it asserts that the
    stream was blocked. -/
theorem streamSetBlockedByServer_false_kept : TableKept A c (streamSetBlockedByServer c id false) := by
  unfold streamSetBlockedByServer
  rw [if_neg Bool.false_ne_true]
  generalize hc1 : c.check _ _ = c1
  refine TableKept.of_check hc1 (List.prefix_refl _) fun pass same => ?_
  subst same
  obtain ⟨s, found, hs⟩ := Conn.found_of_ne_fresh (fun s => s.blockedByServer = true) pass (by simp [Stream.fresh])
  rw [hs] at pass
  refine TableKept.of_replace id _ rfl rfl rfl rfl rfl fun a ok => ?_
  have sound := ok.core.sound_of_found found
  have pos := ok.core.blocked_pos found pass
  refine ⟨s, found, (Conn.mem_of_getStream found).2,
    ⟨sound.slot, sound.bodyStarted, sound.unprocessed, sound.proceedBody, sound.activeHasData, sound.processedStarted⟩,
    fun σ _ => by simp, fun σ _ => by simp, by simp [pass]; omega, fun memI => ?_,
    fun act => ok.core.not_proceeding found act⟩
  have w := ok.core.waiting found memI
  exact ⟨w.ready, w.notFirstFrame, w.streamedIfOpen, w.unprocessed⟩

/-! ### The state of a stream -/

/-- `h2o_http2_stream_set_state` to END_STREAM, with the fall of the half-closed count written as
    a test of `StreamState.sending`. -/
theorem streamSetState_endStream (c : Conn) (id : Nat) :
    streamSetState c id .endStream =
      let s := c.stream id
      let c1 := if s.state = .endStream then c.check false .setStateEndStream
        else if s.state.sending then c.mapSlot s.slot fun n => { n with halfClosed := n.halfClosed - 1 } else c
      let c3 := ((c1.setStreamState id .endStream).mapSlot s.slot fun n => { n with opened := n.opened - 1 }).modifyStream
        id fun s => { s with slot := .none }
      if s.blockedByServer then streamSetBlockedByServer c3 id false else c3 := by
  unfold streamSetState
  dsimp only
  cases (c.stream id).state <;> rfl

theorem streamSetState_endStream_kept : TableKept A c (streamSetState c id .endStream) := by
  rw [streamSetState_endStream]
  dsimp only
  refine TableKept.trans_ite ?_ fun _ => streamSetBlockedByServer_false_kept
  by_cases ended : (c.stream id).state = .endStream
  · rw [if_pos ended]
    exact TableKept.of_failed .setStateEndStream (by simp [Conn.setStreamState])
  rw [if_neg ended]
  cases found : c.getStream id with
  | none =>
    simp only [Conn.stream, found, Option.getD_none]
    have notSending : (Stream.fresh id 0 defaultPriority).state.sending = false := rfl
    simp only [notSending, Bool.false_eq_true, if_false]
    refine TableKept.of_table (Conn.table_eq ?_ rfl rfl rfl) rfl rfl
    simp only [Conn.setStreamState, Conn.mapSlot_modifyStream, Conn.mapSlot_streams]
    rw [Conn.modifyStream_modifyStream, Conn.modifyStream_of_none found]
    exact fun _ => rfl
  | some s =>
    rw [Conn.stream_of_found found] at ended ⊢
    generalize hc1 : (if s.state.sending = true then c.mapSlot s.slot
      (fun n => { n with halfClosed := n.halfClosed - 1 }) else c) = c1
    have same : c1.streams = c.streams ∧ c1.pendingReqs = c.pendingReqs ∧ c1.write = c.write ∧
        c1.pushMaxOpen = c.pushMaxOpen ∧ c1.failed = c.failed ∧
        c1.numStreams.blockedByServer = c.numStreams.blockedByServer := by
      subst hc1; split <;> exact ⟨rfl, rfl, rfl, rfl, rfl, by simp⟩
    refine TableKept.of_replace id (fun t => { t with state := .endStream, slot := .none }) same.2.2.2.2.1 same.2.2.2.1
      same.2.1 (congrArg WriteState.streamsToProceed same.2.2.1) ?_ fun a ok => ?_
    · simp only [Conn.setStreamState, Conn.mapSlot_modifyStream, Conn.mapSlot_streams]
      rw [Conn.modifyStream_modifyStream, Conn.modifyStream_streams_congr same.1]
      exacts [rfl, fun _ => rfl]
    have sound := ok.core.sound_of_found found
    have notNone : s.slot ≠ .none := by rwa [sound.slot, Ne, Stream.expectedSlot_eq_none]
    have opened := ok.core.opened_pos found notNone
    have halfClosed := ok.core.halfClosed_pos found notNone
    refine ⟨s, found, (Conn.mem_of_getStream found).2,
      ⟨rfl, fun _ => (by decide : StreamState.recvHeaders < .endStream),
        fun h => sound.unprocessed (.inr (h.resolve_left (by decide : ¬StreamState.endStream ≤ .recvHeaders))),
        sound.proceedBody, fun _ => .inr (by decide : StreamState.sendBodyIsFinal ≤ .endStream),
        fun _ => .inr (by decide : StreamState.sendHeaders ≤ .endStream)⟩,
      fun σ ne => ?_, fun σ ne => ?_, by simp [same.2.2.2.2.2], fun memI => ?_,
      fun act => ok.core.not_proceeding found act⟩
    · subst hc1
      by_cases here : s.slot = σ
      · subst here; split <;> simp [NumStreams.slot_mapSlot, ne, Ne.symm notNone] <;> omega
      · split <;> simp [NumStreams.slot_mapSlot, here, Ne.symm ne]
    · subst hc1
      by_cases here : s.slot = σ
      · subst here
        cases sending : s.state.sending <;> simp [NumStreams.slot_mapSlot, ne, sending]
        have := halfClosed sending
        omega
      · split <;> simp [NumStreams.slot_mapSlot, here, Ne.symm ne]
    · have w := ok.core.waiting found memI
      exact ⟨(by decide : StreamState.recvHeaders < .endStream), w.notFirstFrame, w.streamedIfOpen, w.unprocessed⟩

/-- To a target without an assertion (RECV_BODY, REQ_PENDING, SEND_BODY), from a state between
    IDLE and it that sends as the target does: no counter moves. -/
theorem streamSetState_quiet_kept {new : StreamState} (quiet : new = .recvBody ∨ new = .reqPending ∨ new = .sendBody)
    (h : A → TableOk c →
      .idle < (c.stream id).state ∧ (c.stream id).state ≤ new ∧ (c.stream id).state.sending = new.sending) :
    TableKept A c (streamSetState c id new) := by
  have eq : streamSetState c id new = c.setStreamState id new := by rcases quiet with rfl | rfl | rfl <;> rfl
  rw [eq]
  refine TableKept.modifyStream (fun _ => rfl) fun a ok s found => ?_
  obtain ⟨notIdle, le, sending⟩ := h a ok
  rw [Conn.stream_of_found found] at notIdle le sending
  obtain ⟨notEnd, newNotIdle, newNotEnd, ready, notFinal⟩ := StreamState.quiet_bounds quiet notIdle le
  have sound := ok.core.sound_of_found found
  have between : s.state ≠ .idle := fun e => Nat.lt_irrefl _ (e ▸ notIdle)
  refine ⟨rfl, sending.symm, rfl, sound.advance ?_ ready rfl rfl rfl rfl le fun act => ?_,
    fun memI => (ok.core.waiting found ((Conn.mem_of_getStream found).2 ▸ memI)).advance ready rfl rfl rfl,
    fun act => (Conn.mem_of_getStream found).2 ▸ ok.core.not_proceeding found act⟩
  · exact sound.slot.trans (Stream.expectedSlot_congr (by rfl) ⟨between, notEnd⟩ ⟨newNotIdle, newNotEnd⟩).symm
  · exact .inl ((sound.activeHasData act).resolve_right notFinal)

/-- To SEND_HEADERS, asserted to be from REQ_PENDING: the stream counts as half-closed. -/
theorem streamSetState_sendHeaders_kept : TableKept A c (streamSetState c id .sendHeaders) := by
  unfold streamSetState
  dsimp only
  generalize hc1 : c.check _ _ = c1
  refine TableKept.of_check hc1 (List.prefix_refl _) fun pass same => ?_
  subst same
  obtain ⟨s, found, hs⟩ := Conn.found_of_ne_fresh (fun s => (s.state == .reqPending) = true) pass
    (by simp [Stream.fresh])
  rw [hs, beq_iff_eq] at pass
  rw [hs]
  refine TableKept.of_replace id (fun t => { t with state := .sendHeaders }) rfl rfl rfl rfl rfl fun a ok => ?_
  have sound := ok.core.sound_of_found found
  have slot : ({ s with state := .sendHeaders } : Stream).slot = ({ s with state := .sendHeaders } : Stream).expectedSlot :=
    sound.slot.trans (Stream.expectedSlot_congr (by rfl) (by simp [pass]) (by simp)).symm
  have notNone : s.slot ≠ .none := by rw [sound.slot, Ne, Stream.expectedSlot_eq_none, pass]; decide
  have ready : StreamState.recvHeaders < .sendHeaders := by decide
  refine ⟨s, found, (Conn.mem_of_getStream found).2,
    sound.advance slot ready rfl rfl rfl rfl (by rw [pass]; exact (by decide : StreamState.reqPending ≤ .sendHeaders))
      fun act => .inl ?_, fun σ ne => ?_, fun σ ne => ?_, by simp,
    fun memI => (ok.core.waiting found memI).advance ready rfl rfl rfl,
    fun act => ok.core.not_proceeding found act⟩
  · exact (sound.activeHasData act).resolve_right (by rw [pass]; decide)
  · simp [NumStreams.slot_mapSlot, apply_ite NumStreamsSlot.opened]
  · by_cases here : s.slot = σ
    · subst here; simp [NumStreams.slot_mapSlot, ne, pass, StreamState.sending]
    · simp [NumStreams.slot_mapSlot, here, pass, StreamState.sending]

/-- To SEND_BODY_IS_FINAL, asserted to be from SEND_BODY. -/
theorem streamSetState_sendBodyIsFinal_kept : TableKept A c (streamSetState c id .sendBodyIsFinal) := by
  unfold streamSetState
  dsimp only
  generalize hc1 : c.check _ _ = c1
  refine TableKept.of_check hc1 (List.prefix_refl _) fun pass same => ?_
  subst same
  refine TableKept.modifyStream (fun _ => rfl) fun a ok s found => ?_
  rw [Conn.stream_of_found found, beq_iff_eq] at pass
  have sound := ok.core.sound_of_found found
  have slot : ({ s with state := .sendBodyIsFinal } : Stream).slot =
      ({ s with state := .sendBodyIsFinal } : Stream).expectedSlot :=
    sound.slot.trans (Stream.expectedSlot_congr (by rfl) (by simp [pass]) (by simp)).symm
  have ready : StreamState.recvHeaders < .sendBodyIsFinal := by decide
  refine ⟨rfl, by simp [pass, StreamState.sending], rfl,
    sound.advance slot ready rfl rfl rfl rfl (by rw [pass]; exact (by decide : StreamState.sendBody ≤ .sendBodyIsFinal))
      fun _ => .inr (Nat.le_refl _),
    fun memI => (ok.core.waiting found ((Conn.mem_of_getStream found).2 ▸ memI)).advance ready rfl rfl rfl,
    fun act => (Conn.mem_of_getStream found).2 ▸ ok.core.not_proceeding found act⟩

/-- To RECV_HEADERS, from IDLE: the stream moves from the priority-only slot to the pull or push
    slot of its id. -/
theorem TableCore.streamSetState_recvHeaders {s : Stream} (h : TableCore c) (found : c.getStream id = some s)
    (idle : s.state = .idle) : TableCore (streamSetState c id .recvHeaders) := by
  unfold streamSetState streamUpdateOpenSlot
  dsimp only
  rw [Conn.check_stream, Conn.stream_of_found found, idle]
  simp only [beq_self_eq_true, Conn.check_true]
  have sound := h.sound_of_found found
  have sid := (Conn.mem_of_getStream found).2
  have prio : s.slot = .priority := by rw [sound.slot, Stream.expectedSlot, idle]
  have notPending := h.not_pending found (by rw [idle]; decide)
  have pos := h.opened_pos found (by rw [prio]; decide)
  rw [prio] at pos ⊢
  have unprocessed : s.processCalled = false := sound.unprocessed (.inl (by rw [idle]; decide))
  have bodyNone : s.reqBodyState = .none := by
    by_contra started
    have := sound.bodyStarted started
    rw [idle] at this
    exact absurd this (by decide)
  refine h.replace found { s with slot := if streamIsPush id then .push else .pull, state := .recvHeaders } ?_ sid
    ⟨by simp [Stream.expectedSlot, sid], fun started => absurd bodyNone started, fun _ => unprocessed, sound.proceedBody,
      fun act => .inl ((sound.activeHasData act).resolve_right (by rw [idle]; decide)),
      fun processed => absurd (unprocessed.symm.trans processed) Bool.false_ne_true⟩
    (fun σ ne => ?_) (fun σ ne => ?_) (by simp) rfl (fun memI => absurd memI notPending) rfl
    fun act => h.not_proceeding found act
  · rw [Conn.setStreamState, Conn.modifyStream_modifyStream, Conn.mapSlot_modifyStream, Conn.mapSlot_modifyStream,
      Conn.mapSlot_streams, Conn.mapSlot_streams, h.modifyStream_eq found]
    · rfl
    · exact fun _ => rfl
  · cases streamIsPush id <;> cases σ <;> simp [NumStreams.slot_mapSlot, prio] at ne ⊢ <;> omega
  · cases streamIsPush id <;> cases σ <;> simp [NumStreams.slot_mapSlot, idle, StreamState.sending] at ne ⊢

@[simp] theorem streamSetBlockedByServer_pushMaxOpen (c : Conn) (id : Nat) (turnOn : Bool) :
    (streamSetBlockedByServer c id turnOn).pushMaxOpen = c.pushMaxOpen := by
  unfold streamSetBlockedByServer
  split <;> simp only [Conn.modifyStream_pushMaxOpen, Conn.check_eq]

@[simp] theorem streamSetState_pushMaxOpen (c : Conn) (id : Nat) (new : StreamState) :
    (streamSetState c id new).pushMaxOpen = c.pushMaxOpen := by
  unfold streamSetState streamUpdateOpenSlot
  dsimp only
  repeat' split
  all_goals simp only [Conn.check_eq, Conn.mapSlot_pushMaxOpen, Conn.setStreamState_pushMaxOpen,
    Conn.modifyStream_pushMaxOpen, streamSetBlockedByServer_pushMaxOpen]

theorem streamSetState_recvHeaders_failed (c : Conn) (id : Nat) :
    (streamSetState c id .recvHeaders).failed = (c.check ((c.stream id).state == .idle) .setStateRecvHeaders).failed := by
  unfold streamSetState streamUpdateOpenSlot
  simp only [Conn.setStreamState_failed, Conn.modifyStream_failed, Conn.mapSlot_failed]

theorem streamSetState_recvHeaders_streams (c : Conn) (id : Nat) : (streamSetState c id .recvHeaders).streams =
    (c.modifyStream id fun s => { s with slot := if streamIsPush id then .push else .pull, state := .recvHeaders }).streams := by
  unfold streamSetState streamUpdateOpenSlot
  dsimp only
  rw [Conn.setStreamState, Conn.modifyStream_modifyStream, Conn.mapSlot_modifyStream, Conn.mapSlot_modifyStream,
    Conn.mapSlot_streams, Conn.mapSlot_streams]
  · exact Conn.modifyStream_streams_congr (Conn.check_streams _ _ _) _ _
  · exact fun _ => rfl

/-- To RECV_HEADERS, on a stream of the map; the assertion that it was IDLE fails otherwise. -/
theorem streamSetState_recvHeaders_kept (present : A → TableOk c → (c.getStream id).isSome) :
    TableKept A c (streamSetState c id .recvHeaders) := by
  have failed := streamSetState_recvHeaders_failed c id
  refine ⟨by rw [failed]; exact TableKept.check_grows _ _ _, fun a ok same => ?_⟩
  obtain ⟨s, found⟩ := Option.isSome_iff_exists.1 (present a ok)
  have idle : s.state = .idle := by
    rw [failed, Conn.check_failed, Conn.stream_of_found found] at same
    by_contra notIdle
    simp only [beq_iff_eq, notIdle, if_false, List.append_right_eq_self, reduceCtorEq] at same
  refine ⟨ok.core.streamSetState_recvHeaders found idle, ?_⟩
  rw [streamSetState_pushMaxOpen]
  exact (ok.pushIds.modifyStream id fun _ same => by exact same).of_streams (streamSetState_recvHeaders_streams c id)

/-! ### Opening a stream -/

theorem streamOpen_of_absent (absent : c.getStream id = none) (priority : Priority) :
    streamOpen c id priority = Conn.mapSlot
      { c with streams := c.streams ++ [{ Stream.fresh id c.peerSettings.initialWindowSize priority with slot := .priority }] }
      .priority fun n => { n with opened := n.opened + 1 } := by
  unfold streamOpen connRegisterStream
  dsimp only
  split
  · next found => simp [Stream.fresh, absent] at found
  · rfl

@[simp] theorem streamOpen_failed (priority : Priority) : (streamOpen c id priority).failed = c.failed := by
  unfold streamOpen connRegisterStream
  dsimp only
  split <;> rfl

@[simp] theorem streamOpen_pushMaxOpen (priority : Priority) : (streamOpen c id priority).pushMaxOpen = c.pushMaxOpen := by
  unfold streamOpen connRegisterStream
  dsimp only
  split <;> rfl

theorem TableCore.streamOpen (h : TableCore c) (absent : c.getStream id = none) (priority : Priority) :
    TableCore (streamOpen c id priority) := by
  rw [streamOpen_of_absent absent]
  refine h.insert _ absent rfl ⟨rfl, fun started => absurd rfl started, fun _ => rfl, fun asked => (nomatch asked),
    fun act => (nomatch act), fun processed => (nomatch processed)⟩ (fun σ _ => ?_) (fun σ _ => ?_) rfl rfl rfl
  · cases σ <;> simp [NumStreams.slot_mapSlot]
  · cases σ <;> simp [NumStreams.slot_mapSlot, Stream.fresh, StreamState.sending]

/-- A new push stream is within the bound `b` when its id is. -/
theorem PushIdsBelow.streamOpen {b : Nat} (h : PushIdsBelow b c) (absent : c.getStream id = none) (priority : Priority)
    (within : streamIsPush id = true → id ≤ b ∧ id ≤ 0x7ffffffe) : PushIdsBelow b (streamOpen c id priority) := by
  rw [streamOpen_of_absent absent]
  intro s mem push
  rcases List.mem_append.1 mem with mem | mem
  · exact h s mem push
  · rw [List.mem_singleton.1 mem] at push ⊢
    exact within push

/-- Opening a pull stream under an id that is not in the map. -/
theorem streamOpen_kept (priority : Priority) (h : A → TableOk c → c.getStream id = none ∧ streamIsPush id = false) :
    TableKept A c (streamOpen c id priority) := by
  refine ⟨by simp only [streamOpen_failed, List.prefix_refl], fun a ok _ => ?_⟩
  obtain ⟨absent, pull⟩ := h a ok
  refine ⟨ok.core.streamOpen absent priority, ?_⟩
  rw [streamOpen_pushMaxOpen]
  exact ok.pushIds.streamOpen absent priority fun push => absurd push (by simp [pull])

/-- `h2o_http2_stream_prepare_for_request` on a stream of the map. -/
theorem streamPrepareForRequest_kept (present : A → TableOk c → (c.getStream id).isSome) :
    TableKept A c (streamPrepareForRequest c id) := by
  refine TableKept.assume ?_
  unfold streamPrepareForRequest
  lift_lets
  intro c1 c2
  refine TableKept.trans (?_ : TableKept _ c c2) ((streamSetState_recvHeaders_kept fun ⟨a, ok⟩ _ => ?_).trans
    (TableKept.modifyStream_view fun _ => rfl))
  · exact (TableKept.check _ _).trans (TableKept.ite (fun _ => TableKept.raisePushMaxOpen (le_max_left _ _))
      fun _ => TableKept.ite (fun _ => TableKept.of_table rfl rfl rfl) fun _ => TableKept.refl)
  · simp only [c2]
    split <;> (try split) <;> simpa [c1] using present a ok

/-! ### The request body -/

/-- Moving the request body of a stream to `new`, other than `none`: the stream's headers are
    in, a body waiting for its first frame belongs to a request not yet processed, and a stream
    in the pending queue moves only to a state the queue allows. -/
theorem setReqBody_kept {new : ReqBodyState} (ne : new ≠ .none)
    (h : A → TableOk c → .recvHeaders < (c.stream id).state ∧
      (new = .openBeforeFirstFrame → (c.stream id).processCalled = false) ∧
      (id ∈ c.pendingReqs → new ≠ .openBeforeFirstFrame ∧ (new = .opened → (c.stream id).proceedReq = true))) :
    TableKept A c (c.modifyStream id fun s => { s with reqBodyState := new }) := by
  refine TableKept.modifyStream (fun _ => rfl) fun a ok s found => ?_
  obtain ⟨ready, unprocessed, queued⟩ := h a ok
  rw [Conn.stream_of_found found] at ready unprocessed queued
  have sound := ok.core.sound_of_found found
  have sid := (Conn.mem_of_getStream found).2
  refine ⟨rfl, rfl, rfl, ⟨sound.slot, fun _ => ready, fun early => ?_, fun _ => ne, sound.activeHasData,
    sound.processedStarted⟩,
    fun memI => ?_, fun act => sid ▸ ok.core.not_proceeding found act⟩
  · rcases early with le | first
    · exact absurd le (Nat.not_le_of_lt ready)
    · exact unprocessed first
  · have w := ok.core.waiting found (sid ▸ memI)
    obtain ⟨notFirst, streamed⟩ := queued (sid ▸ memI)
    exact ⟨w.ready, notFirst, streamed, w.unprocessed⟩

/-- `set_req_body_state`, under the conditions of `setReqBody_kept` on the stream as it was. -/
theorem setReqBodyState_kept {new : ReqBodyState}
    (h : A → TableOk c → .recvHeaders < (c.stream id).state ∧
      (new = .openBeforeFirstFrame → (c.stream id).processCalled = false) ∧
      (id ∈ c.pendingReqs → new ≠ .openBeforeFirstFrame ∧ (new = .opened → (c.stream id).proceedReq = true))) :
    TableKept A c (setReqBodyState c id new) := by
  refine TableKept.assume ?_
  unfold setReqBodyState
  cases new <;> dsimp only
  case none =>
    have below : ¬(c.stream id).reqBodyState < .none := Nat.not_lt_zero _
    refine TableKept.of_failed .setReqBodyStateAdvance ?_
    rw [Conn.modifyStream_failed, Conn.check_failed, Conn.check_failed, if_neg Bool.false_ne_true,
      if_neg (by simpa using below)]
    exact List.prefix_append _ _
  case closeDelivered =>
    generalize hc1 : c.check _ _ = c1
    generalize hc3 : c1.check _ _ = c3
    refine TableKept.checked_of hc1 (TableKept.checked_of hc3 (TableKept.trans (TableKept.ite ?_ ?_)
      (setReqBody_kept (by decide : ReqBodyState.closeDelivered ≠ .none) fun x _ => ?_)))
    · exact fun _ => TableKept.of_table rfl rfl rfl
    · exact fun _ => TableKept.refl
    subst hc1 hc3
    obtain ⟨⟨⟨a, ok⟩, _⟩, _⟩ := x
    split <;> simpa using h a ok
  all_goals exact TableKept.checked (setReqBody_kept (by decide) fun ⟨⟨a, ok⟩, _⟩ _ => by simpa using h a ok)

end Stream

end H2oHttp2
