import H2oHttp2.Events

/-!
# The recently-closed ring

`h2o_http2_conn_preserve_stream_scheduler` keeps the scheduler node of a closed stream in the
ring `_recently_closed_streams`, so that a stream opened later can still name it as its
dependency. On the ring the call is `RecentlyClosed.preserve`
(`connPreserveStreamScheduler_recentlyClosed`). `RecentlyClosed.Holds ids` says what the ring
is once the streams `ids` were preserved, in order, from the empty ring `create_conn` makes:
`next_slot` is `n mod K`, exactly the first `min n K` slots are filled, each with an open node,
and each of the last `min n K` streams sits in slot `j mod K` (`Holds.preserve`). So the slot a
call reuses keeps the oldest entry (`Holds.next_oldest`), whose node the call asserts open and
closes (`connPreserveStreamScheduler_log`, `connPreserveStreamScheduler_failed`), and the loop of
`close_connection_now`, which stops at the first empty slot, asserts open, closes and frees every
node (`Holds.cleanup`).
-/
namespace H2oHttp2

namespace RecentlyClosed

/-- The node kept in slot `i`, if any. -/
def slot (r : RecentlyClosed) (i : Nat) : Option ClosedNode := (r.streams[i]?).join

/-- The ring as `h2o_http2_conn_preserve_stream_scheduler` leaves it: `node` in slot
    `next_slot`, evicting the node kept there, and `next_slot` one further round the ring. -/
def preserve (r : RecentlyClosed) (node : ClosedNode) : RecentlyClosed :=
  ⟨r.streams.set r.nextSlot (some node), if r.nextSlot + 1 = closedStreamPriorities then 0 else r.nextSlot + 1⟩

/-- The ring once the streams `ids` were preserved, in this order, from the empty ring. -/
structure Holds (ids : List Nat) (r : RecentlyClosed) : Prop where
  length : r.streams.length = closedStreamPriorities
  nextSlot : r.nextSlot = ids.length % closedStreamPriorities
  filled : ∀ i < closedStreamPriorities, (r.slot i).isSome ↔ i < ids.length
  opened : ∀ i node, r.slot i = some node → node.schedOpen = true
  last : ∀ j < ids.length, ids.length ≤ j + closedStreamPriorities →
    (r.slot (j % closedStreamPriorities)).map (·.streamId) = ids[j]?

theorem holds_empty : Holds [] ⟨List.replicate closedStreamPriorities none, 0⟩ :=
  ⟨by simp, rfl, fun i lt => by simp [slot, lt],
    fun i _ filled => by (rw [slot, List.getElem?_replicate] at filled; split at filled <;> cases filled),
    fun _ lt => absurd lt (Nat.not_lt_zero _)⟩

theorem slot_preserve (r : RecentlyClosed) (node : ClosedNode) (i : Nat) (lt : r.nextSlot < r.streams.length) :
    (r.preserve node).slot i = if i = r.nextSlot then some node else r.slot i := by
  by_cases same : i = r.nextSlot
  · simp [slot, preserve, same, lt]
  · simp [slot, preserve, same, Ne.symm same]

/-- Preserving one more stream keeps the ring in shape. -/
theorem Holds.preserve {ids : List Nat} {r : RecentlyClosed} (h : Holds ids r) (node : ClosedNode)
    (opened : node.schedOpen = true) : Holds (ids ++ [node.streamId]) (r.preserve node) := by
  have K : closedStreamPriorities = 10 := rfl
  have lt : r.nextSlot < r.streams.length := by rw [h.nextSlot, h.length, K]; omega
  have slot := slot_preserve r node
  refine ⟨by simp [RecentlyClosed.preserve, h.length], ?_, fun i hi => ?_, fun i n filled => ?_, fun j hj window => ?_⟩
  · simp only [RecentlyClosed.preserve, h.nextSlot, List.length_append, List.length_singleton, K]
    split <;> omega
  · rw [slot i lt, h.nextSlot]
    have := h.filled i hi
    split <;> simp_all <;> omega
  · rw [slot i lt] at filled
    split at filled
    · exact Option.some.inj filled ▸ opened
    · exact h.opened i n filled
  · rw [slot _ lt, h.nextSlot]
    simp only [List.length_append, List.length_singleton] at hj window
    by_cases newest : j = ids.length
    · subst newest
      simp
    · have older : j < ids.length := by omega
      rw [if_neg (by rw [K] at window ⊢; omega), h.last j older (by omega), List.getElem?_append_left older]

/-- Once the ring is full, the slot the next call reuses keeps the oldest of the streams it
    holds. -/
theorem Holds.next_oldest {ids : List Nat} {r : RecentlyClosed} (h : Holds ids r)
    (full : closedStreamPriorities ≤ ids.length) :
    (r.slot r.nextSlot).map (·.streamId) = ids[ids.length - closedStreamPriorities]? := by
  have K : closedStreamPriorities = 10 := rfl
  have same : (ids.length - closedStreamPriorities) % closedStreamPriorities = r.nextSlot := by
    rw [h.nextSlot, K]; rw [K] at full; omega
  rw [← same]
  exact h.last _ (by rw [K] at full ⊢; omega) (by omega)

/-- Before the ring is full, the slot the next call takes is empty. -/
theorem Holds.next_empty {ids : List Nat} {r : RecentlyClosed} (h : Holds ids r) (room : ids.length < closedStreamPriorities) :
    r.slot r.nextSlot = none := by
  have at_n : r.nextSlot = ids.length := by rw [h.nextSlot, Nat.mod_eq_of_lt room]
  have := h.filled r.nextSlot (at_n ▸ room)
  rw [at_n] at this ⊢
  simpa using this

/-- Slots filled exactly below `m` are filled slots followed by empty ones. -/
theorem eq_filled_prefix {l : List (Option ClosedNode)} {m : Nat}
    (filled : ∀ i < l.length, (l[i]?.join).isSome ↔ i < m) :
    ∃ xs : List ClosedNode, l = xs.map some ++ List.replicate (l.length - xs.length) none ∧
      xs.length = min m l.length := by
  induction l generalizing m with
  | nil => exact ⟨[], by simp, by simp⟩
  | cons a l ih =>
    have head := filled 0 (by simp)
    cases a with
    | some x =>
      have pos : 0 < m := by simpa using head
      obtain ⟨xs, eq, len⟩ := ih (m := m - 1) fun i hi => by
        have := filled (i + 1) (by simp; omega)
        simp only [List.getElem?_cons_succ] at this
        rw [this]
        omega
      exact ⟨x :: xs, by simp [← eq], by simp [len]; omega⟩
    | none =>
      have m0 : m = 0 := by simpa using head.symm
      refine ⟨[], ?_, by simp [m0]⟩
      simp only [List.map_nil, List.nil_append, List.length_cons, List.length_nil, Nat.sub_zero,
        List.replicate_succ, List.cons.injEq, true_and]
      refine List.eq_replicate_iff.2 ⟨rfl, fun x hx => ?_⟩
      obtain ⟨i, hi, rfl⟩ := List.getElem_of_mem hx
      have := filled (i + 1) (by simp; omega)
      simpa [List.getElem?_eq_getElem hi, m0] using this

theorem Holds.filledSlots {ids : List Nat} {r : RecentlyClosed} (h : Holds ids r) :
    ∀ i < r.streams.length, (r.streams[i]?.join).isSome ↔ i < ids.length :=
  fun i hi => h.filled i (h.length ▸ hi)

/-- The ring never keeps more than `K` nodes: it keeps one for each of the last `min n K`
    streams. -/
theorem Holds.count {ids : List Nat} {r : RecentlyClosed} (h : Holds ids r) :
    (r.streams.filterMap id).length = min ids.length closedStreamPriorities := by
  obtain ⟨xs, eq, len⟩ := eq_filled_prefix h.filledSlots
  rw [eq, ← h.length, ← len]
  simp [List.filterMap_append]

/-- A ring whose filled slots are `xs` followed by empty ones keeps in slot `i` the `i`-th of
    `xs`. -/
theorem slot_eq_of_filled {r : RecentlyClosed} {xs : List ClosedNode} {k : Nat}
    (eq : r.streams = xs.map some ++ List.replicate k none) (i : Nat) : r.slot i = xs[i]? := by
  rw [slot, eq]
  by_cases lt : i < xs.length
  · rw [List.getElem?_append_left (by simpa using lt), List.getElem?_map]
    cases xs[i]? <;> rfl
  · rw [List.getElem?_append_right (by simpa using lt), List.getElem?_replicate,
      (List.getElem?_eq_none (by omega) : xs[i]? = none)]
    split <;> rfl

/-- The nodes the ring loop of `close_connection_now` meets, up to the first empty slot, are
    the nodes of the last `min n K` streams, each of them open. -/
theorem Holds.closedNodes {ids : List Nat} {r : RecentlyClosed} (h : Holds ids r) :
    ((r.streams.takeWhile (·.isSome)).filterMap id).length = min ids.length closedStreamPriorities ∧
      (∀ node ∈ (r.streams.takeWhile (·.isSome)).filterMap id, node.schedOpen = true) ∧
      ∀ x ∈ ids.drop (ids.length - closedStreamPriorities),
        x ∈ ((r.streams.takeWhile (·.isSome)).filterMap id).map (·.streamId) := by
  obtain ⟨xs, eq, len⟩ := eq_filled_prefix h.filledSlots
  have nodes : (r.streams.takeWhile (·.isSome)).filterMap id = xs := by
    rw [eq]
    simp [List.takeWhile_append_of_pos, List.takeWhile_replicate]
  rw [nodes, len, h.length]
  refine ⟨rfl, fun node mem => ?_, fun x mem => ?_⟩
  · obtain ⟨i, at_i⟩ := List.mem_iff_getElem?.1 mem
    exact h.opened i node (slot_eq_of_filled eq i ▸ at_i)
  · obtain ⟨j, at_j⟩ := List.mem_iff_getElem?.1 mem
    have lt : j < ids.length - (ids.length - closedStreamPriorities) := by
      by_contra ge
      rw [List.getElem?_eq_none (by simp; omega)] at at_j
      cases at_j
    rw [List.getElem?_drop] at at_j
    have kept := h.last (ids.length - closedStreamPriorities + j) (by omega) (by omega)
    rw [at_j, slot_eq_of_filled eq] at kept
    obtain ⟨node, mem_xs, rfl⟩ := Option.map_eq_some'.1 kept
    exact List.mem_map_of_mem _ (List.getElem?_mem mem_xs)

/-- The loop of `close_connection_now`, which stops at the first empty slot, frees every node the
    ring keeps. -/
theorem Holds.freeNodes {ids : List Nat} {r : RecentlyClosed} (h : Holds ids r) (i : Nat) :
    r.freeNodes.slot i = none := by
  obtain ⟨xs, eq, -⟩ := eq_filled_prefix h.filledSlots
  have empty : ∀ x ∈ r.freeNodes.streams, x = none := by
    simp only [RecentlyClosed.freeNodes]
    rw [eq]
    intro x hx
    simp [List.takeWhile_append_of_pos, List.dropWhile_append_of_pos, List.takeWhile_replicate,
      List.dropWhile_replicate] at hx
    rcases hx with ⟨-, rfl⟩ | ⟨-, rfl⟩ <;> rfl
  unfold slot
  cases hx : r.freeNodes.streams[i]? with
  | none => rfl
  | some x => simp [empty x (List.getElem?_mem hx)]

end RecentlyClosed

/-- The ring loop of `close_connection_now` closes the scheduler node of each node it meets,
    in order. -/
theorem foldl_closeClosedNode_log (nodes : List ClosedNode) (c : Conn) :
    (nodes.foldl (fun d node => closeClosedNode d node .closeNowClosedOpen) c).log =
      c.log ++ nodes.map fun node => .schedulerClose node.streamId := by
  induction nodes generalizing c with
  | nil => simp
  | cons node nodes ih =>
    rw [List.foldl_cons, ih]
    simp [closeClosedNode, Conn.check_eq]

/-- Over open nodes, the ring loop of `close_connection_now` fails none of its assertions. -/
theorem foldl_closeClosedNode_failed (nodes : List ClosedNode) (c : Conn)
    (opened : ∀ node ∈ nodes, node.schedOpen = true) :
    (nodes.foldl (fun d node => closeClosedNode d node .closeNowClosedOpen) c).failed = c.failed := by
  induction nodes generalizing c with
  | nil => rfl
  | cons node nodes ih =>
    rw [List.foldl_cons, ih _ fun n mem => opened n (.tail _ mem)]
    simp [closeClosedNode, opened node (.head _)]

/-- On a ring in shape, the ring loop of `close_connection_now` fails none of its assertions,
    closes the scheduler node of each of the last `min n K` streams, and frees every slot. -/
theorem RecentlyClosed.Holds.cleanup {ids : List Nat} {c : Conn} (h : c.recentlyClosed.Holds ids) :
    (closeRecentlyClosed c).failed = c.failed ∧
      (∃ closed : List Nat, (closeRecentlyClosed c).log = c.log ++ closed.map .schedulerClose ∧
        closed.length = min ids.length closedStreamPriorities ∧
        ∀ x ∈ ids.drop (ids.length - closedStreamPriorities), x ∈ closed) ∧
      ∀ i, (closeRecentlyClosed c).recentlyClosed.slot i = none := by
  obtain ⟨len, opened, kept⟩ := h.closedNodes
  refine ⟨foldl_closeClosedNode_failed _ c opened, ⟨_, ?_, by rw [List.length_map, len], kept⟩, h.freeNodes⟩
  rw [closeRecentlyClosed, foldl_closeClosedNode_log, List.map_map]
  rfl

/-- `h2o_http2_conn_preserve_stream_scheduler` acts on the ring as `RecentlyClosed.preserve`,
    with the stream's id and weight and an open node. -/
theorem connPreserveStreamScheduler_recentlyClosed (c : Conn) (id : Nat) :
    (connPreserveStreamScheduler c id).recentlyClosed =
      c.recentlyClosed.preserve ⟨id, (c.stream id).schedWeight, true⟩ := by
  unfold connPreserveStreamScheduler
  dsimp only
  split <;> simp [RecentlyClosed.preserve, closeClosedNode, Conn.check_eq]

/-- The call closes the scheduler node it evicts from the slot it reuses, if there is one. -/
theorem connPreserveStreamScheduler_log (c : Conn) (id : Nat) :
    (connPreserveStreamScheduler c id).log =
      c.log ++ ((c.recentlyClosed.slot c.recentlyClosed.nextSlot).map
        fun node => .schedulerClose node.streamId).toList := by
  unfold connPreserveStreamScheduler
  dsimp only
  split <;> rename_i evicted <;> change (Conn.check _ _ _).recentlyClosed.slot _ = _ at evicted <;>
    simp only [Conn.check_eq] at evicted <;> simp [closeClosedNode, Conn.check_eq, evicted]

/-- The call asserts that the closing stream's scheduler node is open; the node it evicts passes
    its assertion when open. -/
theorem connPreserveStreamScheduler_failed (c : Conn) (id : Nat)
    (opened : ∀ node, c.recentlyClosed.slot c.recentlyClosed.nextSlot = some node → node.schedOpen = true) :
    (connPreserveStreamScheduler c id).failed = (c.check (c.stream id).schedOpen .preserveSchedulerOpen).failed := by
  unfold connPreserveStreamScheduler
  dsimp only
  split <;> rename_i evicted <;> change (Conn.check _ _ _).recentlyClosed.slot _ = _ at evicted <;>
    simp only [Conn.check_eq] at evicted
  · simp [closeClosedNode, opened _ evicted]
  · simp

/-- The call marks the closing stream's scheduler node closed and inactive, and touches no other
    stream. -/
theorem connPreserveStreamScheduler_streams (c : Conn) (id : Nat) :
    (connPreserveStreamScheduler c id).streams =
      (c.modifyStream id fun s => { s with schedOpen := false, schedActive := false }).streams := by
  unfold connPreserveStreamScheduler
  dsimp only
  split <;> simp [closeClosedNode, Conn.check_eq, Conn.modifyStream]

theorem connPreserveStreamScheduler_stream (c : Conn) {id x : Nat} (other : x ≠ id) :
    (connPreserveStreamScheduler c id).stream x = c.stream x := by
  rw [Conn.stream_congr (connPreserveStreamScheduler_streams c id)]
  simp [other]

/-- The connection after `h2o_http2_conn_preserve_stream_scheduler` was called for each of
    `ids` in turn. -/
def preserveAll (c : Conn) (ids : List Nat) : Conn := ids.foldl connPreserveStreamScheduler c

/-- The ring after the calls of `preserveAll`. -/
def ringAfter (c : Conn) (ids : List Nat) : RecentlyClosed := (preserveAll c ids).recentlyClosed

theorem ringAfter_holds (c : Conn) (ids pre : List Nat) (h : c.recentlyClosed.Holds pre) :
    (ringAfter c ids).Holds (pre ++ ids) := by
  induction ids generalizing c pre with
  | nil => simpa [ringAfter, preserveAll] using h
  | cons id ids ih =>
    have := ih (connPreserveStreamScheduler c id) (pre ++ [id])
      (by rw [connPreserveStreamScheduler_recentlyClosed]; exact h.preserve ⟨id, (c.stream id).schedWeight, true⟩ rfl)
    simpa [ringAfter, preserveAll] using this

/-- Preserving distinct streams whose scheduler nodes are open fails no assertion, neither the
    closing stream's nor the evicted node's. -/
theorem preserveAll_failed (c : Conn) (ids pre : List Nat) (h : c.recentlyClosed.Holds pre)
    (nodup : ids.Nodup) (opened : ∀ x ∈ ids, (c.stream x).schedOpen = true) :
    (preserveAll c ids).failed = c.failed := by
  induction ids generalizing c pre with
  | nil => rfl
  | cons id ids ih =>
    obtain ⟨fresh, nodup⟩ := List.nodup_cons.1 nodup
    have ring : (connPreserveStreamScheduler c id).recentlyClosed.Holds (pre ++ [id]) := by
      rw [connPreserveStreamScheduler_recentlyClosed]; exact h.preserve ⟨id, (c.stream id).schedWeight, true⟩ rfl
    have failed := connPreserveStreamScheduler_failed c id (h.opened _)
    rw [opened id (.head _), Conn.check_true] at failed
    have later : ∀ x ∈ ids, ((connPreserveStreamScheduler c id).stream x).schedOpen = true := fun x mem => by
      rw [connPreserveStreamScheduler_stream c (by rintro rfl; exact fresh mem)]
      exact opened x (.tail _ mem)
    rw [preserveAll, List.foldl_cons, ← preserveAll, ih _ _ ring nodup later, failed]

/-- What `recently_closed_ring_keeps_last` says of the streams `ids` preserved from the
    ring `create_conn` makes, of the next call, for the stream `next`, and of the cleanup
    of `close_connection_now`. -/
structure RingRun (c : Conn) (ids : List Nat) (next : Nat) : Prop where
  /-- The ring is in shape. -/
  holds : (ringAfter c ids).Holds ids
  /-- It keeps `min n K` nodes. -/
  count : ((ringAfter c ids).streams.filterMap id).length = min ids.length closedStreamPriorities
  /-- Once it is full, the slot the next call reuses keeps the oldest of them. -/
  oldest : closedStreamPriorities ≤ ids.length →
    ((ringAfter c ids).slot (ringAfter c ids).nextSlot).map (·.streamId) = ids[ids.length - closedStreamPriorities]?
  /-- The next call closes the scheduler node of that oldest stream, and no other. -/
  evicts : (connPreserveStreamScheduler (preserveAll c ids) next).log =
    (preserveAll c ids).log ++ (if closedStreamPriorities ≤ ids.length
      then [Trace.schedulerClose ids[ids.length - closedStreamPriorities]!] else [])
  /-- The next call fails no assertion but its own stream's. -/
  evictOpen : (connPreserveStreamScheduler (preserveAll c ids) next).failed =
    ((preserveAll c ids).check ((preserveAll c ids).stream next).schedOpen .preserveSchedulerOpen).failed
  /-- The calls fail no assertion when the streams are distinct and their nodes open. -/
  noFailure : ids.Nodup → (∀ x ∈ ids, (c.stream x).schedOpen = true) → (preserveAll c ids).failed = c.failed
  /-- The cleanup of `close_connection_now` fails no assertion, closes the node of each
      stream the ring keeps, and frees every slot. -/
  cleanup : (closeRecentlyClosed (preserveAll c ids)).failed = (preserveAll c ids).failed ∧
    (∃ closed : List Nat, (closeRecentlyClosed (preserveAll c ids)).log =
        (preserveAll c ids).log ++ closed.map .schedulerClose ∧
      closed.length = min ids.length closedStreamPriorities ∧
      ∀ x ∈ ids.drop (ids.length - closedStreamPriorities), x ∈ closed) ∧
    ∀ i, (closeRecentlyClosed (preserveAll c ids)).recentlyClosed.slot i = none

/-- The slot the next call reuses keeps the oldest stream once the ring is full, and nothing
    before. -/
theorem RecentlyClosed.Holds.next_slot {ids : List Nat} {r : RecentlyClosed} (h : r.Holds ids) :
    (r.slot r.nextSlot).map (fun node => Trace.schedulerClose node.streamId) =
      if closedStreamPriorities ≤ ids.length
        then some (.schedulerClose ids[ids.length - closedStreamPriorities]!) else none := by
  have pos : 0 < closedStreamPriorities := by decide
  split
  · rename_i full
    have oldest := h.next_oldest full
    rw [List.getElem?_eq_getElem (by omega)] at oldest
    obtain ⟨node, at_next, same⟩ := Option.map_eq_some'.1 oldest
    rw [at_next, Option.map_some', same, getElem!_pos ids _ (by omega)]
  · rw [h.next_empty (by omega), Option.map_none']

/-- After any number `n` of preserved streams from the ring `create_conn` makes, the ring is
    filled in its first `min n K` slots with the last `min n K` streams, the next call
    evicts and closes the oldest of them once the ring is full, and the cleanup of
    `close_connection_now` closes and frees them all. -/
theorem recently_closed_ring_keeps_last (c : Conn) (ids : List Nat) (next : Nat)
    (fresh : c.recentlyClosed = createConn.recentlyClosed) : RingRun c ids next := by
  have empty : c.recentlyClosed.Holds [] := fresh ▸ RecentlyClosed.holds_empty
  have h : (ringAfter c ids).Holds ids := by simpa using ringAfter_holds c ids [] empty
  refine ⟨h, h.count, h.next_oldest, ?_, connPreserveStreamScheduler_failed _ next (h.opened _),
    fun nodup opened => preserveAll_failed c ids [] empty nodup opened, h.cleanup⟩
  rw [connPreserveStreamScheduler_log, ← ringAfter, h.next_slot]
  split <;> rfl

/-- Eleven streams closed on the connection `create_conn` makes. -/
def elevenClosed : List Nat := (List.range 11).map (2 * · + 1)

/-- The connection `create_conn` makes, with the eleven streams of `elevenClosed` open in
    the scheduler. -/
def elevenOpen : Conn :=
  { createConn with streams := elevenClosed.map fun id => { Stream.fresh id 65535 defaultPriority with schedOpen := true } }

/-- The run over the eleven streams of `elevenClosed`: stream 1 was evicted for stream 21. -/
theorem ring_after_eleven_streams : RingRun elevenOpen elevenClosed 23 :=
  recently_closed_ring_keeps_last elevenOpen elevenClosed 23 rfl

set_option maxRecDepth 4000 in
example : (ringAfter elevenOpen elevenClosed).slot 0 = some ⟨21, 0, true⟩ ∧
    (ringAfter elevenOpen elevenClosed).nextSlot = 1 ∧ (preserveAll elevenOpen elevenClosed).failed = [] ∧
    (preserveAll elevenOpen elevenClosed).log = [.schedulerClose 1] := by decide

end H2oHttp2
