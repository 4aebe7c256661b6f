import H2oHttp2.State

/-!
# Stream bookkeeping

The helpers `connection.c` calls from `stream.c`, `http2_internal.h`, `http2_common.h` and
`scheduler.c`, none of which is in the sources: windows, the stream state machine with the
`num_streams` counters it keeps, opening a stream and preparing it for a request, and the
scheduler reference of a stream. Each is modelled from the spec.
-/
namespace H2oHttp2

/-- `h2o_http2_window_update`. Modelled from the spec: an update fails (`none`) iff the
    window would exceed `2^31 - 1` (§4.1). -/
def windowUpdate (avail delta : Int) : Option Int :=
  if avail + delta ≤ int32Max then some (avail + delta) else none

/-- `h2o_http2_stream_is_push`. Modelled from the spec: server-initiated streams have even
    ids (glossary). -/
def streamIsPush (id : Nat) : Bool := id % 2 == 0

/-- The counters of one slot of `num_streams`, changed by `f`. -/
def NumStreams.mapSlot (n : NumStreams) (slot : Slot) (f : NumStreamsSlot → NumStreamsSlot) :
    NumStreams :=
  match slot with
  | .none => n
  | .priority => { n with priority := f n.priority }
  | .pull => { n with pull := f n.pull }
  | .push => { n with push := f n.push }

namespace Conn

def mapSlot (c : Conn) (slot : Slot) (f : NumStreamsSlot → NumStreamsSlot) : Conn :=
  { c with numStreams := c.numStreams.mapSlot slot f }

def setStreamState (c : Conn) (id : Nat) (new : StreamState) : Conn :=
  c.modifyStream id fun s => { s with state := new }

variable (c : Conn) (slot : Slot) (f : NumStreamsSlot → NumStreamsSlot) (id : Nat)

@[simp] theorem mapSlot_getStream : (c.mapSlot slot f).getStream id = c.getStream id := rfl
@[simp] theorem mapSlot_stream : (c.mapSlot slot f).stream id = c.stream id := rfl
@[simp] theorem mapSlot_failed : (c.mapSlot slot f).failed = c.failed := rfl
@[simp] theorem modifyStream_failed (g : Stream → Stream) : (c.modifyStream id g).failed = c.failed := rfl

end Conn

/-- `h2o_http2_stream_update_open_slot`: move the stream's open count to `slot`. -/
def streamUpdateOpenSlot (c : Conn) (id : Nat) (slot : Slot) : Conn :=
  let c1 := c.mapSlot (c.stream id).slot fun n => { n with opened := n.opened - 1 }
  let c2 := c1.mapSlot slot fun n => { n with opened := n.opened + 1 }
  c2.modifyStream id fun s => { s with slot := slot }

/-- `h2o_http2_stream_set_blocked_by_server`. Modelled from the spec: the flag of §3 with its
    counter `num_streams.blocked_by_server`. -/
def streamSetBlockedByServer (c : Conn) (id : Nat) (turnOn : Bool) : Conn :=
  if turnOn then
    let c1 := c.check (!(c.stream id).blockedByServer) .blockedByServerOn
    let c2 := c1.modifyStream id fun s => { s with blockedByServer := true }
    { c2 with numStreams := { c2.numStreams with blockedByServer := c2.numStreams.blockedByServer + 1 } }
  else
    let c1 := c.check (c.stream id).blockedByServer .blockedByServerOff
    let c2 := c1.modifyStream id fun s => { s with blockedByServer := false }
    { c2 with numStreams := { c2.numStreams with blockedByServer := c2.numStreams.blockedByServer - 1 } }

/-- `h2o_http2_stream_set_state`. Modelled from the spec: the transitions of §4.4 with the
    counters of §3. A stream counts as open in its pull or push slot from RECV_HEADERS on
    (before that, as a priority-only stream), as half-closed while it sends its response, and
    in no slot once it reaches END_STREAM, which also ends its blocked-by-server flag. -/
def streamSetState (c : Conn) (id : Nat) (new : StreamState) : Conn :=
  let s := c.stream id
  match new with
  | .idle => c.check false .setStateIdle
  | .recvHeaders =>
    let c1 := c.check (s.state == .idle) .setStateRecvHeaders
    (streamUpdateOpenSlot c1 id (if streamIsPush id then .push else .pull)).setStreamState id new
  | .sendHeaders =>
    let c1 := c.check (s.state == .reqPending) .setStateSendHeaders
    (c1.mapSlot s.slot fun n => { n with halfClosed := n.halfClosed + 1 }).setStreamState id new
  | .sendBodyIsFinal => (c.check (s.state == .sendBody) .setStateSendBodyIsFinal).setStreamState id new
  | .endStream =>
    let c1 := match s.state with
      | .sendHeaders | .sendBody | .sendBodyIsFinal =>
        c.mapSlot s.slot fun n => { n with halfClosed := n.halfClosed - 1 }
      | .endStream => c.check false .setStateEndStream
      | _ => c
    let c2 := (c1.setStreamState id new).mapSlot s.slot fun n => { n with opened := n.opened - 1 }
    let c3 := c2.modifyStream id fun s => { s with slot := .none }
    if s.blockedByServer then streamSetBlockedByServer c3 id false else c3
  | _ => c.setStreamState id new

/-- `h2o_http2_conn_register_stream`: `kh_put` keyed by the stream id. -/
def connRegisterStream (c : Conn) (s : Stream) : Conn :=
  if (c.getStream s.streamId).isSome then c.modifyStream s.streamId fun _ => s
  else { c with streams := c.streams ++ [s] }

/-- `h2o_http2_stream_open`. Modelled from the spec: a stream is created IDLE, with the host's
    initial receive window of 65,535 and the peer's initial send window (§3, §4.6), and counted
    as a priority-only stream until its request begins. -/
def streamOpen (c : Conn) (id : Nat) (priority : Priority) : Conn :=
  let s := Stream.fresh id c.peerSettings.initialWindowSize priority
  (connRegisterStream c { s with slot := .priority }).mapSlot .priority
    fun n => { n with opened := n.opened + 1 }

/-- `h2o_http2_stream_prepare_for_request`. Modelled from the spec: the push maximum follows
    every push stream; the pull maximum follows new pull streams only while the connection is
    OPEN, so that once GOAWAY has been sent a later stream lies above it (§3, §4.5). -/
def streamPrepareForRequest (c : Conn) (id : Nat) : Conn :=
  let c1 := c.check (c.stream id).schedOpen .prepareSchedulerOpen
  let c2 :=
    if streamIsPush id then { c1 with pushMaxOpen := max c1.pushMaxOpen id }
    else if c1.state = .opened then { c1 with pullMaxOpen := max c1.pullMaxOpen id }
    else c1
  (streamSetState c2 id .recvHeaders).modifyStream id
    fun s => { s with outputWindow := c2.peerSettings.initialWindowSize }

/-! ### The scheduler reference of a stream

`scheduler.c` is modelled only as far as the connection reads it: whether a stream's node is
open and active, its weight and its parent. -/

/-- `h2o_http2_scheduler_open` and `h2o_http2_scheduler_rebind` of a stream's node. -/
def schedulerOpen (c : Conn) (id : Nat) (parent : SchedParent) (weight : Nat) : Conn :=
  c.modifyStream id fun s => { s with schedOpen := true, schedParent := parent, schedWeight := weight }

/-- `h2o_http2_scheduler_activate` and `h2o_http2_scheduler_deactivate`. -/
def schedulerSetActive (c : Conn) (id : Nat) (active : Bool) : Conn :=
  c.modifyStream id fun s => { s with schedActive := active }

/-- `h2o_http2_scheduler_is_active` of the connection's root. -/
def Conn.schedulerIsActive (c : Conn) : Bool := c.streams.any (·.schedActive)

/-- `h2o_http2_stream_has_pending_data`. -/
def Stream.hasPendingData (s : Stream) : Bool := s.pendingData != 0

end H2oHttp2
