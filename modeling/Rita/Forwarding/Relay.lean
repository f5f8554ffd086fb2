import Rita.Basic

/-!
# `Rita/Forwarding/Relay.lean` — the relay engine, one message at a time

`process_messages` (`antenna_forwarding_client/src/lib.rs`) and the `process_streams` it is
interleaved with. The relay owns a map from stream id to an outbound connection to the
antenna; `process_messages` walks one batch of control messages and acts on each, and
`process_streams` pumps the other direction.

The relay is a deterministic program over a nondeterministic world. The world is one value,
`Io`: every socket operation and clock reading of a session is an *event*, numbered from 0,
and `Io` says for each event when it happens, whether the operation made there succeeds, and
what a poll of each antenna connection finds. The relay's state carries the number of the
next event. Quantifying over `Io` is therefore quantifying over every behaviour of the
network, the antenna and the clock that the relay can observe.

The state also carries a *trace*: what the relay did, time-stamped. It is never read by the
relay; it is what the theorems about whole sessions talk about (what was handled, when the
antenna was dialled, when `process_streams` ran, what went upstream).

`process_streams` lives in the crate `antenna_forwarding_protocol`, whose source is not among
the repository's files here; it is modelled from the spec (§4.3) and says so.
-/

set_option autoImplicit false

namespace Rita
namespace Forwarding

/-- `ForwardingProtocolMessage`: the message set of the control channel (spec §6). The
    identity an `IdentificationMessage` carries is never read by the client and is left
    out. -/
inductive ForwardingProtocolMessage
  | identificationMessage
  | forwardMessage (ip : IpAddr) (serverPort antennaPort : UInt16)
  | errorMessage (error : String)
  | connectionCloseMessage (streamId : UInt64)
  | connectionDataMessage (streamId : UInt64) (payload : List UInt8)
  | forwardingCloseMessage
  | keepAliveMessage
  deriving DecidableEq, Repr

/-- An outbound connection to the antenna as the antenna sees it: where it was dialled,
    every byte written to it, and whether it has been shut down. -/
structure AntennaConn where
  addr : SocketAddr
  written : List UInt8
  shutDown : Bool
  deriving DecidableEq, Repr

/-- What `process_streams` finds when it polls an antenna connection. -/
inductive Poll
  | idle
  | data (bytes : List UInt8)
  | closed
  deriving DecidableEq, Repr

/-- The relay's world: for event `n`, its time (`clock n`, in nanoseconds), whether a
    fallible socket operation made there succeeds (`ok n`), and what a poll of antenna
    connection `c` there finds (`poll n c`). -/
structure Io where
  clock : Nat → Nat
  ok : Nat → Bool
  poll : Nat → Nat → Poll

/-- No socket operation of the session fails. -/
def Io.Reliable (io : Io) : Prop := ∀ n, io.ok n = true

/-- The antenna never closes a connection: no poll finds one closed. -/
def Io.AntennaStaysOpen (io : Io) : Prop := ∀ n c, io.poll n c ≠ .closed

/-- `Instant` is monotonic: a later event never reads an earlier time. -/
def Io.Monotonic (io : Io) : Prop := ∀ m n, m ≤ n → io.clock m ≤ io.clock n

/-- A data or close message: what the relay multiplexes, and what resets its idle clock. -/
def ForwardingProtocolMessage.isStream : ForwardingProtocolMessage → Bool
  | .connectionCloseMessage _ | .connectionDataMessage .. => true
  | _ => false

/-- What the trace records. -/
inductive Event
  | handled (m : ForwardingProtocolMessage)
  | dialed (conn : Nat)
  | pumped
  | sent (m : ForwardingProtocolMessage)
  deriving DecidableEq, Repr

/-- Whether an event is the handling of a message. -/
def Event.isHandled : Event → Bool
  | .handled _ => true
  | _ => false

/-- One relay session: `forward_connections`' locals (`streams`, `last_message`, and the
    control connection, of which only whether it was shut down matters here), the antenna
    connections dialled so far in the order they were dialled, the next event, and the
    trace. A stream maps to the number of its connection. -/
structure Relay where
  streams : AList (fun _ : UInt64 => Nat)
  conns : List AntennaConn
  serverShutDown : Bool
  lastMessage : Nat
  tick : Nat
  trace : List (Nat × Event)

namespace Relay

variable (io : Io)

/-! ## 1. Primitive operations

Each is one event. An operation that can fail returns `Option`; the caller decides, as the
source does with `expect`, what a failure means. -/

/-- `Instant::now()`. -/
def now (r : Relay) : Nat := io.clock r.tick

/-- Moves on to the next event. -/
def advance (r : Relay) : Relay := { r with tick := r.tick + 1 }

/-- Appends `e` to the trace, stamped with the current time. -/
def record (e : Event) (r : Relay) : Relay := { r with trace := r.trace ++ [(r.now io, e)] }

/-- `*last_message = Instant::now()`. -/
def touch (r : Relay) : Relay := { r with lastMessage := r.now io, tick := r.tick + 1 }

/-- `TcpStream::connect(addr)`: a new connection, numbered after those before it. -/
def connect (addr : SocketAddr) (r : Relay) : Option (Nat × Relay) :=
  if io.ok r.tick then
    some (r.conns.length,
      { r.record io (.dialed r.conns.length) with
        conns := r.conns ++ [⟨addr, [], false⟩], tick := r.tick + 1 })
  else none

/-- `write_all_spinlock(conn, bytes)`: writes all of `bytes`, retrying until they are
    flushed, or fails. -/
def writeAll (c : Nat) (bytes : List UInt8) (r : Relay) : Option Relay :=
  if io.ok r.tick then
    some { r with
      conns := r.conns.modify (fun k => { k with written := k.written ++ bytes }) c,
      tick := r.tick + 1 }
  else none

/-- `conn.shutdown(Shutdown::Both)` on antenna connection `c`. -/
def shutdown (c : Nat) (r : Relay) : Option Relay :=
  if io.ok r.tick then
    some { r with
      conns := r.conns.modify (fun k => { k with shutDown := true }) c, tick := r.tick + 1 }
  else none

/-- `server_stream.shutdown(Shutdown::Both)`. -/
def shutdownServer (r : Relay) : Option Relay :=
  if io.ok r.tick then some { r with serverShutDown := true, tick := r.tick + 1 } else none

/-- Writes `m` upstream, on the control connection. -/
def send (m : ForwardingProtocolMessage) (r : Relay) : Relay := (r.record io (.sent m)).advance

/-! ## 2. `process_messages` -/

/-- `for stream in streams.values_mut() { stream.shutdown(Shutdown::Both)
    .expect("Failed to shutdown connection!") }`. -/
def shutdownStreams : List Nat → Relay → Except Panic Relay
  | [], r => .ok r
  | c :: cs, r => do
    let r ← expect (r.shutdown io c) "Failed to shutdown connection!"
    shutdownStreams cs r

/-- The body of `process_messages`' loop, the `match item` arms; `true` is its
    `return true`. -/
def processItem (antennaSockaddr : SocketAddr) (r : Relay) :
    ForwardingProtocolMessage → Except Panic (Relay × Bool)
  | .identificationMessage => .error .unimplemented
  | .forwardMessage .. => .error .unimplemented
  | .errorMessage _ => .error .unimplemented
  | .connectionCloseMessage streamId => do
    let r := r.touch io
    let stream ← expect (r.streams.lookup streamId) "How can we close a stream we don't have?"
    let r ← expect (r.shutdown io stream) "Failed to shutdown connection!"
    pure ({ r with streams := r.streams.erase streamId }, false)
  | .connectionDataMessage streamId payload => do
    let r := r.touch io
    match r.streams.lookup streamId with
    | some antennaStream =>
      let r ← expect (r.writeAll io antennaStream payload) "Failed to talk to antenna!"
      pure (r, false)
    | none =>
      let (newStream, r) ← expect (r.connect io antennaSockaddr) "Could not contact antenna!"
      let r ← expect (r.writeAll io newStream payload) "Failed to talk to antenna!"
      pure ({ r with streams := r.streams.insert streamId newStream }, false)
  | .forwardingCloseMessage => do
    let r ← shutdownStreams io (r.streams.entries.map (·.2)) r
    let r ← expect (r.shutdownServer io) "Could not shutdown connection!"
    pure (r, true)
  | .keepAliveMessage => .error .unimplemented

/-- `process_messages`: handles `input` in order and stops at the first message that asks
    the forwarder to shut down; `true` iff it stopped there. Each message is recorded as
    handled when its arm starts. -/
def processMessages (antennaSockaddr : SocketAddr) :
    List ForwardingProtocolMessage → Relay → Except Panic (Relay × Bool)
  | [], r => .ok (r, false)
  | item :: input, r => do
    let (r, stop) ← processItem io antennaSockaddr (r.record io (.handled item)) item
    if stop then pure (r, true) else processMessages antennaSockaddr input r

/-! ## 3. `process_streams` -/

/-- One stream's turn in `process_streams`: a poll of its antenna connection, then bytes
    upstream, or the stream's close upstream and its removal, or nothing. -/
def pumpStream (r : Relay) (e : Sigma fun _ : UInt64 => Nat) : Relay :=
  match io.poll r.tick e.2 with
  | .idle => r.advance
  | .data bytes => r.advance.send io (.connectionDataMessage e.1 bytes)
  | .closed =>
    { r.advance.send io (.connectionCloseMessage e.1) with streams := r.streams.erase e.1 }

/-- Modelled from the spec: `process_streams` (crate `antenna_forwarding_protocol`), spec
    §4.3: "every open stream is checked for newly arrived bytes from the antenna; any such
    bytes are framed as a ConnectionDataMessage tagged with that stream's id and written to
    the control connection; a stream whose antenna-side connection has closed emits a
    ConnectionCloseMessage upstream and is then removed." Streams are visited in the map's
    iteration order. -/
def processStreams (r : Relay) : Relay :=
  r.streams.entries.foldl (pumpStream io) (r.record io .pumped)

/-- The messages the relay has sent upstream, in order: the `sent` entries of its trace. -/
def sent (r : Relay) : List ForwardingProtocolMessage :=
  r.trace.filterMap fun d => match d.2 with
    | .sent m => some m
    | _ => none

/-! ## 4. One spec lemma per arm

What each arm of `process_messages` does, as one equation per outcome of its guards. Every
later proof rewrites with these and never unfolds `processItem`. -/

/-- Modifying the entry just appended. -/
theorem modify_concat {α : Type} (f : α → α) (l : List α) (x : α) :
    (l ++ [x]).modify f l.length = l ++ [f x] := by
  induction l <;> simp_all

section Arms

variable {io} {a : SocketAddr} {r : Relay} {id : UInt64} {c : Nat} {p : List UInt8}

@[simp] theorem touch_streams : (r.touch io).streams = r.streams := rfl
@[simp] theorem record_streams (e : Event) : (r.record io e).streams = r.streams := rfl
@[simp] theorem record_conns (e : Event) : (r.record io e).conns = r.conns := rfl
@[simp] theorem record_tick (e : Event) : (r.record io e).tick = r.tick := rfl
@[simp] theorem advance_streams : r.advance.streams = r.streams := rfl
@[simp] theorem advance_conns : r.advance.conns = r.conns := rfl
@[simp] theorem advance_tick : r.advance.tick = r.tick + 1 := rfl
@[simp] theorem send_streams (m : ForwardingProtocolMessage) : (r.send io m).streams = r.streams :=
  rfl
@[simp] theorem send_conns (m : ForwardingProtocolMessage) : (r.send io m).conns = r.conns := rfl
@[simp] theorem send_tick (m : ForwardingProtocolMessage) : (r.send io m).tick = r.tick + 1 := rfl
@[simp] theorem advance_sent : r.advance.sent = r.sent := rfl
@[simp] theorem send_sent (m : ForwardingProtocolMessage) : (r.send io m).sent = r.sent ++ [m] := by
  simp [send, sent, record, advance]
@[simp] theorem record_pumped_sent : (r.record io .pumped).sent = r.sent := by
  simp [sent, record]

/-- A message the server must never send inside a session panics, whatever the state. -/
theorem processItem_unimplemented {m : ForwardingProtocolMessage}
    (hm : m = .identificationMessage ∨ (∃ ip sp ap, m = .forwardMessage ip sp ap) ∨
      (∃ e, m = .errorMessage e) ∨ m = .keepAliveMessage) :
    processItem io a r m = .error .unimplemented := by
  rcases hm with rfl | ⟨_, _, _, rfl⟩ | ⟨_, rfl⟩ | rfl <;> rfl

/-- A close for a stream the map does not hold panics. -/
theorem processItem_close_none (h : r.streams.lookup id = none) :
    processItem io a r (.connectionCloseMessage id) =
      .error (.expect "How can we close a stream we don't have?") := by
  simp [processItem, h, bind, Except.bind]

/-- A close for a stream the map holds shuts its connection down and removes it. -/
theorem processItem_close (h : r.streams.lookup id = some c) :
    processItem io a r (.connectionCloseMessage id) =
      if io.ok (r.tick + 1) then
        .ok ({ r with lastMessage := r.now io, tick := r.tick + 2,
                      conns := r.conns.modify (fun k => { k with shutDown := true }) c,
                      streams := r.streams.erase id }, false)
      else .error (.expect "Failed to shutdown connection!") := by
  by_cases hok : io.ok (r.tick + 1) <;>
    simp [processItem, h, hok, touch, shutdown, bind, Except.bind, pure, Except.pure]

/-- Data for a stream the map holds is written to that stream's connection. -/
theorem processItem_data_old (h : r.streams.lookup id = some c) :
    processItem io a r (.connectionDataMessage id p) =
      if io.ok (r.tick + 1) then
        .ok ({ r with lastMessage := r.now io, tick := r.tick + 2,
                      conns := r.conns.modify (fun k => { k with written := k.written ++ p }) c },
             false)
      else .error (.expect "Failed to talk to antenna!") := by
  by_cases hok : io.ok (r.tick + 1) <;>
    simp [processItem, h, hok, touch, writeAll, bind, Except.bind, pure, Except.pure]

/-- Data for a stream the map does not hold dials the antenna, writes the payload to the
    new connection, and registers it under the stream id. -/
theorem processItem_data_new (h : r.streams.lookup id = none) :
    processItem io a r (.connectionDataMessage id p) =
      if io.ok (r.tick + 1) then
        if io.ok (r.tick + 2) then
          .ok ({ r with lastMessage := r.now io, tick := r.tick + 3,
                        conns := r.conns ++ [⟨a, p, false⟩],
                        streams := r.streams.insert id r.conns.length,
                        trace := r.trace ++ [(io.clock (r.tick + 1), .dialed r.conns.length)] },
               false)
        else .error (.expect "Failed to talk to antenna!")
      else .error (.expect "Could not contact antenna!") := by
  by_cases hok : io.ok (r.tick + 1) <;> by_cases hok2 : io.ok (r.tick + 2) <;>
    simp [processItem, h, hok, hok2, touch, connect, writeAll, record, now, bind,
      Except.bind, pure, Except.pure, modify_concat]

/-- Shutting down a list of antenna connections, as one equation: either every shutdown
    succeeds and each listed connection is marked shut, or the first failure panics. -/
theorem shutdownStreams_eq (cs : List Nat) (r : Relay) :
    shutdownStreams io cs r =
      if ∀ i < cs.length, io.ok (r.tick + i) then
        .ok { r with
          conns := cs.foldl (fun l c => l.modify (fun k => { k with shutDown := true }) c) r.conns,
          tick := r.tick + cs.length }
      else .error (.expect "Failed to shutdown connection!") := by
  induction cs generalizing r with
  | nil => simp [shutdownStreams]
  | cons c cs ih =>
    by_cases h0 : io.ok r.tick
    · have hall : (∀ i < (c :: cs).length, io.ok (r.tick + i)) ↔
          ∀ i < cs.length, io.ok (r.tick + 1 + i) := by
        constructor
        · intro h i hi; simpa [Nat.add_assoc, Nat.add_comm 1 i] using h (i + 1) (by simpa using hi)
        · intro h i hi
          cases i with
          | zero => simpa using h0
          | succ i => simpa [Nat.add_assoc, Nat.add_comm 1 i] using h i (by simpa using hi)
      simp only [shutdownStreams, shutdown, h0, if_true, expect_some, bind, Except.bind, ih, hall]
      split <;> simp [Nat.add_assoc, Nat.add_comm 1]
    · have : ¬ ∀ i < (c :: cs).length, io.ok (r.tick + i) := fun h => h0 (by simpa using h 0)
      rw [if_neg this]
      simp [shutdownStreams, shutdown, h0, bind, Except.bind]

/-- The shutdown arm: every connection in the map is shut down, in the map's order, then
    the control connection, and the loop is told to stop. -/
theorem processItem_forwardingClose :
    processItem io a r .forwardingCloseMessage =
      if ∀ i < r.streams.entries.length, io.ok (r.tick + i) then
        if io.ok (r.tick + r.streams.entries.length) then
          .ok ({ r with
            conns := (r.streams.entries.map (·.2)).foldl
              (fun l c => l.modify (fun k => { k with shutDown := true }) c) r.conns,
            tick := r.tick + r.streams.entries.length + 1, serverShutDown := true }, true)
        else .error (.expect "Could not shutdown connection!")
      else .error (.expect "Failed to shutdown connection!") := by
  simp only [processItem, shutdownStreams_eq, List.length_map]
  split
  · by_cases h2 : io.ok (r.tick + r.streams.entries.length) <;>
      simp [h2, bind, Except.bind, shutdownServer, pure, Except.pure]
  · rfl

/-- **Everything a handled message can do.** A message `process_messages` gets through is
    a close of a stream the map holds, data for a stream it holds, data for a stream it does
    not hold, or the shutdown; each leaves the state its arm lemma names. The four messages
    the server must not send never get through. -/
theorem processItem_cases {m : ForwardingProtocolMessage} {r' : Relay} {b : Bool}
    (h : processItem io a r m = .ok (r', b)) :
    (∃ id c, m = .connectionCloseMessage id ∧ r.streams.lookup id = some c ∧ b = false ∧
      r' = { r with lastMessage := r.now io, tick := r.tick + 2,
                    conns := r.conns.modify (fun k => { k with shutDown := true }) c,
                    streams := r.streams.erase id }) ∨
    (∃ id p c, m = .connectionDataMessage id p ∧ r.streams.lookup id = some c ∧ b = false ∧
      r' = { r with lastMessage := r.now io, tick := r.tick + 2,
                    conns := r.conns.modify (fun k => { k with written := k.written ++ p }) c }) ∨
    (∃ id p, m = .connectionDataMessage id p ∧ r.streams.lookup id = none ∧ b = false ∧
      r' = { r with lastMessage := r.now io, tick := r.tick + 3,
                    conns := r.conns ++ [⟨a, p, false⟩],
                    streams := r.streams.insert id r.conns.length,
                    trace := r.trace ++ [(io.clock (r.tick + 1), .dialed r.conns.length)] }) ∨
    (m = .forwardingCloseMessage ∧ b = true ∧
      r' = { r with
        conns := (r.streams.entries.map (·.2)).foldl
          (fun l c => l.modify (fun k => { k with shutDown := true }) c) r.conns,
        tick := r.tick + r.streams.entries.length + 1, serverShutDown := true }) := by
  cases m with
  | identificationMessage | forwardMessage | errorMessage | keepAliveMessage =>
    simp [processItem] at h
  | connectionCloseMessage id =>
    cases hl : r.streams.lookup id with
    | none => simp [processItem_close_none hl] at h
    | some c =>
      rw [processItem_close hl] at h
      split at h
      · cases h; exact .inl ⟨id, c, rfl, hl, rfl, rfl⟩
      · cases h
  | connectionDataMessage id p =>
    cases hl : r.streams.lookup id with
    | none =>
      rw [processItem_data_new hl] at h
      split at h
      · split at h
        · cases h; exact .inr (.inr (.inl ⟨id, p, rfl, hl, rfl, rfl⟩))
        · cases h
      · cases h
    | some c =>
      rw [processItem_data_old hl] at h
      split at h
      · cases h; exact .inr (.inl ⟨id, p, c, rfl, hl, rfl, rfl⟩)
      · cases h
  | forwardingCloseMessage =>
    rw [processItem_forwardingClose] at h
    split at h
    · split at h
      · cases h; exact .inr (.inr (.inr ⟨rfl, rfl, rfl⟩))
      · cases h
    · cases h

/-- **Progress of one arm.** In a world where no socket operation fails, a data message
    always gets through, and so does a close for a stream the map holds. -/
theorem processItem_progress {m : ForwardingProtocolMessage} (hio : io.Reliable)
    (hm : m.isStream = true) (hc : ∀ id, m = .connectionCloseMessage id → id ∈ r.streams) :
    ∃ r', processItem io a r m = .ok (r', false) := by
  cases m with
  | connectionCloseMessage id =>
    obtain ⟨c, hl⟩ := Option.isSome_iff_exists.mp (AList.lookup_isSome.mpr (hc id rfl))
    rw [processItem_close hl, if_pos (hio _)]
    exact ⟨_, rfl⟩
  | connectionDataMessage id p =>
    cases hl : r.streams.lookup id with
    | some c => rw [processItem_data_old hl, if_pos (hio _)]; exact ⟨_, rfl⟩
    | none => rw [processItem_data_new hl, if_pos (hio _), if_pos (hio _)]; exact ⟨_, rfl⟩
  | _ => simp [ForwardingProtocolMessage.isStream] at hm

/-- **Progress of the shutdown arm.** In a world where no socket operation fails, the shutdown
    message always gets through, and stops the batch. -/
theorem processItem_forwardingClose_progress (hio : io.Reliable) :
    ∃ r', processItem io a r .forwardingCloseMessage = .ok (r', true) := by
  rw [processItem_forwardingClose, if_pos fun _ _ => hio _, if_pos (hio _)]
  exact ⟨_, rfl⟩

/-- The panic for a close of an unknown stream comes from exactly that. -/
theorem processItem_eq_closePanic {m : ForwardingProtocolMessage}
    (h : processItem io a r m = .error (.expect "How can we close a stream we don't have?")) :
    ∃ id, m = .connectionCloseMessage id ∧ r.streams.lookup id = none := by
  cases m with
  | connectionCloseMessage id =>
    cases hl : r.streams.lookup id with
    | none => exact ⟨id, rfl, hl⟩
    | some c => rw [processItem_close hl] at h; split at h <;> simp at h
  | connectionDataMessage id p =>
    cases hl : r.streams.lookup id with
    | none => rw [processItem_data_new hl] at h; repeat' split at h
              all_goals simp at h
    | some c => rw [processItem_data_old hl] at h; split at h <;> simp at h
  | forwardingCloseMessage =>
    rw [processItem_forwardingClose] at h
    repeat' split at h
    all_goals simp at h
  | _ => simp [processItem] at h

end Arms

/-! ## 5. Invariants of one step -/

/-- Every stream maps to a connection that was dialled. -/
def Wf (r : Relay) : Prop := ∀ id c, r.streams.lookup id = some c → c < r.conns.length

section Frame

variable {io} {a : SocketAddr} {r r' : Relay} {m : ForwardingProtocolMessage} {b : Bool}

theorem Wf.record (e : Event) (h : r.Wf) : (r.record io e).Wf := h

/-- A handled message keeps every stream on a dialled connection. -/
theorem Wf.processItem (h : r.Wf) (hs : processItem io a r m = .ok (r', b)) : r'.Wf := by
  rcases processItem_cases hs with
    ⟨id, c, -, -, -, rfl⟩ | ⟨id, p, c, -, -, -, rfl⟩ | ⟨id, p, -, hl, -, rfl⟩ | ⟨-, -, rfl⟩
  · intro j k hk
    by_cases hj : j = id
    · subst hj; simp [AList.lookup_erase] at hk
    · rw [AList.lookup_erase_ne hj] at hk; simpa using h j k hk
  · intro j k hk; simpa using h j k hk
  · intro j k hk
    by_cases hj : j = id
    · subst hj; rw [AList.lookup_insert] at hk; cases hk; simp
    · rw [AList.lookup_insert_ne hj] at hk; simpa using Nat.lt_succ_of_lt (h j k hk)
  · intro j k hk
    have hlen : ∀ (cs : List Nat) (l : List AntennaConn),
        (cs.foldl (fun l c => l.modify (fun k => { k with shutDown := true }) c) l).length =
          l.length := by
      intro cs; induction cs with
      | nil => intro l; rfl
      | cons c cs ih => intro l; simp [ih]
    simpa [hlen] using h j k hk

/-- The tick never goes back. -/
theorem processItem_tick (hs : processItem io a r m = .ok (r', b)) : r.tick < r'.tick := by
  rcases processItem_cases hs with
    ⟨_, _, -, -, -, rfl⟩ | ⟨_, _, _, -, -, -, rfl⟩ | ⟨_, _, -, -, -, rfl⟩ | ⟨-, -, rfl⟩
  all_goals simp only; omega

/-- `process_messages` stops exactly at a shutdown message. -/
theorem processItem_stop (hs : processItem io a r m = .ok (r', b)) :
    b = true ↔ m = .forwardingCloseMessage := by
  rcases processItem_cases hs with
    ⟨_, _, rfl, -, rfl, -⟩ | ⟨_, _, _, rfl, -, rfl, -⟩ | ⟨_, _, rfl, -, rfl, -⟩ | ⟨rfl, rfl, -⟩ <;>
    simp

/-! ### `process_streams` -/

/-- What `process_streams` adds to the trace: its start and what it sends upstream, never
    the handling of a message. -/
def PumpTrace (ds : List (Nat × Event)) : Prop := ∀ d ∈ ds, d.2.isHandled = false

theorem pumpStream_frame (e : Sigma fun _ : UInt64 => Nat) :
    (pumpStream io r e).lastMessage = r.lastMessage ∧ (pumpStream io r e).conns = r.conns ∧
      r.tick < (pumpStream io r e).tick ∧
      ∃ ds, (pumpStream io r e).trace = r.trace ++ ds ∧ PumpTrace ds := by
  unfold pumpStream
  split <;> refine ⟨rfl, rfl, ?_, ?_⟩
  · simp [advance]
  · exact ⟨[], by simp [advance], by simp [PumpTrace]⟩
  all_goals first
    | simp [send, record, advance]; omega
    | exact ⟨_, rfl, by simp [PumpTrace, Event.isHandled]⟩

/-- `process_streams` leaves `last_message` and the antenna connections alone, moves time
    forward, and records no handled message. -/
theorem processStreams_frame :
    (processStreams io r).lastMessage = r.lastMessage ∧ (processStreams io r).conns = r.conns ∧
      r.tick ≤ (processStreams io r).tick ∧
      ∃ ds, (processStreams io r).trace = r.trace ++ ds ∧ PumpTrace ds := by
  suffices h : ∀ (es : List (Sigma fun _ : UInt64 => Nat)) (r : Relay),
      (es.foldl (pumpStream io) r).lastMessage = r.lastMessage ∧
      (es.foldl (pumpStream io) r).conns = r.conns ∧ r.tick ≤ (es.foldl (pumpStream io) r).tick ∧
      ∃ ds, (es.foldl (pumpStream io) r).trace = r.trace ++ ds ∧ PumpTrace ds by
    obtain ⟨h1, h2, h3, ds, h4, h5⟩ := h r.streams.entries (r.record io .pumped)
    refine ⟨h1, h2, h3, _ :: ds, by simpa [processStreams, record] using h4, ?_⟩
    simpa [PumpTrace, Event.isHandled] using h5
  intro es
  induction es with
  | nil => intro r; exact ⟨rfl, rfl, le_rfl, [], by simp, by simp [PumpTrace]⟩
  | cons e es ih =>
    intro r
    obtain ⟨h1, h2, h3, ds, h4, h5⟩ := @pumpStream_frame io r e
    obtain ⟨g1, g2, g3, es', g4, g5⟩ := ih (pumpStream io r e)
    refine ⟨g1.trans h1, g2.trans h2, by simp only [List.foldl_cons]; omega,
      ds ++ es', by simp [g4, h4], ?_⟩
    intro d hd
    rcases List.mem_append.mp hd with hd | hd
    · exact h5 d hd
    · exact g5 d hd

/-- Whatever the antenna does, `process_streams` only ever removes streams. -/
theorem processStreams_lookup {id : UInt64} {c : Nat}
    (h : (processStreams io r).streams.lookup id = some c) : r.streams.lookup id = some c := by
  suffices key : ∀ (es : List (Sigma fun _ : UInt64 => Nat)) (r : Relay),
      (es.foldl (pumpStream io) r).streams.lookup id = some c → r.streams.lookup id = some c from
    key r.streams.entries (r.record io .pumped) h
  intro es
  induction es with
  | nil => intro r h; exact h
  | cons e es ih =>
    intro r h
    have h := ih _ h
    unfold pumpStream at h
    split at h
    · exact h
    · exact h
    · by_cases he : id = e.1
      · subst he; simp [AList.lookup_erase] at h
      · rwa [AList.lookup_erase_ne he] at h

/-- If the antenna closes nothing, `process_streams` leaves the stream map alone. -/
theorem processStreams_streams (hq : io.AntennaStaysOpen) :
    (processStreams io r).streams = r.streams := by
  suffices h : ∀ (es : List (Sigma fun _ : UInt64 => Nat)) (r : Relay),
      (es.foldl (pumpStream io) r).streams = r.streams from h _ _
  intro es
  induction es with
  | nil => intro r; rfl
  | cons e es ih =>
    intro r
    rw [List.foldl_cons, ih]
    unfold pumpStream
    split
    · rfl
    · rfl
    · exact absurd ‹_› (hq _ _)

theorem Wf.processStreams (h : r.Wf) : (processStreams io r).Wf := by
  intro id c hc
  rw [(@processStreams_frame io r).2.1]
  exact h id c (processStreams_lookup hc)

/-- What one stream's turn does to stream `id`: nothing, or — on `id`'s own turn — its
    removal, with one close of `id` upstream. -/
theorem pumpStream_id (e : Sigma fun _ : UInt64 => Nat) (id : UInt64) :
    ((pumpStream io r e).streams.lookup id = r.streams.lookup id ∧
      (pumpStream io r e).sent.count (.connectionCloseMessage id) =
        r.sent.count (.connectionCloseMessage id)) ∨
    (e.1 = id ∧ (pumpStream io r e).streams.lookup id = none ∧
      (pumpStream io r e).sent.count (.connectionCloseMessage id) =
        r.sent.count (.connectionCloseMessage id) + 1) := by
  unfold pumpStream
  split
  · exact .inl ⟨rfl, rfl⟩
  · exact .inl ⟨rfl, by simp⟩
  · by_cases he : e.1 = id
    · subst he; exact .inr ⟨rfl, by simp, by simp [sent, send, record, advance]⟩
    · exact .inl ⟨AList.lookup_erase_ne (Ne.symm he), by simp [sent, send, record, advance, List.count_singleton', Ne.symm he]⟩

/-- **What `process_streams` does to one stream.** Whatever the antenna does, stream `id`
    is left alone and no close of it goes upstream, or it was open, is removed, and exactly
    one close of it goes upstream. -/
theorem processStreams_id (id : UInt64) :
    ((processStreams io r).streams.lookup id = r.streams.lookup id ∧
      (processStreams io r).sent.count (.connectionCloseMessage id) =
        r.sent.count (.connectionCloseMessage id)) ∨
    (id ∈ r.streams ∧ (processStreams io r).streams.lookup id = none ∧
      (processStreams io r).sent.count (.connectionCloseMessage id) =
        r.sent.count (.connectionCloseMessage id) + 1) := by
  suffices key : ∀ (es : List (Sigma fun _ : UInt64 => Nat)) (r : Relay), (es.map Sigma.fst).Nodup →
      ((es.foldl (pumpStream io) r).streams.lookup id = r.streams.lookup id ∧
        (es.foldl (pumpStream io) r).sent.count (.connectionCloseMessage id) =
          r.sent.count (.connectionCloseMessage id)) ∨
      (id ∈ es.map Sigma.fst ∧ (es.foldl (pumpStream io) r).streams.lookup id = none ∧
        (es.foldl (pumpStream io) r).sent.count (.connectionCloseMessage id) =
          r.sent.count (.connectionCloseMessage id) + 1) by
    have hk : id ∈ r.streams.entries.map Sigma.fst ↔ id ∈ r.streams := AList.mem_keys
    simpa [processStreams, hk] using key r.streams.entries (r.record io .pumped) r.streams.nodupKeys
  intro es
  induction es with
  | nil => intro r _; exact .inl ⟨rfl, rfl⟩
  | cons e es ih =>
    intro r hnd
    obtain ⟨he, hnd⟩ := List.nodup_cons.mp hnd
    rw [List.foldl_cons]
    rcases pumpStream_id e id with ⟨h1, h2⟩ | ⟨rfl, h1, h2⟩
    · rcases ih _ hnd with ⟨g1, g2⟩ | ⟨gm, g1, g2⟩
      · exact .inl ⟨g1.trans h1, g2.trans h2⟩
      · exact .inr ⟨List.mem_cons_of_mem _ gm, g1, g2.trans (by rw [h2])⟩
    · rcases ih _ hnd with ⟨g1, g2⟩ | ⟨gm, -, -⟩
      · exact .inr ⟨List.mem_cons_self _ _, g1.trans h1, g2.trans h2⟩
      · exact absurd gm he

/-- `process_streams` only ever appends to what went upstream. -/
theorem processStreams_sent : r.sent <+: (processStreams io r).sent := by
  obtain ⟨-, -, -, ds, h, -⟩ := @processStreams_frame io r
  rw [sent, sent, h, List.filterMap_append]
  exact List.prefix_append _ _

/-! ### `process_messages` over a whole batch -/

/-- **A property every handled message keeps is kept by `process_messages`.** The one
    induction over a batch; every invariant of the relay goes through it. -/
theorem processMessages_induct (P : Relay → Prop)
    (hstep : ∀ r m r' b, P r → processItem io a (r.record io (.handled m)) m = .ok (r', b) → P r') :
    ∀ (ms : List ForwardingProtocolMessage) (r r' : Relay) (b : Bool),
      P r → processMessages io a ms r = .ok (r', b) → P r' := by
  intro ms
  induction ms with
  | nil => intro r r' b hr h; cases h; exact hr
  | cons m ms ih =>
    intro r r' b hr h
    simp only [processMessages, bind, Except.bind] at h
    split at h
    · cases h
    · rename_i x hx
      have hx' := hstep r m x.1 x.2 hr hx
      split at h
      · cases h; exact hx'
      · exact ih _ _ _ hx' h

/-- `process_messages` keeps the relay well formed. -/
theorem Wf.processMessages {ms : List ForwardingProtocolMessage} (h : r.Wf)
    (hs : processMessages io a ms r = .ok (r', b)) : r'.Wf :=
  processMessages_induct Wf (fun _ _ _ _ hr hs => (hr.record _).processItem hs) _ _ _ _ h hs

/-- A message that does not stop the batch hands the rest of the batch the state it left. -/
theorem processMessages_cons_of_continue {ms : List ForwardingProtocolMessage}
    (hx : processItem io a (r.record io (.handled m)) m = .ok (r', false)) :
    processMessages io a (m :: ms) r = processMessages io a ms r' := by
  simp [processMessages, bind, Except.bind, hx]

/-- A message that stops the batch ends it there. -/
theorem processMessages_cons_of_stop {ms : List ForwardingProtocolMessage}
    (hx : processItem io a (r.record io (.handled m)) m = .ok (r', true)) :
    processMessages io a (m :: ms) r = .ok (r', true) := by
  simp [processMessages, bind, Except.bind, hx, pure, Except.pure]

/-- A prefix that does not stop the batch hands the rest of the batch the state it left. -/
theorem processMessages_append_of_continue {pre ms : List ForwardingProtocolMessage}
    (h : processMessages io a pre r = .ok (r', false)) :
    processMessages io a (pre ++ ms) r = processMessages io a ms r' := by
  induction pre generalizing r with
  | nil => cases h; rfl
  | cons m pre ih =>
    obtain ⟨⟨r₁, b₁⟩, hx, h⟩ := bind_eq_ok.mp h
    cases b₁ with
    | true => cases h
    | false => rw [List.cons_append, processMessages_cons_of_continue hx]; exact ih h

/-- `process_messages` stops at a shutdown message and at nothing else: if it stopped, the
    batch is a prefix it got through, the shutdown, and a rest it never looked at. -/
theorem processMessages_stop {ms : List ForwardingProtocolMessage}
    (h : processMessages io a ms r = .ok (r', true)) :
    ∃ pre post r₀, ms = pre ++ .forwardingCloseMessage :: post ∧
      processMessages io a pre r = .ok (r₀, false) ∧
      processItem io a (r₀.record io (.handled .forwardingCloseMessage)) .forwardingCloseMessage =
        .ok (r', true) := by
  induction ms generalizing r with
  | nil => cases h
  | cons m ms ih =>
    simp only [processMessages, bind, Except.bind] at h
    split at h
    · cases h
    · rename_i x hx
      obtain ⟨r₁, b₁⟩ := x
      cases b₁ with
      | true =>
        cases h
        have hm := (processItem_stop hx).mp rfl
        subst hm
        exact ⟨[], ms, r, rfl, rfl, hx⟩
      | false =>
        obtain ⟨pre, post, r₀, rfl, hpre, hfc⟩ := ih h
        exact ⟨m :: pre, post, r₀, rfl, (processMessages_cons_of_continue hx).trans hpre, hfc⟩

end Frame

end Relay

end Forwarding
end Rita
