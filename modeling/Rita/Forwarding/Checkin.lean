import Rita.Forwarding.Mux
import Rita.Forwarding.Discovery

/-!
# `Rita/Forwarding/Checkin.lean` — the checkin worker

`start_antenna_forwarding_proxy` spawns one thread that checks in with the server forever.
Each turn of its `loop`: connect to the checkin address (`connect_timeout`), send our
`IdentificationMessage`, wait, and read the server's answer. An answer whose first message is
a `ForwardMessage` names the antenna; the rest of that batch is the session's first round
input. `setup_networking` finds the antenna; then `forward_connections` relays until the
session ends, or, if discovery failed, `send_error_message` reports the error upstream and
closes the control connection. Any other answer is logged as "Wrong start message!", and a
failed connect or read just ends the turn.

The worker is a single thread: a panic anywhere in a turn — in `get_local_ip` or in one of
`process_messages`' `unimplemented!()` and `expect` arms — ends it, and with it every later
checkin; the outcomes it leaves are those of the turns before (`worker_stops`). Such panics
are reachable by server input alone, and by any failing socket operation or antenna-side
close (`checkin_panics`). What does hold is a turn's progress for an IPv4 antenna and a
session whose first batch holds data and close messages and whose read batches hold those and
shutdowns, every close naming an open stream, in a world whose sockets do not fail and whose
antenna closes nothing (`checkin_returns`): then the turn returns, whatever the connect, the
answer's other shapes and discovery do.
-/

set_option autoImplicit false

namespace Rita
namespace Forwarding

/-! ## 1. One turn of the worker -/

/-- What the control connection does in one checkin: whether `connect_timeout` reaches the
    server, what the `read_messages` after our identification returns, and what each read of
    the forwarding session returns. -/
structure CheckinInput where
  connected : Bool
  response : ReadResult
  reads : List ReadResult

/-- How a turn of the worker's loop ends when it returns: no connection, a failed read
    ("Failed to read message from server with {:?}"), an answer that does not start with a
    `ForwardMessage` ("Wrong start message!"), discovery failed and its error sent upstream in
    an `ErrorMessage`, or a forwarding session. -/
inductive Checkin
  | notConnected
  | readFailed (e : String)
  | wrongStartMessage
  | errorSent (message : String)
  | forwarded (s : Session)

/-- One turn of the worker's `loop`, in a world where the relay's sockets behave as `io` and
    discovery's kernel as `w`. The identification write, and the error report's write and
    shutdown, are not looked at. -/
def checkinIteration (io : Io) (w : Kernel) (rng : ThreadRng) (interfaces : IfaceSet)
    (input : CheckinInput) : Except Panic Checkin :=
  if !input.connected then .ok .notConnected else
  match input.response with
  | .error e => .ok (.readFailed e)
  | .ok (.forwardMessage ip _ antennaPort :: slice) => do
    let (res, _) ← setupNetworking w rng ip antennaPort interfaces
    match res with
    | .ok antennaSockaddr =>
      match forwardConnections io antennaSockaddr slice input.reads with
      | .panicked p => .error p
      | s => pure (.forwarded s)
    | .error e => pure (.errorSent e)
  | .ok _ => .ok .wrongStartMessage

/-- **Server input alone panics the worker, and so does any failing socket.** With every
    socket and kernel operation succeeding and the antenna found through `eth1`: a
    `KeepAliveMessage` after the `ForwardMessage` reaches `unimplemented!()`; an IPv6 antenna
    reaches `get_local_ip`'s `unimplemented!()`; and a close for a stream never opened reaches
    the `expect` of the close arm. So does the server's close of a stream whose antenna
    connection `process_streams` found closed first. And data for a new stream panics when the
    antenna refuses the connection or the write fails, a close when the shutdown of its
    connection fails, and a shutdown read from the server when the control connection's own
    shutdown fails. A shutdown in the first batch, which the session does not stop at, leaves
    the data after it unhandled, so a later close of that stream panics. -/
theorem checkin_panics :
    let io : Io := ⟨fun n => n, fun _ => true, fun _ _ => .idle⟩
    let w : Kernel := ⟨fun _ _ => .ok ⟨.ofCode 0⟩, fun _ => .ok (), fun _ => .ok (),
      fun _ i => if i = "eth1" then .ok (some ⟨0⟩) else .ok none⟩
    let rng : ThreadRng := ⟨fun n => if n = 0 then 7 else 8,
      fun b => if h : b = 7 then ⟨1, by subst h; decide⟩ else ⟨0, fun e => h e.symm⟩⟩
    let interfaces : IfaceSet := ⟨["eth0", "eth1", "eth2"], by decide⟩
    let antenna : IpAddr := .v4 ⟨192, 168, 1, 20⟩
    checkinIteration io w rng interfaces
        ⟨true, .ok [.forwardMessage antenna 0 80, .keepAliveMessage], []⟩ =
      .error .unimplemented ∧
    checkinIteration io w rng interfaces
        ⟨true, .ok [.forwardMessage (.v6 0xfe800000000000000000000000000001#128) 0 80], []⟩ =
      .error .unimplemented ∧
    checkinIteration io w rng interfaces
        ⟨true, .ok [.forwardMessage antenna 0 80, .connectionCloseMessage 7], []⟩ =
      .error (.expect "How can we close a stream we don't have?") ∧
    checkinIteration { io with poll := fun _ _ => .closed } w rng interfaces
        ⟨true, .ok [.forwardMessage antenna 0 80, .connectionDataMessage 1 [1]],
          [.ok [.connectionCloseMessage 1]]⟩ =
      .error (.expect "How can we close a stream we don't have?") ∧
    checkinIteration { io with ok := fun _ => false } w rng interfaces
        ⟨true, .ok [.forwardMessage antenna 0 80, .connectionDataMessage 1 [1]], []⟩ =
      .error (.expect "Could not contact antenna!") ∧
    checkinIteration { io with ok := fun n => n != 3 } w rng interfaces
        ⟨true, .ok [.forwardMessage antenna 0 80, .connectionDataMessage 1 [1]], []⟩ =
      .error (.expect "Failed to talk to antenna!") ∧
    checkinIteration { io with ok := fun n => n != 5 } w rng interfaces
        ⟨true, .ok [.forwardMessage antenna 0 80, .connectionDataMessage 1 [1],
          .connectionCloseMessage 1], []⟩ =
      .error (.expect "Failed to shutdown connection!") ∧
    checkinIteration { io with ok := fun n => n != 2 } w rng interfaces
        ⟨true, .ok [.forwardMessage antenna 0 80], [.ok [.forwardingCloseMessage]]⟩ =
      .error (.expect "Could not shutdown connection!") ∧
    checkinIteration io w rng interfaces
        ⟨true, .ok [.forwardMessage antenna 0 80, .forwardingCloseMessage,
          .connectionDataMessage 2 [2]], [.ok [.connectionCloseMessage 2]]⟩ =
      .error (.expect "How can we close a stream we don't have?") :=
  ⟨rfl, rfl, rfl, rfl, rfl, rfl, rfl, rfl, rfl⟩

/-! ## 3. When a turn returns -/

/-- The batches a session reads before its first failed read. -/
def okBatches : List ReadResult → List (List ForwardingProtocolMessage)
  | [] => []
  | .ok vec :: reads => vec :: okBatches reads
  | .error _ :: _ => []

section Progress

variable {io : Io} {a : SocketAddr}

/-- A session that panics does so on the batches read before its first failed read. -/
theorem forwardLoop_panicked_okBatches {p : Panic} :
    ∀ (reads : List ReadResult) (r : Relay), forwardLoop io a reads r = .panicked p →
      forwardLoop io a ((okBatches reads).map .ok) r = .panicked p
  | [], _, h => h
  | .error _ :: _, _, h => by cases h
  | .ok vec :: reads, r, h => by
    simp only [forwardLoop, okBatches, List.map_cons] at h ⊢
    split at h
    · exact h
    · cases h
    · split_ifs at h ⊢
      exact forwardLoop_panicked_okBatches reads _ h

/-- **A session of data, close and shutdown messages whose closes name open streams does not
    panic**, in a world whose sockets do not fail and whose antenna closes nothing, if its first
    batch holds no shutdown. -/
theorem forwardConnections_ne_panicked (hio : io.Reliable) (hq : io.AntennaStaysOpen)
    {first : List ForwardingProtocolMessage} {reads : List ReadResult} (p : Panic)
    (hfirst : ∀ m ∈ first, m.isStream = true)
    (hreads : ∀ m ∈ (okBatches reads).flatten, m.isStream = true ∨ m = .forwardingCloseMessage)
    (hc : ClosesOpen (first ++ (okBatches reads).flatten)) :
    forwardConnections io a first reads ≠ .panicked p := by
  rw [closesOpen_iff, closesOpenAfter_append, Bool.and_eq_true] at hc
  obtain ⟨r₁, h₁, hh₁, hr₁⟩ := processMessages_progress (a := a) hio first (Relay.start io)
    MuxFollows.start hfirst hc.1
  obtain ⟨r, k, hk, -⟩ := forwardLoop_progress hio hq (okBatches reads) r₁ hr₁ hreads
    (by rw [hh₁]; exact hc.2)
  intro h
  rw [forwardConnections, h₁] at h
  have := forwardLoop_panicked_okBatches reads r₁ h
  rcases hk with ⟨⟨hk, -⟩ | hk, -⟩ | ⟨-, -, -, -, hk, -⟩ <;> rw [hk] at this <;> cases this

end Progress

/-- Discovery for an IPv4 antenna returns, found or not. -/
theorem setupNetworking_v4 (w : Kernel) (rng : ThreadRng) (a : Ipv4Addr) (port : UInt16)
    (interfaces : IfaceSet) : ∃ res d, setupNetworking w rng (.v4 a) port interfaces = .ok (res, d) :=
  ⟨_, _, rfl⟩

/-- **A turn returns, for an IPv4 antenna and a session of data, closes of open streams and
    shutdowns.** In a world where no socket operation of the session fails and the antenna
    closes nothing, a turn of the worker returns normally — whatever the connect does, whatever
    shape the server's answer has, and whatever discovery finds — provided that an answer that
    starts with a `ForwardMessage` names an IPv4 antenna, that the rest of its batch carries only
    data and close messages, and that the batches the session reads before its first failed read
    carry only data, close and shutdown messages, each close naming a stream open at that
    point. -/
theorem checkin_returns {io : Io} {w : Kernel} {rng : ThreadRng} {interfaces : IfaceSet}
    {input : CheckinInput} (hio : io.Reliable) (hq : io.AntennaStaysOpen)
    (hfwd : ∀ ip serverPort antennaPort slice,
      input.response = .ok (.forwardMessage ip serverPort antennaPort :: slice) →
      (∃ a, ip = .v4 a) ∧ (∀ m ∈ slice, m.isStream = true) ∧
        (∀ m ∈ (okBatches input.reads).flatten,
          m.isStream = true ∨ m = .forwardingCloseMessage) ∧
        ClosesOpen (slice ++ (okBatches input.reads).flatten)) :
    ∃ c, checkinIteration io w rng interfaces input = .ok c := by
  obtain ⟨connected, response, reads⟩ := input
  unfold checkinIteration
  cases connected
  · exact ⟨_, rfl⟩
  rcases response with e | _ | ⟨m, slice⟩
  · exact ⟨_, rfl⟩
  · exact ⟨_, rfl⟩
  cases m
  case forwardMessage ip serverPort antennaPort =>
    obtain ⟨⟨a, rfl⟩, hs, hr, hc⟩ := hfwd ip serverPort antennaPort slice rfl
    obtain ⟨res, d, hsn⟩ := setupNetworking_v4 w rng a antennaPort interfaces
    simp only [Bool.not_true, hsn, ok_bind]
    rcases res with e | antennaSockaddr
    · exact ⟨_, rfl⟩
    · dsimp only
      cases hf : forwardConnections io antennaSockaddr slice reads with
      | panicked p => exact absurd hf (forwardConnections_ne_panicked hio hq p hs hr hc)
      | _ => exact ⟨_, rfl⟩
  all_goals exact ⟨_, rfl⟩

/-- A turn that answers a session of one stream: data for stream 1 in the first batch, then a
    read with its close and the server's shutdown. -/
theorem checkin_returns_session :
    let io : Io := ⟨fun n => n, fun _ => true, fun _ _ => .idle⟩
    let w : Kernel := ⟨fun _ _ => .ok ⟨.ofCode 0⟩, fun _ => .ok (), fun _ => .ok (),
      fun _ i => if i = "eth1" then .ok (some ⟨0⟩) else .ok none⟩
    let rng : ThreadRng := ⟨fun n => if n = 0 then 7 else 8,
      fun b => if h : b = 7 then ⟨1, by subst h; decide⟩ else ⟨0, fun e => h e.symm⟩⟩
    let interfaces : IfaceSet := ⟨["eth0", "eth1", "eth2"], by decide⟩
    let input : CheckinInput := ⟨true,
      .ok [.forwardMessage (.v4 ⟨192, 168, 1, 20⟩) 0 80, .connectionDataMessage 1 [1]],
      [.ok [.connectionCloseMessage 1, .forwardingCloseMessage]]⟩
    (io.Reliable ∧ io.AntennaStaysOpen ∧
      ∀ ip serverPort antennaPort slice,
        input.response = .ok (.forwardMessage ip serverPort antennaPort :: slice) →
        (∃ a, ip = .v4 a) ∧ (∀ m ∈ slice, m.isStream = true) ∧
          (∀ m ∈ (okBatches input.reads).flatten,
            m.isStream = true ∨ m = .forwardingCloseMessage) ∧
          ClosesOpen (slice ++ (okBatches input.reads).flatten)) ∧
    ∃ c, checkinIteration io w rng interfaces input = .ok c := by
  intro io w rng interfaces input
  have hio : io.Reliable := fun _ => rfl
  have hq : io.AntennaStaysOpen := fun _ _ h => by cases h
  have hfwd : ∀ ip serverPort antennaPort slice,
      input.response = .ok (.forwardMessage ip serverPort antennaPort :: slice) →
      (∃ a, ip = .v4 a) ∧ (∀ m ∈ slice, m.isStream = true) ∧
        (∀ m ∈ (okBatches input.reads).flatten,
          m.isStream = true ∨ m = .forwardingCloseMessage) ∧
        ClosesOpen (slice ++ (okBatches input.reads).flatten) := by
    intro ip serverPort antennaPort slice h
    cases h
    exact ⟨⟨_, rfl⟩, by decide, by decide, by decide⟩
  exact ⟨⟨hio, hq, hfwd⟩, checkin_returns hio hq hfwd⟩

end Forwarding
end Rita
