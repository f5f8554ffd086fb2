import Rita.Forwarding.Relay

/-!
# `Rita/Forwarding/Session.lean` — `forward_connections`, a whole relay session

The session starts with an empty stream map and `last_message = Instant::now()`, hands the
pre-buffered first batch to `process_messages` — and drops its answer on the floor — and
then loops: read the control connection, pump the antenna side with `process_streams`,
handle the batch, stop if the batch asked to, stop if nothing has reset the idle clock for
`FORWARD_TIMEOUT`, sleep, repeat. A failed read ends the loop.

The reads are the session's input: `forwardConnections` takes the results of its
`read_messages` calls in order, and is `running` once it has used them all. A read returns
whatever messages arrived since the last one, possibly none — the relay must keep pumping
the antenna side while the server is silent, which is what makes the idle timeout (spec §4.3,
§5) reachable at all. `thread::sleep` takes no event: the world's clock (`Io.clock`) already
lets any amount of time pass between two events.

Two facts about the shutdown message are here. A shutdown in a *read* batch is terminal
(`read_close_ends_session`). A shutdown in the *first* batch is not: `forward_connections`
ignores the `bool` that `process_messages` returns for that batch, shuts everything down,
and goes on reading (`first_batch_close_not_terminal`). And one fact about the idle timeout:
only messages *from* the server reset the clock (`idle_timeout_sound`), so a session whose
antenna is busy sending upstream times out all the same (`idle_timeout_ignores_upstream`).
-/

set_option autoImplicit false

namespace Rita
namespace Forwarding

/-- What one `read_messages` call on the control connection returns: the messages that
    arrived since the last read, or a read error. -/
abbrev ReadResult := Except String (List ForwardingProtocolMessage)

/-- Where `forward_connections` is after the reads it was given: still in its loop, or out
    of it by a shutdown message, the idle timeout, a failed read, or a panic. -/
inductive Session
  | running (r : Relay)
  | closed (r : Relay)
  | timedOut (r : Relay)
  | readFailed (r : Relay)
  | panicked (p : Panic)

/-- The relay a session ends with, unless it panicked. -/
def Session.relay? : Session → Option Relay
  | .running r | .closed r | .timedOut r | .readFailed r => some r
  | .panicked _ => none

/-- `FORWARD_TIMEOUT`: 600 s, in nanoseconds. -/
def forwardTimeout : Nat := 600 * 1000000000

/-- `forward_connections`' locals on entry: no streams, `last_message = Instant::now()`. -/
def Relay.start (io : Io) : Relay :=
  { streams := ∅, conns := [], serverShutDown := false, lastMessage := io.clock 0, tick := 1,
    trace := [] }

/-- `while let Ok(vec) = read_messages(&mut server_stream) { .. }`, over the results of its
    reads. Each read is one event; the idle check reads the clock. -/
def forwardLoop (io : Io) (antennaSockaddr : SocketAddr) : List ReadResult → Relay → Session
  | [], r => .running r
  | .error _ :: _, r => .readFailed r
  | .ok vec :: reads, r =>
    match Relay.processMessages io antennaSockaddr vec (Relay.processStreams io r.advance) with
    | .error p => .panicked p
    | .ok (r, true) => .closed r
    | .ok (r, false) =>
      if r.now io - r.lastMessage > forwardTimeout then .timedOut r
      else forwardLoop io antennaSockaddr reads r.advance

/-- `forward_connections(antenna_sockaddr, server_stream, first_round_input)`. The result of
    the first `process_messages` call is not looked at. -/
def forwardConnections (io : Io) (antennaSockaddr : SocketAddr)
    (firstRoundInput : List ForwardingProtocolMessage) (reads : List ReadResult) : Session :=
  match Relay.processMessages io antennaSockaddr firstRoundInput (Relay.start io) with
  | .error p => .panicked p
  | .ok (r, _) => forwardLoop io antennaSockaddr reads r

/-! ## 1. Invariants of a whole session

`forwardLoop_induct` is the one induction over the loop: a property of the relay that
`process_messages`, `process_streams`, a read and the idle check keep holds of the relay
every session ends with. -/

section Induct

variable {io : Io} {a : SocketAddr}

theorem forwardLoop_induct (P : Relay → Prop)
    (hstep : ∀ r m r' b, P r →
      Relay.processItem io a (r.record io (.handled m)) m = .ok (r', b) → P r')
    (hpump : ∀ r, P r → P (Relay.processStreams io r))
    (hadv : ∀ r, P r → P r.advance) :
    ∀ (reads : List ReadResult) (r r' : Relay), P r →
      (forwardLoop io a reads r).relay? = some r' → P r' := by
  intro reads
  induction reads with
  | nil => intro r r' hr h; cases h; exact hr
  | cons rd reads ih =>
    intro r r' hr h
    rcases rd with e | vec
    · cases h; exact hr
    · simp only [forwardLoop] at h
      split at h
      · cases h
      · cases h
        exact Relay.processMessages_induct P hstep _ _ _ _ (hpump _ (hadv _ hr)) ‹_›
      · rename_i hb
        have hr' := Relay.processMessages_induct P hstep _ _ _ _ (hpump _ (hadv _ hr)) hb
        split at h
        · cases h; exact hr'
        · exact ih _ _ (hadv _ hr') h

theorem forwardConnections_induct (P : Relay → Prop)
    (hstep : ∀ r m r' b, P r →
      Relay.processItem io a (r.record io (.handled m)) m = .ok (r', b) → P r')
    (hpump : ∀ r, P r → P (Relay.processStreams io r))
    (hadv : ∀ r, P r → P r.advance) (h0 : P (Relay.start io))
    {first : List ForwardingProtocolMessage} {reads : List ReadResult} {r : Relay}
    (h : (forwardConnections io a first reads).relay? = some r) : P r := by
  unfold forwardConnections at h
  split at h
  · cases h
  · exact forwardLoop_induct P hstep hpump hadv reads _ _
      (Relay.processMessages_induct P hstep _ _ _ _ h0 ‹_›) h

theorem Relay.wf_start : (Relay.start io).Wf := by
  intro id c h; simp [Relay.start] at h

end Induct

/-! ## 2. The shutdown message -/

/-- Shutting connections down one after another leaves each of them shut. -/
theorem foldl_modify_shut (cs : List Nat) : ∀ (l : List AntennaConn) (c : Nat), c < l.length →
    (c ∈ cs ∨ ∃ k, l[c]? = some k ∧ k.shutDown = true) →
    ∃ k, (cs.foldl (fun l c => l.modify (fun k => { k with shutDown := true }) c) l)[c]? =
      some k ∧ k.shutDown = true := by
  induction cs with
  | nil => intro l c _ h; simpa using h
  | cons c' cs ih =>
    intro l c hc h
    refine ih _ c (by simpa using hc) ?_
    by_cases hin : c ∈ cs
    · exact .inl hin
    · refine .inr ?_
      by_cases he : c' = c
      · subst he
        refine ⟨{ l[c'] with shutDown := true }, ?_, rfl⟩
        simp [List.getElem?_eq_getElem hc]
      · rw [List.getElem?_modify_ne _ _ he]
        rcases h with h | h
        · exact absurd ((List.mem_cons.mp h).resolve_left (Ne.symm he)) hin
        · exact h

section Shutdown

variable {io : Io} {a : SocketAddr}

/-- A batch that stopped at the shutdown message leaves every stream of the map and the
    control connection shut down, and the shutdown as the last thing in the trace. -/
theorem closed_of_stop {ms : List ForwardingProtocolMessage} {r r' : Relay} (hw : r.Wf)
    (h : Relay.processMessages io a ms r = .ok (r', true)) :
    (∃ pre t, r'.trace = pre ++ [(t, .handled .forwardingCloseMessage)]) ∧
      r'.serverShutDown = true ∧
      ∀ id c, r'.streams.lookup id = some c → ∃ k, r'.conns[c]? = some k ∧ k.shutDown = true := by
  obtain ⟨pre, post, r₀, -, hpre, hfc⟩ := Relay.processMessages_stop h
  have hw₀ : r₀.Wf := hw.processMessages hpre
  rcases Relay.processItem_cases hfc with
    ⟨_, _, hm, -⟩ | ⟨_, _, _, hm, -⟩ | ⟨_, _, hm, -⟩ | ⟨-, -, rfl⟩
  · cases hm
  · cases hm
  · cases hm
  refine ⟨⟨r₀.trace, _, rfl⟩, rfl, fun id c hc => foldl_modify_shut _ _ c (hw₀ id c hc) (.inl ?_)⟩
  exact List.mem_map.mpr ⟨⟨id, c⟩, AList.mem_lookup_iff.mp hc, rfl⟩

theorem forwardLoop_closed {reads : List ReadResult} {r r' : Relay} (hw : r.Wf)
    (h : forwardLoop io a reads r = .closed r') :
    (∃ pre t, r'.trace = pre ++ [(t, .handled .forwardingCloseMessage)]) ∧
      r'.serverShutDown = true ∧
      ∀ id c, r'.streams.lookup id = some c → ∃ k, r'.conns[c]? = some k ∧ k.shutDown = true := by
  induction reads generalizing r with
  | nil => cases h
  | cons rd reads ih =>
    rcases rd with e | vec
    · cases h
    · simp only [forwardLoop] at h
      have hw' : (Relay.processStreams io r.advance).Wf := Relay.Wf.processStreams hw
      split at h
      · cases h
      · cases h; exact closed_of_stop hw' ‹_›
      · rename_i hb
        split at h
        · cases h
        · have hw'' := hw'.processMessages hb
          exact ih (show Relay.Wf (Relay.advance _) from hw'') h

/-- What a `closed` session leaves: every stream in the map and the control connection shut
    down, and the shutdown the last thing the relay did — nothing after it in the batch was
    handled, nothing was dialled, and `process_streams` did not run again. -/
theorem forwardConnections_closed {first : List ForwardingProtocolMessage}
    {reads : List ReadResult} {r : Relay} (h : forwardConnections io a first reads = .closed r) :
    (∃ pre t, r.trace = pre ++ [(t, .handled .forwardingCloseMessage)]) ∧
      r.serverShutDown = true ∧
      ∀ id c, r.streams.lookup id = some c → ∃ k, r.conns[c]? = some k ∧ k.shutDown = true := by
  unfold forwardConnections at h
  split at h
  · cases h
  · exact forwardLoop_closed (Relay.wf_start.processMessages ‹_›) h

/-- A session still running after `reads` goes on from there with the reads that follow. -/
theorem forwardConnections_append_of_running {first : List ForwardingProtocolMessage}
    {reads more : List ReadResult} {r : Relay} (h : forwardConnections io a first reads = .running r) :
    forwardConnections io a first (reads ++ more) = forwardLoop io a more r := by
  suffices key : ∀ (reads : List ReadResult) (r₀ : Relay), forwardLoop io a reads r₀ = .running r →
      forwardLoop io a (reads ++ more) r₀ = forwardLoop io a more r by
    unfold forwardConnections at h ⊢
    split at h
    · cases h
    · exact key reads _ h
  intro reads
  induction reads with
  | nil => intro r₀ h; cases h; rfl
  | cons rd reads ih =>
    intro r₀ h
    rcases rd with e | vec
    · cases h
    simp only [forwardLoop, List.cons_append] at h ⊢
    split at h
    · cases h
    · cases h
    · split_ifs at h ⊢
      exact ih _ h

/-- **A shutdown read from the server ends the session.** In a world where no socket operation
    fails, a session still running after its reads so far, that reads a batch whose messages
    before its first `ForwardingCloseMessage` get through without stopping, is `closed` by that
    batch, whatever follows the shutdown in it and whatever the later reads would bring: every
    stream in the map and the control connection are shut down, and the shutdown is the last
    message handled. -/
theorem read_close_ends_session (hio : io.Reliable) {first pre post : List ForwardingProtocolMessage}
    {reads more : List ReadResult} {r r₁ : Relay}
    (hrun : forwardConnections io a first reads = .running r)
    (hpre : Relay.processMessages io a pre (Relay.processStreams io r.advance) = .ok (r₁, false)) :
    ∃ r', forwardConnections io a first
        (reads ++ .ok (pre ++ .forwardingCloseMessage :: post) :: more) = .closed r' ∧
      (∃ tr t, r'.trace = tr ++ [(t, .handled .forwardingCloseMessage)]) ∧
      r'.serverShutDown = true ∧
      ∀ id c, r'.streams.lookup id = some c → ∃ k, r'.conns[c]? = some k ∧ k.shutDown = true := by
  obtain ⟨r', hfc⟩ := Relay.processItem_forwardingClose_progress (a := a)
    (r := r₁.record io (.handled .forwardingCloseMessage)) hio
  have hclosed : forwardConnections io a first
      (reads ++ .ok (pre ++ .forwardingCloseMessage :: post) :: more) = .closed r' := by
    rw [forwardConnections_append_of_running hrun, forwardLoop,
      Relay.processMessages_append_of_continue hpre, Relay.processMessages_cons_of_stop hfc]
  exact ⟨r', hclosed, forwardConnections_closed hclosed⟩

end Shutdown

/-- A session that opens stream 1 and then reads a batch with data for stream 2, the shutdown,
    and data for stream 3: it is closed there, stream 3 is never handled, and the read after
    it never happens. -/
theorem forwardConnections_closed_midbatch :
    let io : Io := ⟨fun n => n, fun _ => true, fun _ _ => .idle⟩
    let a : SocketAddr := ⟨.v4 ⟨10, 0, 0, 5⟩, 80⟩
    io.Reliable ∧ ∃ r r₁, forwardConnections io a [.connectionDataMessage 1 [1]] [] = .running r ∧
      Relay.processMessages io a [.connectionDataMessage 2 [2]]
        (Relay.processStreams io r.advance) = .ok (r₁, false) ∧
      ∃ r', forwardConnections io a [.connectionDataMessage 1 [1]]
          ([] ++ .ok ([.connectionDataMessage 2 [2]] ++ .forwardingCloseMessage ::
            [.connectionDataMessage 3 [3]]) :: [.ok [.connectionDataMessage 4 [4]]]) = .closed r' ∧
        (∃ tr t, r'.trace = tr ++ [(t, .handled .forwardingCloseMessage)]) ∧
        r'.serverShutDown = true ∧
        ∀ id c, r'.streams.lookup id = some c → ∃ k, r'.conns[c]? = some k ∧ k.shutDown = true := by
  intro io a
  have hio : io.Reliable := fun _ => rfl
  refine ⟨hio, ?r, ?r₁, ?h, ?hp, read_close_ends_session hio ?h ?hp⟩
  case h => exact rfl
  case hp => exact rfl

/-- A shutdown in the *first* batch is not terminal: it shuts the control connection down,
    and then `forward_connections` reads again, pumps the antenna side, handles the next
    batch and dials the antenna for it. -/
theorem first_batch_close_not_terminal :
    ∃ r, forwardConnections ⟨fun n => n, fun _ => true, fun _ _ => .idle⟩
        ⟨.v4 ⟨10, 0, 0, 5⟩, 80⟩ [.forwardingCloseMessage]
        [.ok [.connectionDataMessage 1 [71]]] = .running r ∧
      r.serverShutDown = true ∧
      r.trace.map Prod.snd = [.handled .forwardingCloseMessage, .pumped,
        .handled (.connectionDataMessage 1 [71]), .dialed 0] :=
  ⟨_, rfl, rfl, rfl⟩

/-! ## 3. The idle timeout

`last_message` is written in one place, the data and close arms of `process_messages`, with
the time the message is handled. So the clock it starts tracks messages *from* the server and
nothing else: what `process_streams` sends upstream does not touch it. -/

/-- The idle clock's invariant: every data or close message handled so far was handled no
    later than `last_message`, and `last_message` is no later than now. -/
def IdleClock (io : Io) (r : Relay) : Prop :=
  (∀ t m, (t, Event.handled m) ∈ r.trace → m.isStream = true → t ≤ r.lastMessage) ∧
    r.lastMessage ≤ r.now io

section Idle

variable {io : Io} {a : SocketAddr}

theorem IdleClock.start (hm : io.Monotonic) : IdleClock io (Relay.start io) :=
  ⟨fun _ _ h => by simp [Relay.start] at h, hm 0 1 (Nat.zero_le 1)⟩

theorem IdleClock.advance (hm : io.Monotonic) {r : Relay} (h : IdleClock io r) :
    IdleClock io r.advance :=
  ⟨h.1, h.2.trans (hm _ _ (Nat.le_succ _))⟩

theorem IdleClock.processStreams (hm : io.Monotonic) {r : Relay} (h : IdleClock io r) :
    IdleClock io (Relay.processStreams io r) := by
  obtain ⟨h1, -, h3, ds, h4, h5⟩ := @Relay.processStreams_frame io r
  refine ⟨fun t m ht hs => ?_, ?_⟩
  · rw [h4, List.mem_append] at ht
    rw [h1]
    rcases ht with ht | ht
    · exact h.1 t m ht hs
    · simpa [Event.isHandled] using h5 _ ht
  · rw [h1]; exact h.2.trans (hm _ _ h3)

/-- Handling one message keeps the idle clock's invariant: a data or close message is
    stamped with the very time it writes to `last_message`. -/
theorem IdleClock.processItem (hm : io.Monotonic) {r r' : Relay} {m : ForwardingProtocolMessage}
    {b : Bool} (h : IdleClock io r)
    (hs : Relay.processItem io a (r.record io (.handled m)) m = .ok (r', b)) :
    IdleClock io r' := by
  have old : ∀ t m', (t, Event.handled m') ∈ r.trace → m'.isStream = true → t ≤ r.now io :=
    fun t m' ht hs' => (h.1 t m' ht hs').trans h.2
  rcases Relay.processItem_cases hs with
    ⟨_, _, rfl, -, -, rfl⟩ | ⟨_, _, _, rfl, -, -, rfl⟩ | ⟨_, _, rfl, -, -, rfl⟩ | ⟨rfl, -, rfl⟩
  all_goals
    refine ⟨fun t m' ht hs' => ?_, ?_⟩
    · simp only [Relay.record, List.mem_append, List.mem_singleton, Prod.mk.injEq,
        Event.handled.injEq] at ht
      first
        | (rcases ht with ((ht | ⟨rfl, rfl⟩) | ht)
           · exact old t m' ht hs'
           · exact le_rfl
           · cases ht.2)
        | (rcases ht with ht | ⟨rfl, rfl⟩
           · first | exact old t m' ht hs' | exact h.1 t m' ht hs'
           · first | exact le_rfl | cases hs')
    · simp only [Relay.now, Relay.record]
      first
        | exact hm _ _ (by omega)
        | exact h.2.trans (hm _ _ (by omega))

theorem IdleClock.processMessages (hm : io.Monotonic) {ms : List ForwardingProtocolMessage}
    {r r' : Relay} {b : Bool} (h : IdleClock io r)
    (hs : Relay.processMessages io a ms r = .ok (r', b)) : IdleClock io r' :=
  Relay.processMessages_induct (IdleClock io) (fun _ _ _ _ hr hs => hr.processItem hm hs) _ _ _ _
    h hs

/-- **The idle timeout only counts messages from the server.** If a session ends in the
    `FORWARD_TIMEOUT` branch, no data or close message from the server was handled in the
    `FORWARD_TIMEOUT` before the check: every one of them was handled more than 600 s
    earlier. (It says nothing about what `process_streams` sent upstream; see
    `idle_timeout_ignores_upstream`.) -/
theorem idle_timeout_sound (hm : io.Monotonic) {first : List ForwardingProtocolMessage}
    {reads : List ReadResult} {r : Relay}
    (h : forwardConnections io a first reads = .timedOut r) :
    ∀ t m, (t, Event.handled m) ∈ r.trace → m.isStream = true →
      t + forwardTimeout < r.now io := by
  suffices key : ∀ (reads : List ReadResult) (r₀ : Relay), IdleClock io r₀ →
      forwardLoop io a reads r₀ = .timedOut r → ∀ t m, (t, Event.handled m) ∈ r.trace →
        m.isStream = true → t + forwardTimeout < r.now io by
    unfold forwardConnections at h
    split at h
    · cases h
    · exact key reads _ ((IdleClock.start hm).processMessages hm ‹_›) h
  intro reads
  induction reads with
  | nil => intro r₀ _ h; cases h
  | cons rd reads ih =>
    intro r₀ hr h
    rcases rd with e | vec
    · cases h
    · simp only [forwardLoop] at h
      split at h
      · cases h
      · cases h
      · rename_i hb
        have hr' := ((hr.advance hm).processStreams hm).processMessages hm hb
        split at h
        · cases h
          intro t m ht hs
          have := hr'.1 t m ht hs
          omega
        · exact ih _ (hr'.advance hm) h

/-- An antenna that pushes data upstream while the server is silent does not keep the
    session alive: with one event every 200 s, a stream opened by the first batch, and one
    empty read, `process_streams` sends the antenna's bytes upstream 200 s before the idle
    check, and the session times out all the same. -/
theorem idle_timeout_ignores_upstream :
    let io : Io := ⟨fun n => n * 200000000000, fun _ => true, fun _ _ => .data [9]⟩
    io.Monotonic ∧ ∃ r, forwardConnections io ⟨.v4 ⟨10, 0, 0, 5⟩, 80⟩
        [.connectionDataMessage 1 [0]] [.ok []] = .timedOut r ∧
      ∃ t m, (t, Event.sent m) ∈ r.trace ∧ m.isStream = true ∧ r.now io ≤ t + forwardTimeout :=
  ⟨fun _ _ h => Nat.mul_le_mul_right _ h, _, rfl, 1200000000000, .connectionDataMessage 1 [9],
    by decide, rfl, by decide⟩

/-- In the session of `idle_timeout_ignores_upstream`, the one message from the server was
    handled at 200 s, more than `FORWARD_TIMEOUT` before the check at 1400 s. -/
theorem idle_timeout_after_download :
    ∃ r, forwardConnections ⟨fun n => n * 200000000000, fun _ => true, fun _ _ => .data [9]⟩
        ⟨.v4 ⟨10, 0, 0, 5⟩, 80⟩ [.connectionDataMessage 1 [0]] [.ok []] = .timedOut r ∧
      200000000000 + forwardTimeout <
        r.now ⟨fun n => n * 200000000000, fun _ => true, fun _ _ => .data [9]⟩ :=
  ⟨_, rfl, @idle_timeout_sound ⟨fun n => n * 200000000000, fun _ => true, fun _ _ => .data [9]⟩
    ⟨.v4 ⟨10, 0, 0, 5⟩, 80⟩ (fun _ _ h => Nat.mul_le_mul_right _ h) [.connectionDataMessage 1 [0]]
    [.ok []] _ rfl 200000000000 (.connectionDataMessage 1 [0]) (by decide) rfl⟩

end Idle

end Forwarding
end Rita
