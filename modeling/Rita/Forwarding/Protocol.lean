import Rita.Forwarding.Mux

/-!
# `Rita/Forwarding/Protocol.lean` — the relay and the server, under every interleaving

The relay does not run alone. The server opens, feeds and closes streams on its side and
sends `ConnectionDataMessage`/`ConnectionCloseMessage` down the control connection; the
client's `process_streams` sends data and closes back up whenever the antenna side has
something to say, a closed connection included. Both directions are FIFO and both sides
act whenever they like.

`Net` is that system: the server's view of which ids are open, the two channels, and the
client's `Relay`, moved by `Net.step`, one action at a time, and by `Net.run` over any list
of actions. The client's two steps are the source's own functions: a read handing a batch of
what has arrived to `process_messages` (`Net.handleN`, which is `process_messages` on the
relay, `Net.handleN_relay`) and `process_streams`.

Each message the server sends carries a ghost tag naming the *server-side stream* it belongs
to — a fresh number each time the server opens an id — and whether it is that stream's
first message. The ghost state records which server-side stream each antenna connection was
dialled for, and for each message the client handled whether the client's stream map was as
the server meant: nothing open under the id for a stream's first message, and the
connection dialled for that same stream for every later one.

The results:

* `relay_streams_race` — with nothing more than the server's own discipline (it sends only for
  ids it considers open, and reuses an id only after a close), one close racing the other way
  is enough: the antenna closes stream 1 while the server's next data for it is in flight,
  and the data dials a fresh connection that never saw the stream's first bytes; with the
  server's close in flight instead, the client panics with "How can we close a stream we
  don't have?".
* `relay_streams_agree` — if closes never cross (`process_streams` does not close a stream
  while a server message for it is in flight, and the server sends nothing for an id while
  the client's close of it is in flight), every interleaving keeps the two sides in
  agreement: every handled message found the stream as the server meant, each server-side
  stream has at most one antenna connection, each connection carries exactly the payloads of
  its stream handled so far, and no batch can panic on a close.

The proof is one invariant, `Net.Inv`, kept by every step. Its heart is `drain`: replaying,
for each id, the messages in flight on the client's current view of that id must fit at each
message and end at the server's view.
-/

set_option autoImplicit false

namespace Rita
namespace Forwarding

/-! ## 1. The system -/

/-- The stream a data or close message is about. -/
def ForwardingProtocolMessage.streamId? : ForwardingProtocolMessage → Option UInt64
  | .connectionDataMessage id _ | .connectionCloseMessage id => some id
  | _ => none

/-- The ghost tag of a message the server sends: its server-side stream, and whether it is
    that stream's first message. -/
structure Tag where
  inst : Nat
  first : Bool
  deriving DecidableEq, Repr

/-- Whether the client's view `v` of a message's id — the server-side stream it has open
    there — is the one the server sent the message for: none for a stream's first message,
    that same stream for every later data or close message. -/
def Tag.fits (t : Tag) : ForwardingProtocolMessage → Option Nat → Bool
  | .connectionDataMessage .., v => if t.first then v = none else v = some t.inst
  | .connectionCloseMessage _, v => v = some t.inst
  | _, _ => true

/-- The view the server means a message to leave behind. -/
def Tag.after (t : Tag) : ForwardingProtocolMessage → Option Nat
  | .connectionDataMessage .. => some t.inst
  | _ => none

/-- The server, the two channels and the client, with the ghost state. -/
structure Net where
  /-- The ids the server considers open, each with its server-side stream. -/
  srv : AList (fun _ : UInt64 => Nat)
  /-- The next server-side stream number. -/
  fresh : Nat
  /-- Server to client, in flight, oldest first, each message with its ghost tag. -/
  down : List (ForwardingProtocolMessage × Tag)
  /-- Client to server, in flight, oldest first. -/
  up : List ForwardingProtocolMessage
  /-- The client. -/
  relay : Relay
  /-- Ghost: the server-side stream each antenna connection was dialled for. -/
  owner : List Nat
  /-- Ghost: each message the client has handled, with its tag and whether it fit. -/
  seen : List (ForwardingProtocolMessage × Tag × Bool)

namespace Net

variable (io : Io) (a : SocketAddr)

/-- The system before anything happened. -/
def init : Net := ⟨∅, 0, [], [], Relay.start io, [], []⟩

/-- The server-side stream the client has open under `id`: the one its connection was
    dialled for. -/
def view (s : Net) (id : UInt64) : Option Nat :=
  (s.relay.streams.lookup id).bind fun c => s.owner[c]?

/-- Whether a message fits the client's view of its id. -/
def fits (s : Net) (m : ForwardingProtocolMessage) (t : Tag) : Bool :=
  match m.streamId? with
  | some id => t.fits m (s.view id)
  | none => true

/-- The client handles one message: `process_messages`' loop body with its trace entry.
    Connections dialled meanwhile belong to the message's server-side stream. -/
def handle (s : Net) (m : ForwardingProtocolMessage) (t : Tag) : Except Panic (Net × Bool) :=
  match Relay.processItem io a (s.relay.record io (.handled m)) m with
  | .error p => .error p
  | .ok (r, stop) =>
    .ok ({ s with
      relay := r,
      owner := s.owner ++ (r.conns.drop s.relay.conns.length).map fun _ => t.inst,
      seen := s.seen ++ [(m, t, s.fits m t)] }, stop)

/-- `process_messages` on the first `k` messages in flight: what one read returned. A
    shutdown drops the rest of the batch. -/
def handleN : Nat → Net → Except Panic (Net × Bool)
  | 0, s => .ok (s, false)
  | k + 1, s =>
    match s.down with
    | [] => .ok (s, false)
    | (m, t) :: down => do
      let (s, stop) ← handle io a { s with down := down } m t
      if stop then pure ({ s with down := s.down.drop k }, true) else handleN k s

/-- Whether the client's close of `id` is in flight. -/
def closing (s : Net) (id : UInt64) : Bool := decide (.connectionCloseMessage id ∈ s.up)

/-- Whether `process_streams` would close only streams no message in flight is for. -/
def pumpCrossesNothing (s : Net) : Bool :=
  s.down.all fun e => match e.1.streamId? with
    | some id => decide ((Relay.processStreams io s.relay).streams.lookup id =
        s.relay.streams.lookup id)
    | none => true

/-- `process_streams` on the client; what it sends goes up. -/
def pump (s : Net) : Net :=
  { s with relay := Relay.processStreams io s.relay,
           up := s.up ++ (Relay.processStreams io s.relay).sent.drop s.relay.sent.length }

/-- What the server does with a message from the client: a close ends the stream. -/
def srvRecv (srv : AList (fun _ : UInt64 => Nat)) :
    ForwardingProtocolMessage → AList (fun _ : UInt64 => Nat)
  | .connectionCloseMessage id => srv.erase id
  | _ => srv

end Net

/-- One step of the system. -/
inductive Action
  /-- The server opens `id` with its first payload. -/
  | serverOpen (id : UInt64) (payload : List UInt8)
  /-- The server sends more data on an open `id`. -/
  | serverData (id : UInt64) (payload : List UInt8)
  /-- The server closes an open `id`. -/
  | serverClose (id : UInt64)
  /-- The server receives the oldest message from the client. -/
  | serverRecv
  /-- A read returns the `k` oldest messages in flight, and `process_messages` handles them. -/
  | clientRecv (k : Nat)
  /-- `process_streams`. -/
  | clientPump
  deriving DecidableEq, Repr

namespace Net

variable (io : Io) (a : SocketAddr)

/-- One action, if it can be taken. The server sends only for ids it considers open and
    reuses an id only once it considers it closed; a client step that panics does not
    happen. With `noCross`, neither side sends across a close in flight the other way. -/
def step (noCross : Bool) (s : Net) : Action → Option Net
  | .serverOpen id p =>
    if s.srv.lookup id = none then
      some { s with srv := s.srv.insert id s.fresh, fresh := s.fresh + 1,
                    down := s.down ++ [(.connectionDataMessage id p, ⟨s.fresh, true⟩)] }
    else none
  | .serverData id p =>
    match s.srv.lookup id with
    | some n =>
      if noCross && s.closing id then none
      else some { s with down := s.down ++ [(.connectionDataMessage id p, ⟨n, false⟩)] }
    | none => none
  | .serverClose id =>
    match s.srv.lookup id with
    | some n =>
      if noCross && s.closing id then none
      else some { s with srv := s.srv.erase id,
                         down := s.down ++ [(.connectionCloseMessage id, ⟨n, false⟩)] }
    | none => none
  | .serverRecv =>
    match s.up with
    | [] => none
    | m :: up => some { s with up := up, srv := srvRecv s.srv m }
  | .clientRecv k =>
    if 0 < k ∧ k ≤ s.down.length then
      match handleN io a k s with
      | .ok (s', _) => some s'
      | .error _ => none
    else none
  | .clientPump =>
    if noCross && !s.pumpCrossesNothing io then none else some (s.pump io)

/-- A run: the actions in order, as long as each can be taken. -/
def run (noCross : Bool) : List Action → Net → Option Net
  | [], s => some s
  | act :: acts, s => (step io a noCross s act).bind (run noCross acts)

end Net

/-! ## 2. The invariant -/

/-- Replays the messages in flight for `id` on the client's view `v`: the view they leave,
    or `none` if one of them does not fit. -/
def drain (id : UInt64) (v : Option Nat) :
    List (ForwardingProtocolMessage × Tag) → Option (Option Nat)
  | [] => some v
  | (m, t) :: ds =>
    if m.streamId? = some id then (if t.fits m v then drain id (t.after m) ds else none)
    else drain id v ds

/-- The server-side streams whose first message is still in flight. -/
def openings (ds : List (ForwardingProtocolMessage × Tag)) : List Nat :=
  ds.filterMap fun e => if e.2.first then some e.2.inst else none

/-- What a handled message wrote for server-side stream `n`. -/
def Tag.payload (n : Nat) (m : ForwardingProtocolMessage) (t : Tag) : List UInt8 :=
  match m with
  | .connectionDataMessage _ p => if t.inst = n then p else []
  | _ => []

/-- The payloads of server-side stream `n` among the handled messages, in order. -/
def payloads (n : Nat) (es : List (ForwardingProtocolMessage × Tag × Bool)) : List UInt8 :=
  (es.map fun e => e.2.1.payload n e.1).flatten

section Lemmas

variable {id : UInt64} {v : Option Nat} {m : ForwardingProtocolMessage} {t : Tag}
  {ds es : List (ForwardingProtocolMessage × Tag)}

theorem drain_append (v : Option Nat) :
    drain id v (ds ++ es) = (drain id v ds).bind fun w => drain id w es := by
  induction ds generalizing v with
  | nil => rfl
  | cons e ds ih =>
    obtain ⟨m, t⟩ := e
    simp only [List.cons_append, drain]
    split
    · split
      · exact ih _
      · rfl
    · exact ih _

theorem drain_cons_self (h : m.streamId? = some id) :
    drain id v ((m, t) :: ds) = if t.fits m v then drain id (t.after m) ds else none := by
  simp [drain, h]

theorem drain_cons_ne (h : m.streamId? ≠ some id) : drain id v ((m, t) :: ds) = drain id v ds := by
  simp [drain, h]

/-- Messages for other ids leave the view alone. -/
theorem drain_of_forall (h : ∀ e ∈ ds, e.1.streamId? ≠ some id) : drain id v ds = some v := by
  induction ds with
  | nil => rfl
  | cons e ds ih =>
    obtain ⟨m, t⟩ := e
    rw [drain_cons_ne (h _ (.head _))]
    exact ih fun e he => h e (.tail _ he)

theorem mem_openings {n : Nat} (h : n ∈ openings ds) : ∃ e ∈ ds, e.2.inst = n := by
  obtain ⟨e, he, hn⟩ := List.mem_filterMap.mp h
  split at hn
  · cases hn; exact ⟨e, he, rfl⟩
  · cases hn

@[simp] theorem openings_append : openings (ds ++ es) = openings ds ++ openings es :=
  List.filterMap_append _ _ _

theorem openings_cons : openings ((m, t) :: ds) = (if t.first then [t.inst] else []) ++ openings ds := by
  cases ht : t.first <;> simp [openings, ht]

theorem payloads_concat (n : Nat) (es : List (ForwardingProtocolMessage × Tag × Bool))
    (e : ForwardingProtocolMessage × Tag × Bool) :
    payloads n (es ++ [e]) = payloads n es ++ e.2.1.payload n e.1 := by
  simp [payloads]

/-- A stream none of whose messages was handled has written nothing. -/
theorem payloads_eq_nil {n : Nat} {es : List (ForwardingProtocolMessage × Tag × Bool)}
    (h : ∀ e ∈ es, e.2.1.inst ≠ n) : payloads n es = [] := by
  simp only [payloads, List.flatten_eq_nil_iff, List.mem_map]
  rintro _ ⟨⟨m, t, b⟩, he, rfl⟩
  cases m <;> simp [Tag.payload, h _ he]

/-- Putting a new element in the middle of a list without duplicates. -/
theorem nodup_middle {l₁ l₂ : List Nat} {n : Nat} (h : (l₁ ++ l₂).Nodup) (hn : n ∉ l₁ ++ l₂) :
    (l₁ ++ n :: l₂).Nodup :=
  List.perm_middle.nodup_iff.mpr (List.nodup_cons.mpr ⟨hn, h⟩)

end Lemmas

namespace Net

/-- What the system keeps true, for every id: either the client's close of it is in flight
    and nothing else is said about it, or replaying what is in flight for it on the client's
    view fits and ends at the server's view. Server-side stream numbers are fresh, every
    stream whose first message was handled has one connection, and each connection carries
    its stream's handled payloads. -/
structure Inv (s : Net) : Prop where
  wf : s.relay.Wf
  owner_length : s.owner.length = s.relay.conns.length
  stream : ∀ e ∈ s.down, e.1.isStream = true
  drain_fits : ∀ id, s.closing id = false → drain id (s.view id) s.down = some (s.srv.lookup id)
  closing_quiet : ∀ id, s.closing id = true →
    (∀ e ∈ s.down, e.1.streamId? ≠ some id) ∧ s.view id = none ∧ (s.srv.lookup id).isSome ∧
      s.up.count (.connectionCloseMessage id) = 1
  fresh_srv : ∀ id n, s.srv.lookup id = some n → n < s.fresh
  fresh_owner : ∀ n ∈ s.owner, n < s.fresh
  fresh_down : ∀ e ∈ s.down, e.2.inst < s.fresh
  nodup : (openings s.down ++ s.owner).Nodup
  seen_fit : ∀ e ∈ s.seen, e.2.2 = true
  seen_owned : ∀ e ∈ s.seen, e.2.1.inst ∈ s.owner
  wire : ∀ (c : Nat) (k : AntennaConn) (n : Nat), s.relay.conns[c]? = some k → s.owner[c]? = some n →
    k.written = payloads n s.seen

section Steps

variable {io : Io} {s : Net}

theorem Inv.init : (init io).Inv where
  wf := Relay.wf_start
  owner_length := rfl
  stream _ h := absurd h (List.not_mem_nil _)
  drain_fits _ _ := rfl
  closing_quiet _ h := by cases h
  fresh_srv _ _ h := by cases h
  fresh_owner _ h := absurd h (List.not_mem_nil _)
  fresh_down _ h := absurd h (List.not_mem_nil _)
  nodup := List.nodup_nil
  seen_fit _ h := absurd h (List.not_mem_nil _)
  seen_owned _ h := absurd h (List.not_mem_nil _)
  wire _ _ _ h := by cases h

/-- The client's view of a stream it has open is some server-side stream. -/
theorem Inv.view_isSome (h : s.Inv) {id : UInt64} (hm : id ∈ s.relay.streams) :
    (s.view id).isSome := by
  obtain ⟨c, hc⟩ := Option.isSome_iff_exists.mp (AList.lookup_isSome.mpr hm)
  have : c < s.owner.length := h.owner_length ▸ h.wf id c hc
  simp [view, hc, this]

theorem Inv.not_closing (h : s.Inv) {id : UInt64} (hv : (s.view id).isSome) :
    s.closing id = false := by
  by_contra hc
  have := (h.closing_quiet id (by simpa using hc)).2.1
  simp [this] at hv

theorem Tag.after_eq_some {t : Tag} {m : ForwardingProtocolMessage} {k : Nat}
    (h : t.after m = some k) : k = t.inst := by
  cases m <;> simp [Tag.after] at h
  exact h.symm

theorem srvRecv_lookup_ne {srv : AList (fun _ : UInt64 => Nat)} {m : ForwardingProtocolMessage}
    {j : UInt64} (h : m ≠ .connectionCloseMessage j) : (srvRecv srv m).lookup j = srv.lookup j := by
  cases m with
  | connectionCloseMessage i => exact AList.lookup_erase_ne fun e => h (by rw [e])
  | _ => rfl

theorem srvRecv_lookup {srv : AList (fun _ : UInt64 => Nat)} {m : ForwardingProtocolMessage}
    {j : UInt64} {k : Nat} (h : (srvRecv srv m).lookup j = some k) : srv.lookup j = some k := by
  by_cases hm : m = .connectionCloseMessage j
  · subst hm; simp [srvRecv] at h
  · rwa [srvRecv_lookup_ne hm] at h

/-- The server opens an id it considers closed, under a fresh server-side stream. -/
theorem Inv.serverOpen (h : s.Inv) {id : UInt64} {p : List UInt8} (hl : s.srv.lookup id = none) :
    Inv { s with srv := s.srv.insert id s.fresh, fresh := s.fresh + 1,
                 down := s.down ++ [(.connectionDataMessage id p, ⟨s.fresh, true⟩)] } where
  wf := h.wf
  owner_length := h.owner_length
  stream e he := by
    rcases List.mem_append.mp he with he | he
    · exact h.stream e he
    · rw [List.mem_singleton.mp he]; rfl
  drain_fits j hj := by
    show drain j (s.view j) (s.down ++ _) = _
    rw [drain_append, h.drain_fits j hj]
    by_cases hji : j = id
    · subst hji; simp [hl, Forwarding.drain, ForwardingProtocolMessage.streamId?, Tag.fits, Tag.after]
    · simp [Forwarding.drain, ForwardingProtocolMessage.streamId?, Ne.symm hji,
        AList.lookup_insert_ne hji]
  closing_quiet j hj := by
    obtain ⟨h1, h2, h3, h4⟩ := h.closing_quiet j hj
    have hji : j ≠ id := by rintro rfl; simp [hl] at h3
    refine ⟨fun e he => ?_, h2, by simpa [AList.lookup_insert_ne hji] using h3, h4⟩
    rcases List.mem_append.mp he with he | he
    · exact h1 e he
    · rw [List.mem_singleton.mp he]; simpa [ForwardingProtocolMessage.streamId?] using Ne.symm hji
  fresh_srv j k hk := by
    by_cases hji : j = id
    · subst hji
      show k < s.fresh + 1
      simp at hk; omega
    · rw [AList.lookup_insert_ne hji] at hk; exact Nat.lt_succ_of_lt (h.fresh_srv j k hk)
  fresh_owner n hn := Nat.lt_succ_of_lt (h.fresh_owner n hn)
  fresh_down e he := by
    rcases List.mem_append.mp he with he | he
    · exact Nat.lt_succ_of_lt (h.fresh_down e he)
    · rw [List.mem_singleton.mp he]; exact Nat.lt_succ_self _
  nodup := by
    rw [openings_append, List.append_assoc]
    refine nodup_middle h.nodup fun hm => ?_
    rcases List.mem_append.mp hm with hm | hm
    · obtain ⟨e, he, hn⟩ := mem_openings hm
      exact absurd (hn ▸ h.fresh_down e he) (lt_irrefl _)
    · exact absurd (h.fresh_owner _ hm) (lt_irrefl _)
  seen_fit := h.seen_fit
  seen_owned := h.seen_owned
  wire := h.wire

/-- The server sends a later message of a stream it has open — more data, which leaves its
    view alone, or the close, which ends it. -/
theorem Inv.serverSend (h : s.Inv) {id : UInt64} {n : Nat} {m : ForwardingProtocolMessage}
    (hm : m.streamId? = some id) (hs : m.isStream = true) (hl : s.srv.lookup id = some n)
    (hfit : Tag.fits ⟨n, false⟩ m (some n) = true) (hc : s.closing id = false)
    {srv : AList (fun _ : UInt64 => Nat)}
    (hsrv : ∀ j, srv.lookup j = if j = id then Tag.after ⟨n, false⟩ m else s.srv.lookup j) :
    Inv { s with srv := srv, down := s.down ++ [(m, ⟨n, false⟩)] } where
  wf := h.wf
  owner_length := h.owner_length
  stream e he := by
    rcases List.mem_append.mp he with he | he
    · exact h.stream e he
    · rw [List.mem_singleton.mp he]; exact hs
  drain_fits j hj := by
    show drain j (s.view j) (s.down ++ _) = _
    rw [drain_append, h.drain_fits j hj, hsrv]
    split
    · subst_vars
      rw [hl, Option.some_bind, drain_cons_self hm, if_pos hfit]
      rfl
    · have : m.streamId? ≠ some j := by rw [hm]; simpa using Ne.symm ‹_›
      rw [Option.some_bind, drain_cons_ne this]
      rfl
  closing_quiet j hj := by
    obtain ⟨h1, h2, h3, h4⟩ := h.closing_quiet j hj
    have hji : j ≠ id := by rintro rfl; exact Bool.false_ne_true (hc.symm.trans hj)
    refine ⟨fun e he => ?_, h2, by simpa [hsrv, hji] using h3, h4⟩
    rcases List.mem_append.mp he with he | he
    · exact h1 e he
    · rw [List.mem_singleton.mp he, hm]; simpa using Ne.symm hji
  fresh_srv j k hk := by
    rw [hsrv] at hk
    split at hk
    · subst_vars; exact Tag.after_eq_some hk ▸ h.fresh_srv _ _ hl
    · exact h.fresh_srv j k hk
  fresh_owner := h.fresh_owner
  fresh_down e he := by
    rcases List.mem_append.mp he with he | he
    · exact h.fresh_down e he
    · rw [List.mem_singleton.mp he]; exact h.fresh_srv _ _ hl
  nodup := by simpa [openings] using h.nodup
  seen_fit := h.seen_fit
  seen_owned := h.seen_owned
  wire := h.wire

/-- The server receives the oldest message from the client. -/
theorem Inv.serverRecv (h : s.Inv) {m : ForwardingProtocolMessage}
    {up : List ForwardingProtocolMessage} (hu : s.up = m :: up) :
    Inv { s with up := up, srv := srvRecv s.srv m } where
  wf := h.wf
  owner_length := h.owner_length
  stream := h.stream
  drain_fits j hj := by
    by_cases hm : m = .connectionCloseMessage j
    · subst hm
      obtain ⟨h1, h2, -, -⟩ := h.closing_quiet j (by simp [Net.closing, hu])
      show drain j (s.view j) s.down = some ((s.srv.erase j).lookup j)
      rw [drain_of_forall h1, h2, AList.lookup_erase]
    · have hj' : s.closing j = false := by
        simpa [Net.closing, hu, Ne.symm hm] using hj
      show drain j (s.view j) s.down = some ((srvRecv s.srv m).lookup j)
      rw [srvRecv_lookup_ne hm]
      exact h.drain_fits j hj'
  closing_quiet j hj := by
    have hup : .connectionCloseMessage j ∈ up := by simpa [Net.closing] using hj
    have hj' : s.closing j = true := by simp [Net.closing, hu, hup]
    obtain ⟨h1, h2, h3, h4⟩ := h.closing_quiet j hj'
    have hm : m ≠ .connectionCloseMessage j := by
      rintro rfl
      rw [hu, List.count_cons_self] at h4
      have := List.count_pos_iff.mpr hup
      omega
    refine ⟨h1, h2, by rwa [srvRecv_lookup_ne hm], ?_⟩
    rwa [hu, List.count_cons_of_ne (Ne.symm hm)] at h4
  fresh_srv j k hk := h.fresh_srv j k (srvRecv_lookup hk)
  fresh_owner := h.fresh_owner
  fresh_down := h.fresh_down
  nodup := h.nodup
  seen_fit := h.seen_fit
  seen_owned := h.seen_owned
  wire := h.wire

theorem closing_eq (s : Net) (j : UInt64) :
    s.closing j = decide (0 < s.up.count (.connectionCloseMessage j)) := by
  simp [Net.closing, List.count_pos_iff]

/-- **What `process_streams` does to one id, as the system sees it.** The stream is left
    alone and no close of it goes up, or it was open, is removed, and one close of it goes
    up. -/
theorem pump_id (j : UInt64) :
    ((s.pump io).relay.streams.lookup j = s.relay.streams.lookup j ∧
      (s.pump io).up.count (.connectionCloseMessage j) = s.up.count (.connectionCloseMessage j)) ∨
    (j ∈ s.relay.streams ∧ (s.pump io).relay.streams.lookup j = none ∧
      (s.pump io).up.count (.connectionCloseMessage j) =
        s.up.count (.connectionCloseMessage j) + 1) := by
  have hsent := List.prefix_iff_eq_append.mp (@Relay.processStreams_sent io s.relay)
  have hcount : ((Relay.processStreams io s.relay).sent.drop s.relay.sent.length).count
      (.connectionCloseMessage j) = (Relay.processStreams io s.relay).sent.count
        (.connectionCloseMessage j) - s.relay.sent.count (.connectionCloseMessage j) := by
    conv => rhs; rw [← hsent]
    rw [List.count_append]; omega
  simp only [pump, List.count_append, hcount]
  rcases @Relay.processStreams_id io s.relay j with ⟨h1, h2⟩ | ⟨hm, h1, h2⟩
  · exact .inl ⟨h1, by omega⟩
  · exact .inr ⟨hm, h1, by omega⟩

/-- **`process_streams` keeps the invariant, if it closes no stream a message in flight is
    for.** A stream it closes has its close in flight from then on. -/
theorem Inv.clientPump (h : s.Inv) (hx : s.pumpCrossesNothing io = true) : (s.pump io).Inv where
  wf := h.wf.processStreams
  owner_length := by
    show s.owner.length = (Relay.processStreams io s.relay).conns.length
    rw [h.owner_length, (@Relay.processStreams_frame io s.relay).2.1]
  stream := h.stream
  drain_fits j hj := by
    rcases @pump_id io s j with ⟨h1, h2⟩ | ⟨-, -, h2⟩
    · have hv : (s.pump io).view j = s.view j := by simp only [view, h1]; rfl
      rw [hv]
      exact h.drain_fits j (by rwa [closing_eq, ← h2, ← closing_eq])
    · rw [closing_eq, h2] at hj; simp at hj
  closing_quiet j hj := by
    rcases @pump_id io s j with ⟨h1, h2⟩ | ⟨hm, h1, h2⟩
    · have hv : (s.pump io).view j = s.view j := by simp only [view, h1]; rfl
      obtain ⟨g1, g2, g3, g4⟩ := h.closing_quiet j (by rwa [closing_eq, ← h2, ← closing_eq])
      exact ⟨g1, hv ▸ g2, g3, h2.trans g4⟩
    · have hc := h.not_closing (h.view_isSome hm)
      have hq : ∀ e ∈ s.down, e.1.streamId? ≠ some j := by
        intro e he hj'
        have hsame := List.all_eq_true.mp hx e he
        simp only [hj', decide_eq_true_eq] at hsame
        exact AList.lookup_eq_none.mp (hsame.symm.trans h1) hm
      have hd := h.drain_fits j hc
      rw [drain_of_forall hq] at hd
      refine ⟨hq, by simp [view, h1], ?_, ?_⟩
      · show (s.srv.lookup j).isSome = true
        rw [← Option.some.inj hd]; exact h.view_isSome hm
      · rw [closing_eq] at hc; simp at hc; rw [h2, List.count_eq_zero.mpr hc]
  fresh_srv := h.fresh_srv
  fresh_owner := h.fresh_owner
  fresh_down := h.fresh_down
  nodup := h.nodup
  seen_fit := h.seen_fit
  seen_owned := h.seen_owned
  wire c k n hk := h.wire c k n (by rwa [← (@Relay.processStreams_frame io s.relay).2.1])

end Steps

/-! ## 3. The client's reads -/

section Handle

variable {io : Io} {a : SocketAddr} {s s' : Net} {m : ForwardingProtocolMessage} {t : Tag}
  {down : List (ForwardingProtocolMessage × Tag)} {b : Bool}

theorem handle_ok (h : s.handle io a m t = .ok (s', b)) :
    ∃ r, Relay.processItem io a (s.relay.record io (.handled m)) m = .ok (r, b) ∧
      s' = { s with relay := r,
                    owner := s.owner ++ (r.conns.drop s.relay.conns.length).map fun _ => t.inst,
                    seen := s.seen ++ [(m, t, s.fits m t)] } := by
  unfold handle at h
  split at h
  · cases h
  · cases h; exact ⟨_, ‹_›, rfl⟩

theorem view_mem {j : UInt64} {n : Nat} (h : s.view j = some n) : n ∈ s.owner := by
  obtain ⟨c, -, hc⟩ := Option.bind_eq_some.mp h
  exact List.mem_iff_getElem?.mpr ⟨c, hc⟩

/-- A fitting stream message: either the client already has its stream open, or the message
    opens it. -/
theorem Tag.fits_or {v : Option Nat} (hs : m.isStream = true) (h : t.fits m v = true) :
    v = some t.inst ∨ t.after m = some t.inst := by
  cases m with
  | connectionDataMessage => exact .inr rfl
  | connectionCloseMessage => exact .inl (by simpa [Tag.fits] using h)
  | _ => simp [ForwardingProtocolMessage.isStream] at hs

theorem Tag.first_of_fits_none {t : Tag} {id : UInt64} {p : List UInt8}
    (h : t.fits (.connectionDataMessage id p) none = true) : t.first = true := by
  cases ht : t.first <;> simp_all [Tag.fits]

theorem Tag.inst_of_fits_some {t : Tag} {id : UInt64} {p : List UInt8} {n : Nat}
    (h : t.fits (.connectionDataMessage id p) (some n) = true) : t.first = false ∧ n = t.inst := by
  cases ht : t.first <;> simp_all [Tag.fits]

/-- **What the invariant says about the next message.** It is a data or close message, no
    close of its id is in flight the other way, it fits the client's view, and what follows it
    for that id still ends at the server's view. -/
theorem Inv.head (h : s.Inv) (hd : s.down = (m, t) :: down) :
    ∃ id, m.streamId? = some id ∧ s.closing id = false ∧ t.fits m (s.view id) = true ∧
      drain id (t.after m) down = some (s.srv.lookup id) := by
  have hmem : (m, t) ∈ s.down := hd ▸ .head _
  obtain ⟨id, hid⟩ : ∃ id, m.streamId? = some id := by
    have := h.stream _ hmem
    cases m <;> simp_all [ForwardingProtocolMessage.isStream, ForwardingProtocolMessage.streamId?]
  have hc : s.closing id = false := by
    by_contra hc
    exact (h.closing_quiet id (by simpa using hc)).1 _ hmem hid
  have hdr := h.drain_fits id hc
  rw [hd, drain_cons_self hid] at hdr
  split at hdr
  · exact ⟨id, hid, hc, ‹_›, hdr⟩
  · cases hdr

/-- The views after handling a fitting message: its own id's is the one the server meant,
    every other id's is unchanged. -/
theorem view_handle (h : s.Inv) {id : UInt64} (hid : m.streamId? = some id)
    (hfit : t.fits m (s.view id) = true) {r : Relay}
    (hr : Relay.processItem io a (s.relay.record io (.handled m)) m = .ok (r, b)) (j : UInt64) :
    ((r.streams.lookup j).bind fun c =>
        (s.owner ++ (r.conns.drop s.relay.conns.length).map fun _ => t.inst)[c]?) =
      if j = id then t.after m else s.view j := by
  have hlen := h.owner_length
  rcases Relay.processItem_cases hr with
    ⟨i, c, rfl, hl, -, rfl⟩ | ⟨i, p, c, rfl, hl, -, rfl⟩ | ⟨i, p, rfl, hl, -, rfl⟩ | ⟨rfl, -, -⟩
  · cases hid
    split
    · subst_vars; simp [Tag.after]
    · simp [AList.lookup_erase_ne ‹_›, view]
  · cases hid
    split
    · subst_vars
      simp only [Relay.record_streams] at hl
      have hv : (s.view j).isSome := by simp [view, hl, hlen ▸ h.wf j c hl]
      obtain ⟨n, hn⟩ := Option.isSome_iff_exists.mp hv
      have hv' : s.view j = some t.inst := (Tag.inst_of_fits_some (hn ▸ hfit)).2 ▸ hn
      simpa [view, Tag.after] using hv'
    · simp [view]
  · cases hid
    simp only [Relay.record_streams, Relay.record_conns, List.drop_left, List.map_cons,
      List.map_nil] at hl ⊢
    split
    · subst_vars; simp [Tag.after, hlen]
    · rw [AList.lookup_insert_ne ‹_›]
      simp only [view]
      cases hj : s.relay.streams.lookup j with
      | none => rfl
      | some c =>
        simp [List.getElem?_append_left (hlen ▸ h.wf j c hj : c < s.owner.length)]
  · simp [ForwardingProtocolMessage.streamId?] at hid

/-- **Handling one message, assembled.** Given the views, the ghost owners and the wire
    after a fitting message, the invariant holds again. -/
theorem Inv.of_handle (h : s.Inv) (hd : s.down = (m, t) :: down) {id : UInt64}
    (hid : m.streamId? = some id) (hc : s.closing id = false) (hfit : t.fits m (s.view id) = true)
    (hdrain : drain id (t.after m) down = some (s.srv.lookup id))
    {r : Relay} {owner : List Nat} (hwf : r.Wf) (hlen : owner.length = r.conns.length)
    (hown : owner = s.owner ∨ (t.first = true ∧ owner = s.owner ++ [t.inst]))
    (hview : ∀ j, ((r.streams.lookup j).bind fun c => owner[c]?) =
      if j = id then t.after m else s.view j)
    (hwire : ∀ (c : Nat) (k : AntennaConn) (n : Nat), r.conns[c]? = some k → owner[c]? = some n →
      k.written = payloads n s.seen ++ t.payload n m) :
    Inv { s with down := down, relay := r, owner := owner, seen := s.seen ++ [(m, t, true)] } where
  wf := hwf
  owner_length := hlen
  stream e he := h.stream e (by rw [hd]; exact List.mem_cons_of_mem _ he)
  drain_fits j hj := by
    show drain j ((r.streams.lookup j).bind fun c => owner[c]?) down = _
    rw [hview]
    split
    · subst_vars; exact hdrain
    · have := h.drain_fits j hj
      rwa [hd, drain_cons_ne (by rw [hid]; simpa using Ne.symm ‹_›)] at this
  closing_quiet j hj := by
    obtain ⟨h1, h2, h3, h4⟩ := h.closing_quiet j hj
    have hji : j ≠ id := by rintro rfl; exact Bool.false_ne_true (hc.symm.trans hj)
    refine ⟨fun e he => h1 e (by rw [hd]; exact List.mem_cons_of_mem _ he), ?_, h3, h4⟩
    show ((r.streams.lookup j).bind fun c => owner[c]?) = none
    rw [hview, if_neg hji, h2]
  fresh_srv := h.fresh_srv
  fresh_owner n hn := by
    have ht : t.inst < s.fresh := h.fresh_down _ (by rw [hd]; exact List.mem_cons_self _ _)
    rcases hown with rfl | ⟨-, rfl⟩
    · exact h.fresh_owner n hn
    · rcases List.mem_append.mp hn with hn | hn
      · exact h.fresh_owner n hn
      · rw [List.mem_singleton.mp hn]; exact ht
  fresh_down e he := h.fresh_down e (by rw [hd]; exact List.mem_cons_of_mem _ he)
  nodup := by
    have hnd := h.nodup
    rw [hd, openings_cons, List.append_assoc] at hnd
    rcases hown with rfl | ⟨hf, rfl⟩
    · exact (List.nodup_append.mp hnd).2.1
    · rw [hf, if_pos rfl, List.singleton_append] at hnd
      show (openings down ++ (s.owner ++ [t.inst])).Nodup
      rw [← List.append_assoc]
      exact (List.perm_append_singleton _ _).nodup_iff.mpr hnd
  seen_fit e he := by
    rcases List.mem_append.mp he with he | he
    · exact h.seen_fit e he
    · rw [List.mem_singleton.mp he]
  seen_owned e he := by
    have hsub : s.owner ⊆ owner := by
      rcases hown with rfl | ⟨-, rfl⟩
      · exact List.Subset.refl _
      · exact List.subset_append_left _ _
    rcases List.mem_append.mp he with he | he
    · exact hsub (h.seen_owned e he)
    · rw [List.mem_singleton.mp he]
      have hs := h.stream _ (by rw [hd]; exact List.mem_cons_self _ _)
      rcases Tag.fits_or hs hfit with hv | ha
      · exact hsub (view_mem hv)
      · have := hview id
        rw [if_pos rfl, ha] at this
        obtain ⟨c, -, hc⟩ := Option.bind_eq_some.mp this
        exact List.mem_iff_getElem?.mpr ⟨c, hc⟩
  wire := by
    intro c k n hk hn
    rw [payloads_concat]
    exact hwire c k n hk hn

theorem Inv.owner_nodup (h : s.Inv) : s.owner.Nodup := h.nodup.of_append_right

/-- Two connections serve two different server-side streams. -/
theorem Inv.owner_ne (h : s.Inv) {c c' n n' : Nat} (hn : s.owner[c]? = some n)
    (hn' : s.owner[c']? = some n') (hne : c ≠ c') : n ≠ n' := by
  rintro rfl
  have hlt : c < s.owner.length := (List.getElem?_eq_some_iff.mp hn).1
  exact hne (List.getElem?_inj hlt h.owner_nodup (hn.trans hn'.symm))

theorem drop_length_modify {α : Type} (f : α → α) (c : Nat) (l : List α) :
    (l.modify f c).drop l.length = [] :=
  List.drop_eq_nil_of_le (by simp)

/-- A modification that keeps what was written keeps what was written. -/
theorem written_modify {f : AntennaConn → AntennaConn} (hf : ∀ k, (f k).written = k.written)
    {l : List AntennaConn} {c c' : Nat} {k : AntennaConn} (hk : (l.modify f c)[c']? = some k) :
    ∃ k₀, l[c']? = some k₀ ∧ k.written = k₀.written := by
  rw [List.getElem?_modify] at hk
  cases h : l[c']? with
  | none => simp [h] at hk
  | some k₀ =>
    simp only [h, Option.map_eq_map, Option.map_some', Option.some.injEq] at hk
    subst hk
    exact ⟨k₀, rfl, by split <;> simp [hf]⟩

/-- **Handling the next message keeps the invariant**, and does not stop the batch. -/
theorem Inv.handle (h : s.Inv) (hd : s.down = (m, t) :: down)
    (hs : Net.handle io a { s with down := down } m t = .ok (s', b)) : s'.Inv ∧ b = false := by
  obtain ⟨id, hid, hc, hfit, hdrain⟩ := h.head hd
  obtain ⟨r, hr, rfl⟩ := handle_ok hs
  change Relay.processItem io a (s.relay.record io (.handled m)) m = .ok (r, b) at hr
  have hfits : Net.fits { s with down := down } m t = true := by
    simpa [Net.fits, hid, view] using hfit
  have hb : b = false := by
    cases hb : b
    · rfl
    · have := (Relay.processItem_stop hr).mp hb; subst this; simp [ForwardingProtocolMessage.streamId?] at hid
  refine ⟨?_, hb⟩
  rw [hfits]
  have hview := view_handle h hid hfit hr
  have hwf : r.Wf := (h.wf.record _).processItem hr
  have hlen := h.owner_length
  rcases Relay.processItem_cases hr with
    ⟨i, c, rfl, hl, -, rfl⟩ | ⟨i, p, c, rfl, hl, -, rfl⟩ | ⟨i, p, rfl, hl, -, rfl⟩ | ⟨rfl, -, -⟩
  · -- a close: the connection is shut down, nothing is written
    simp only [Relay.record_conns, drop_length_modify, List.map_nil, List.append_nil] at hview ⊢
    refine Inv.of_handle h hd hid hc hfit hdrain hwf (by simp [hlen]) (.inl rfl) hview ?_
    intro c' k n hk hn
    obtain ⟨k₀, hk₀, hw⟩ := written_modify (by intro; rfl) hk
    simpa [Tag.payload, hw] using h.wire c' k₀ n hk₀ hn
  · -- data for an open stream: written to that stream's connection
    cases hid
    simp only [Relay.record_streams] at hl
    simp only [Relay.record_conns, drop_length_modify, List.map_nil, List.append_nil] at hview ⊢
    have hoc : s.owner[c]? = some t.inst := by simpa [hl, Tag.after] using hview id
    refine Inv.of_handle h hd rfl hc hfit hdrain hwf (by simp [hlen]) (.inl rfl) hview ?_
    intro c' k n hk hn
    rw [List.getElem?_modify] at hk
    cases hk₀ : s.relay.conns[c']? with
    | none => simp [hk₀] at hk
    | some k₀ =>
      simp only [hk₀, Option.map_eq_map, Option.map_some', Option.some.injEq] at hk
      subst hk
      have hw := h.wire c' k₀ n hk₀ hn
      by_cases hcc : c = c'
      · subst hcc
        have : n = t.inst := Option.some.inj (hn.symm.trans hoc)
        subst this
        simp [Tag.payload, hw]
      · have hne : t.inst ≠ n := h.owner_ne hoc hn hcc
        simp [Tag.payload, hw, hcc, hne]
  · -- data for a stream the map does not hold: a fresh connection, for a fresh stream
    cases hid
    simp only [Relay.record_streams] at hl
    have hv : s.view id = none := by simp [view, hl]
    have hf : t.first = true := Tag.first_of_fits_none (hv ▸ hfit)
    have hfresh : t.inst ∉ s.owner := by
      have hnd := h.nodup
      rw [hd, openings_cons, hf, if_pos rfl, List.append_assoc, List.singleton_append] at hnd
      exact fun hm => (List.nodup_cons.mp hnd).1 (List.mem_append_right _ hm)
    simp only [Relay.record_conns, List.drop_left, List.map_cons, List.map_nil] at hview ⊢
    refine Inv.of_handle h hd rfl hc hfit hdrain hwf ?_ ?_ hview ?_
    · simp [hlen]
    · exact .inr ⟨hf, rfl⟩
    intro c' k n hk hn
    rcases Nat.lt_trichotomy c' s.relay.conns.length with hlt | rfl | hgt
    · rw [List.getElem?_append_left hlt] at hk
      rw [List.getElem?_append_left (hlen ▸ hlt)] at hn
      have hne : t.inst ≠ n := fun e => hfresh (e ▸ List.mem_iff_getElem?.mpr ⟨c', hn⟩)
      simpa [Tag.payload, hne] using h.wire c' k n hk hn
    · rw [List.getElem?_concat_length] at hk
      rw [← hlen, List.getElem?_concat_length] at hn
      cases hk; cases hn
      rw [payloads_eq_nil fun e he hn => hfresh (by rw [← hn]; exact h.seen_owned e he)]
      simp [Tag.payload]
    · rw [List.getElem?_eq_none (by simpa using hgt)] at hk
      cases hk
  · simp [ForwardingProtocolMessage.streamId?] at hid

/-- The next message never panics on a close. -/
theorem Inv.handle_ne_closePanic (h : s.Inv) (hd : s.down = (m, t) :: down) :
    Net.handle io a { s with down := down } m t ≠
      .error (.expect "How can we close a stream we don't have?") := by
  obtain ⟨id, hid, -, hfit, -⟩ := h.head hd
  intro he
  unfold Net.handle at he
  split at he
  · cases he
    obtain ⟨i, rfl, hl⟩ := Relay.processItem_eq_closePanic ‹_›
    cases hid
    simp only [Relay.record_streams] at hl
    simp [Tag.fits, view, hl] at hfit
  · cases he

/-- **A whole read keeps the invariant.** -/
theorem Inv.handleN (h : s.Inv) :
    ∀ {k : Nat} {s' : Net}, Net.handleN io a k s = .ok (s', b) → s'.Inv ∧ b = false := by
  intro k
  induction k generalizing s with
  | zero => intro s' hk; cases hk; exact ⟨h, rfl⟩
  | succ k ih =>
    intro s' hk
    unfold Net.handleN at hk
    split at hk
    · cases hk; exact ⟨h, rfl⟩
    · rename_i m t down hd
      simp only [bind, Except.bind] at hk
      split at hk
      · cases hk
      · rename_i x hx
        obtain ⟨h₁, hb₁⟩ := h.handle hd hx
        rw [hb₁] at hk
        exact ih h₁ hk

/-- **No read panics on a close.** -/
theorem Inv.handleN_ne_closePanic (h : s.Inv) (k : Nat) :
    Net.handleN io a k s ≠ .error (.expect "How can we close a stream we don't have?") := by
  induction k generalizing s with
  | zero => nofun
  | succ k ih =>
    unfold Net.handleN
    split
    · nofun
    · rename_i m t down hd
      simp only [bind, Except.bind]
      split
      · rename_i p hp
        intro he; cases he
        exact h.handle_ne_closePanic hd hp
      · rename_i x hx
        obtain ⟨h₁, hb₁⟩ := h.handle hd hx
        rw [hb₁]
        exact ih h₁

/-- **A read is `process_messages`.** On the relay, handling the first `k` messages in
    flight is `process_messages` on them; everything else `handleN` does is ghost or channel
    bookkeeping. -/
theorem handleN_relay (k : Nat) (s : Net) :
    (Net.handleN io a k s).map (fun x => (x.1.relay, x.2)) =
      Relay.processMessages io a ((s.down.take k).map Prod.fst) s.relay := by
  induction k generalizing s with
  | zero => rfl
  | succ k ih =>
    cases hd : s.down with
    | nil => simp [Net.handleN, hd]; rfl
    | cons e down =>
      obtain ⟨m, t⟩ := e
      simp only [Net.handleN, hd, List.take_succ_cons, List.map_cons, Relay.processMessages,
        Net.handle, bind, Except.bind]
      cases hp : Relay.processItem io a (s.relay.record io (.handled m)) m with
      | error p => rfl
      | ok x =>
        obtain ⟨r, stop⟩ := x
        cases stop
        · exact ih _
        · rfl

end Handle

/-! ## 4. Runs -/

section Runs

variable {io : Io} {a : SocketAddr} {s s' : Net}

/-- **Every step of a run without crossings keeps the invariant.** -/
theorem Inv.step (h : s.Inv) {act : Action} (hs : Net.step io a true s act = some s') : s'.Inv := by
  cases act with
  | serverOpen id p =>
    simp only [Net.step] at hs
    split at hs
    · cases hs; exact h.serverOpen ‹_›
    · cases hs
  | serverData id p =>
    simp only [Net.step] at hs
    split at hs
    · rename_i n hl
      split at hs
      · cases hs
      · rename_i hc
        cases hs
        refine h.serverSend (by rfl) (by rfl) hl (by simp [Tag.fits]) (by simpa using hc) fun j => ?_
        split
        · subst_vars; simp [hl, Tag.after]
        · rfl
    · cases hs
  | serverClose id =>
    simp only [Net.step] at hs
    split at hs
    · rename_i n hl
      split at hs
      · cases hs
      · rename_i hc
        cases hs
        refine h.serverSend (by rfl) (by rfl) hl (by simp [Tag.fits]) (by simpa using hc) fun j => ?_
        split
        · subst_vars; simp [Tag.after]
        · exact AList.lookup_erase_ne ‹_›
    · cases hs
  | serverRecv =>
    simp only [Net.step] at hs
    split at hs
    · cases hs
    · cases hs; exact h.serverRecv ‹_›
  | clientRecv k =>
    simp only [Net.step] at hs
    split at hs
    · split at hs
      · cases hs; exact (h.handleN ‹_›).1
      · cases hs
    · cases hs
  | clientPump =>
    simp only [Net.step] at hs
    split at hs
    · cases hs
    · rename_i hx
      cases hs; exact h.clientPump (by simpa using hx)

/-- **Every run without crossings keeps the invariant.** -/
theorem Inv.run (h : s.Inv) {acts : List Action} (hr : Net.run io a true acts s = some s') :
    s'.Inv := by
  induction acts generalizing s with
  | nil => cases hr; exact h
  | cons act acts ih =>
    obtain ⟨s₁, h₁, hr⟩ := Option.bind_eq_some.mp hr
    exact ih (h.step h₁) hr

end Runs

end Net

/-- The two sides agree in one state of the system. -/
structure Agreement (io : Io) (a : SocketAddr) (s : Net) : Prop where
  /-- Every message the client handled found its stream as the server meant: nothing open
      under the id for a stream's first message, the connection dialled for that stream for
      every later data or close message. -/
  fits : ∀ e ∈ s.seen, e.2.2 = true
  /-- No server-side stream has two antenna connections. -/
  one_conn : s.owner.Nodup
  /-- Each antenna connection carries exactly the payloads of its server-side stream that the
      client has handled, in order. -/
  wire : ∀ (c : Nat) (k : AntennaConn) (n : Nat), s.relay.conns[c]? = some k →
    s.owner[c]? = some n → k.written = payloads n s.seen
  /-- No read can make the client panic on a close: every close it handles finds its id in
      the stream map. -/
  no_close_panic : ∀ k, Net.handleN io a k s ≠
    .error (.expect "How can we close a stream we don't have?")

/-- **Without crossings, the relay and the server agree under every interleaving.** For
    every world and every run in which `process_streams` closes no stream a server message is
    in flight for, and the server sends nothing for an id whose close from the client is in
    flight, every state is in agreement. -/
theorem relay_streams_agree {io : Io} {a : SocketAddr} {acts : List Action} {s : Net}
    (h : Net.run io a true acts (Net.init io) = some s) : Agreement io a s :=
  have hi := Net.Inv.init.run h
  ⟨hi.seen_fit, hi.owner_nodup, hi.wire, hi.handleN_ne_closePanic⟩

/-- The antenna closes stream 1 with nothing in flight for it; the server learns of it and
    opens stream 1 again, which gets a fresh connection. -/
theorem relay_streams_agree_reopen :
    let io : Io := ⟨fun n => n, fun _ => true, fun _ c => if c = 0 then .closed else .idle⟩
    let a : SocketAddr := ⟨.v4 ⟨10, 0, 0, 5⟩, 80⟩
    ∃ s, Net.run io a true [.serverOpen 1 [97], .clientRecv 1, .clientPump, .serverRecv,
        .serverOpen 1 [98], .clientRecv 1] (Net.init io) = some s ∧ Agreement io a s :=
  by
    refine ⟨?s, ?h, relay_streams_agree ?h⟩
    case h => exact rfl


/-- **The server's own discipline does not keep the sides in agreement.** With the
    antenna closing whatever is polled: the server's second payload for stream 1 crosses
    the client's close of it and lands on a fresh connection, and a server close that
    crosses it panics the client. -/
theorem relay_streams_race :
    let io : Io := ⟨fun n => n, fun _ => true, fun _ _ => .closed⟩
    let a : SocketAddr := ⟨.v4 ⟨10, 0, 0, 5⟩, 80⟩
    (∃ s, Net.run io a false [.serverOpen 1 [97], .clientRecv 1, .serverData 1 [98],
        .clientPump, .clientRecv 1] (Net.init io) = some s ∧
      s.relay.conns.map AntennaConn.written = [[97], [98]] ∧ s.owner = [0, 0] ∧
      s.seen.map (fun e => e.2.2) = [true, false]) ∧
    (∃ s, Net.run io a false [.serverOpen 1 [97], .clientRecv 1, .serverClose 1, .clientPump]
        (Net.init io) = some s ∧
      Net.handleN io a 1 s = .error (.expect "How can we close a stream we don't have?")) :=
  ⟨⟨_, rfl, rfl, rfl, rfl⟩, ⟨_, rfl, rfl⟩⟩

end Forwarding
end Rita
