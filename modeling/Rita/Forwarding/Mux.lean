import Rita.Forwarding.Session

/-!
# `Rita/Forwarding/Mux.lean` — what the relay multiplexes, and that it does

The relay's job, stated without the relay: given the history of data and close messages
the server has sent,

* a stream is open exactly when its most recent data or close message is a data message
  (`lastIsData`);
* a data message for a stream that is not open dials a new antenna connection, and that
  connection carries every payload of that stream from there up to the close that ends it
  (`dialsAfter`, `segment`).

Nothing here mentions a map or a connection number. The theorem of the file,
`forward_connections_mux`, says every session of `forward_connections` meets this contract
— after the first batch and any number of read batches, with `process_streams` pumping in
between, up to a shutdown in a read batch if there is one (`SessionEnd`) — as long as no
socket operation fails, the antenna closes nothing, and every close names an open stream; and
that such a session never panics.

The proof goes through one layer in between. `Mux` is the part of the relay the contract
is about (the stream map, and each connection as the antenna sees it); `Mux.step` is what
one message does to it. The relay refines `Mux.step` message by message (`Relay.mux_step`),
and the history contract is a theorem about `Mux.step` alone (`Mux.wire_foldl`). That one is
a forward induction over the messages still to come, which has to say what happens to the
connections that are already open: each gets the payloads of its stream up to its stream's
next close. `σ` names the stream each open connection serves.
-/

set_option autoImplicit false

namespace Rita
namespace Forwarding

/-! ## 1. The contract, over the history of messages -/

/-- Whether stream `id` is open after `m`, if `b` says whether it was open before. -/
def openAfter (id : UInt64) (b : Bool) : ForwardingProtocolMessage → Bool
  | .connectionDataMessage j _ => if j = id then true else b
  | .connectionCloseMessage j => if j = id then false else b
  | _ => b

/-- Whether the most recent data or close message for `id` in `ms` is a data message. -/
def lastIsData (id : UInt64) (ms : List ForwardingProtocolMessage) : Bool :=
  ms.foldl (openAfter id) false

/-- The payloads for `id` in `ms`, in order, up to the first close of `id`. -/
def segment (id : UInt64) : List ForwardingProtocolMessage → List UInt8
  | [] => []
  | .connectionDataMessage j p :: ms => if j = id then p ++ segment id ms else segment id ms
  | .connectionCloseMessage j :: ms => if j = id then [] else segment id ms
  | _ :: ms => segment id ms

/-- The connections that handling `ms` dials once `pre` has been handled, in order: one for
    each data message whose stream is not open at that point, with its stream id and every
    payload of that stream from that message up to the close that ends it. -/
def dialsAfter (pre : List ForwardingProtocolMessage) :
    List ForwardingProtocolMessage → List (UInt64 × List UInt8)
  | [] => []
  | m :: ms =>
    (match m with
      | .connectionDataMessage id p => if lastIsData id pre then [] else [(id, p ++ segment id ms)]
      | _ => []) ++ dialsAfter (pre ++ [m]) ms

/-- Every close in `ms` names a stream that is open at that point. -/
def ClosesOpen (ms : List ForwardingProtocolMessage) : Prop :=
  ∀ pre id post, ms = pre ++ .connectionCloseMessage id :: post → lastIsData id pre = true

/-- Whether `m`, if it is a close, names a stream that `pre` leaves open. -/
def closeIsOpen (pre : List ForwardingProtocolMessage) : ForwardingProtocolMessage → Bool
  | .connectionCloseMessage id => lastIsData id pre
  | _ => true

/-- `ClosesOpen`, computed: whether every close in `ms` names a stream open at that point,
    once `pre` has been handled. -/
def closesOpenAfter (pre : List ForwardingProtocolMessage) :
    List ForwardingProtocolMessage → Bool
  | [] => true
  | m :: ms => closeIsOpen pre m && closesOpenAfter (pre ++ [m]) ms

@[simp] theorem lastIsData_nil (id : UInt64) : lastIsData id [] = false := rfl

@[simp] theorem lastIsData_concat (id : UInt64) (pre : List ForwardingProtocolMessage)
    (m : ForwardingProtocolMessage) :
    lastIsData id (pre ++ [m]) = openAfter id (lastIsData id pre) m := by
  simp [lastIsData]

theorem closesOpenAfter_iff (pre ms : List ForwardingProtocolMessage) :
    closesOpenAfter pre ms = true ↔
      ∀ l id post, ms = l ++ .connectionCloseMessage id :: post →
        lastIsData id (pre ++ l) = true := by
  induction ms generalizing pre with
  | nil => simp [closesOpenAfter]
  | cons m ms ih =>
    rw [closesOpenAfter, Bool.and_eq_true, ih]
    constructor
    · rintro ⟨hm, hr⟩ l id post h
      cases l with
      | nil =>
        obtain ⟨rfl, rfl⟩ := List.cons.inj h
        simpa [closeIsOpen] using hm
      | cons x l =>
        obtain ⟨rfl, e⟩ := List.cons.inj h
        simpa using hr l id post e
    · intro h
      refine ⟨?_, fun l id post e => by simpa using h (m :: l) id post (by rw [e]; rfl)⟩
      cases m with
      | connectionCloseMessage id => simpa using h [] id ms rfl
      | _ => rfl

instance (ms : List ForwardingProtocolMessage) : Decidable (ClosesOpen ms) :=
  decidable_of_iff _ (by simpa using closesOpenAfter_iff [] ms)

theorem closesOpen_iff (ms : List ForwardingProtocolMessage) :
    ClosesOpen ms ↔ closesOpenAfter [] ms = true := by
  simpa using (closesOpenAfter_iff [] ms).symm

theorem closesOpenAfter_append (pre xs ys : List ForwardingProtocolMessage) :
    closesOpenAfter pre (xs ++ ys) = (closesOpenAfter pre xs && closesOpenAfter (pre ++ xs) ys) := by
  induction xs generalizing pre with
  | nil => simp [closesOpenAfter]
  | cons m xs ih => simp [closesOpenAfter, ih, Bool.and_assoc]

section Segment

variable {id j : UInt64} {p : List UInt8} {ms : List ForwardingProtocolMessage}

@[simp] theorem segment_data_self : segment id (.connectionDataMessage id p :: ms) = p ++ segment id ms := by
  simp [segment]

@[simp] theorem segment_close_self : segment id (.connectionCloseMessage id :: ms) = [] := by
  simp [segment]

/-- A message that is not for `id` is not part of its segment. -/
theorem segment_cons_of_ne {m : ForwardingProtocolMessage}
    (hd : ∀ p, m ≠ .connectionDataMessage id p) (hc : m ≠ .connectionCloseMessage id) :
    segment id (m :: ms) = segment id ms := by
  cases m with
  | connectionDataMessage j q =>
    have : j ≠ id := fun h => hd q (by rw [h])
    simp [segment, this]
  | connectionCloseMessage j =>
    have : j ≠ id := fun h => hc (by rw [h])
    simp [segment, this]
  | _ => rfl

end Segment

/-! ## 2. The multiplexer, abstractly -/

/-- The part of the relay the multiplexing is about: the stream map, and each antenna
    connection dialled so far as the antenna sees it — where it goes and what was written
    to it. -/
structure Mux where
  streams : AList (fun _ : UInt64 => Nat)
  wire : List (SocketAddr × List UInt8)

/-- The multiplexer of a relay. -/
def Relay.mux (r : Relay) : Mux := ⟨r.streams, r.conns.map fun c => (c.addr, c.written)⟩

/-- What one message does to the multiplexer when `process_messages` gets through it. -/
def Mux.step (a : SocketAddr) (x : Mux) : ForwardingProtocolMessage → Mux
  | .connectionDataMessage id p =>
    match x.streams.lookup id with
    | some c => ⟨x.streams, x.wire.modify (fun w => (w.1, w.2 ++ p)) c⟩
    | none => ⟨x.streams.insert id x.wire.length, x.wire ++ [(a, p)]⟩
  | .connectionCloseMessage id => ⟨x.streams.erase id, x.wire⟩
  | _ => x

/-- The multiplexer of a fresh session. -/
def Mux.empty : Mux := ⟨∅, []⟩

/-! ### Open streams -/

/-- A step opens and closes streams as the history says. -/
theorem Mux.mem_step {a : SocketAddr} {x : Mux} {pre : List ForwardingProtocolMessage}
    (hx : ∀ id, id ∈ x.streams ↔ lastIsData id pre = true) (m : ForwardingProtocolMessage) :
    ∀ id, id ∈ (x.step a m).streams ↔ lastIsData id (pre ++ [m]) = true := by
  intro id
  rw [lastIsData_concat]
  cases m with
  | connectionDataMessage j p =>
    cases hl : x.streams.lookup j with
    | some c =>
      simp only [Mux.step, hl, openAfter]
      split
      · subst_vars; simpa using AList.lookup_isSome.mp (by simp [hl])
      · exact hx id
    | none =>
      simp only [Mux.step, hl, openAfter, AList.mem_insert]
      split
      · simp [*]
      · have hne : id ≠ j := fun h => ‹¬j = id› h.symm
        simp [hne, hx]
  | connectionCloseMessage j =>
    simp only [Mux.step, openAfter, AList.mem_erase]
    split
    · simp [*]
    · have hne : id ≠ j := fun h => ‹¬j = id› h.symm
      simp [hne, hx]
  | _ => exact hx id

theorem Mux.mem_foldl {a : SocketAddr} :
    ∀ (ms : List ForwardingProtocolMessage) (x : Mux) (pre : List ForwardingProtocolMessage),
      (∀ id, id ∈ x.streams ↔ lastIsData id pre = true) →
      ∀ id, id ∈ (ms.foldl (Mux.step a) x).streams ↔ lastIsData id (pre ++ ms) = true := by
  intro ms
  induction ms with
  | nil => intro x pre hx; simpa using hx
  | cons m ms ih =>
    intro x pre hx
    simpa using ih _ _ (Mux.mem_step hx m)

/-! ### Connections

`σ c` is the stream connection `c` serves, if it is open: the inverse of the stream map. -/

/-- `σ` inverts the stream map, and every stream's connection was dialled. -/
def Mux.Owned (x : Mux) (σ : Nat → Option UInt64) : Prop :=
  (∀ id c, x.streams.lookup id = some c ↔ σ c = some id) ∧
    ∀ id c, x.streams.lookup id = some c → c < x.wire.length

/-- The stream each connection serves after a step. -/
def Mux.stepOwner (x : Mux) (σ : Nat → Option UInt64) :
    ForwardingProtocolMessage → Nat → Option UInt64
  | .connectionDataMessage id _ =>
    if id ∈ x.streams then σ else Function.update σ x.wire.length (some id)
  | .connectionCloseMessage id => fun c => if σ c = some id then none else σ c
  | _ => σ

theorem Mux.Owned.step {a : SocketAddr} {x : Mux} {σ : Nat → Option UInt64} (h : x.Owned σ)
    (m : ForwardingProtocolMessage) : (x.step a m).Owned (x.stepOwner σ m) := by
  obtain ⟨hσ, hlt⟩ := h
  cases m with
  | connectionDataMessage id p =>
    cases hl : x.streams.lookup id with
    | some c =>
      have hmem : id ∈ x.streams := AList.lookup_isSome.mp (by simp [hl])
      simp only [Mux.step, Mux.stepOwner, hl, hmem, if_true]
      exact ⟨hσ, fun j k hk => by simpa using hlt j k hk⟩
    | none =>
      have hmem : id ∉ x.streams := AList.lookup_eq_none.mp hl
      simp only [Mux.step, Mux.stepOwner, hl, hmem, if_false]
      refine ⟨fun j k => ?_, fun j k hk => ?_⟩
      · by_cases hj : j = id
        · subst hj
          rw [AList.lookup_insert]
          by_cases hk : k = x.wire.length
          · subst hk; simp
          · rw [Function.update_noteq hk, ← hσ, hl]; simp [Ne.symm hk]
        · rw [AList.lookup_insert_ne hj, hσ]
          by_cases hk : k = x.wire.length
          · subst hk
            simp only [Function.update_same, Option.some.injEq]
            constructor
            · intro h'; exact absurd (hlt j _ ((hσ j _).mpr h')) (lt_irrefl _)
            · intro h'; exact absurd h'.symm hj
          · rw [Function.update_noteq hk]
      · by_cases hj : j = id
        · subst hj; rw [AList.lookup_insert] at hk; cases hk; simp
        · rw [AList.lookup_insert_ne hj] at hk; simpa using Nat.lt_succ_of_lt (hlt j k hk)
  | connectionCloseMessage id =>
    simp only [Mux.step, Mux.stepOwner]
    refine ⟨fun j k => ?_, fun j k hk => ?_⟩
    · by_cases hj : j = id
      · subst hj; simp only [AList.lookup_erase]; split <;> simp_all
      · rw [AList.lookup_erase_ne hj, hσ]
        show _ ↔ (if σ k = some id then none else σ k) = some j
        split
        · rename_i h'; simp only [h', Option.some.injEq]; exact ⟨fun e => absurd e.symm hj, nofun⟩
        · rfl
    · by_cases hj : j = id
      · subst hj; simp [AList.lookup_erase] at hk
      · rw [AList.lookup_erase_ne hj] at hk; exact hlt j k hk
  | _ => exact ⟨hσ, hlt⟩

/-- What the messages still to come add to connection `c`: the rest of the segment of the
    stream it serves, if it serves an open one. -/
def Mux.grow (σ : Nat → Option UInt64) (ms : List ForwardingProtocolMessage) (c : Nat)
    (w : SocketAddr × List UInt8) : SocketAddr × List UInt8 :=
  (w.1, w.2 ++ match σ c with | some id => segment id ms | none => [])

/-- A message that is not for connection `c`'s stream adds nothing to `c`. -/
theorem Mux.grow_cons {σ : Nat → Option UInt64} {m : ForwardingProtocolMessage}
    {ms : List ForwardingProtocolMessage} {c : Nat}
    (h : ∀ j, σ c = some j → segment j (m :: ms) = segment j ms) (w : SocketAddr × List UInt8) :
    Mux.grow σ (m :: ms) c w = Mux.grow σ ms c w := by
  unfold Mux.grow
  cases hc : σ c with
  | none => rfl
  | some j => simp [h j hc]

/-- **One step of the forward induction.** What the relay owes the antenna after `m :: ms`,
    seen from before `m`, is what it owes after `ms`, seen from after `m`. -/
theorem Mux.wire_step {a : SocketAddr} {x : Mux} {σ : Nat → Option UInt64}
    {pre : List ForwardingProtocolMessage} (h : x.Owned σ)
    (hx : ∀ id, id ∈ x.streams ↔ lastIsData id pre = true) (m : ForwardingProtocolMessage)
    (ms : List ForwardingProtocolMessage) :
    (x.step a m).wire.mapIdx (Mux.grow (x.stepOwner σ m) ms) ++
        (dialsAfter (pre ++ [m]) ms).map (fun d => (a, d.2)) =
      x.wire.mapIdx (Mux.grow σ (m :: ms)) ++ (dialsAfter pre (m :: ms)).map (fun d => (a, d.2)) := by
  obtain ⟨hσ, hlt⟩ := h
  cases m with
  | connectionDataMessage id p =>
    have hne : ∀ i j, σ i = some j → j ≠ id →
        segment j (.connectionDataMessage id p :: ms) = segment j ms :=
      fun _ j _ hj => segment_cons_of_ne (fun q e => by cases e; exact hj rfl) nofun
    cases hl : x.streams.lookup id with
    | some c =>
      have hmem : id ∈ x.streams := AList.lookup_isSome.mp (by simp [hl])
      have hopen : lastIsData id pre = true := (hx id).mp hmem
      simp only [Mux.step, Mux.stepOwner, hl, hmem, if_true, dialsAfter, hopen, List.nil_append]
      congr 1
      apply List.ext_getElem?
      intro i
      simp only [List.getElem?_mapIdx, List.getElem?_modify]
      cases hw : x.wire[i]? with
      | none => rfl
      | some w =>
        simp only [Option.map_some', Option.map_eq_map, Option.map_some', Option.some.injEq]
        split
        · subst_vars
          simp [Mux.grow, (hσ id i).mp hl]
        · rw [Mux.grow_cons]
          intro j hj
          exact hne i j hj (fun e => by subst e; exact ‹¬c = i› (Option.some.inj (hl.symm.trans ((hσ _ i).mpr hj))))
    | none =>
      have hmem : id ∉ x.streams := AList.lookup_eq_none.mp hl
      have hclosed : lastIsData id pre = false := by
        simpa using mt (hx id).mpr hmem
      simp only [Mux.step, Mux.stepOwner, hl, hmem, if_false, dialsAfter, hclosed,
        List.mapIdx_concat, List.map_append, List.map_cons, List.map_nil, List.append_assoc,
        List.singleton_append]
      congr 1
      · refine List.mapIdx_eq_mapIdx_iff.mpr fun i hi => ?_
        rw [Mux.grow_cons fun j hj => hne i j hj fun e => by
          subst e; exact absurd ((hσ _ i).mpr hj) (by simp [hl])]
        simp [Mux.grow, Function.update_noteq (Nat.ne_of_lt hi)]
      · simp [Mux.grow]
  | connectionCloseMessage id =>
    simp only [Mux.step, Mux.stepOwner, dialsAfter, List.nil_append]
    congr 1
    refine List.mapIdx_eq_mapIdx_iff.mpr fun i _ => ?_
    by_cases hi : σ i = some id
    · simp [Mux.grow, hi]
    · rw [Mux.grow_cons (m := .connectionCloseMessage id) fun j hj =>
        segment_cons_of_ne nofun fun e => hi (by cases e; exact hj)]
      simp [Mux.grow, hi]
  | _ => rfl

/-- **The multiplexer meets the history contract.** From any multiplexer whose open
    streams are those the history `pre` leaves open, handling `ms` leaves every existing
    connection with the rest of its stream's segment appended, followed by one new
    connection for each dial of `dialsAfter pre ms`. -/
theorem Mux.wire_foldl {a : SocketAddr} :
    ∀ (ms : List ForwardingProtocolMessage) (x : Mux) (σ : Nat → Option UInt64)
      (pre : List ForwardingProtocolMessage), x.Owned σ →
      (∀ id, id ∈ x.streams ↔ lastIsData id pre = true) →
      (ms.foldl (Mux.step a) x).wire =
        x.wire.mapIdx (Mux.grow σ ms) ++ (dialsAfter pre ms).map (fun d => (a, d.2)) := by
  intro ms
  induction ms with
  | nil =>
    intro x σ pre _ _
    simp only [List.foldl_nil, dialsAfter, List.map_nil, List.append_nil]
    symm
    rw [List.mapIdx_eq_iff]
    intro i
    cases x.wire[i]? with
    | none => rfl
    | some w =>
      show some w = some (Mux.grow σ [] i w)
      unfold Mux.grow; split <;> simp [segment]
  | cons m ms ih =>
    intro x σ pre h hx
    rw [List.foldl_cons, ih _ _ _ (h.step m) (Mux.mem_step hx m), Mux.wire_step h hx]

/-- The connections a history dials from a fresh session. -/
def dials (ms : List ForwardingProtocolMessage) : List (UInt64 × List UInt8) := dialsAfter [] ms

/-- From a fresh session: the open streams are those whose last message is a data message,
    and the connections are exactly the dials of the history, each to `a`. -/
theorem Mux.foldl_empty (a : SocketAddr) (ms : List ForwardingProtocolMessage) :
    (∀ id, id ∈ (ms.foldl (Mux.step a) Mux.empty).streams ↔ lastIsData id ms = true) ∧
      (ms.foldl (Mux.step a) Mux.empty).wire = (dials ms).map (fun d => (a, d.2)) := by
  have h0 : Mux.empty.Owned (fun _ => none) := ⟨fun _ _ => by simp [Mux.empty], by simp [Mux.empty]⟩
  have k0 : ∀ id, id ∈ Mux.empty.streams ↔ lastIsData id [] = true := by simp [Mux.empty]
  refine ⟨by simpa using Mux.mem_foldl ms Mux.empty [] k0, ?_⟩
  rw [Mux.wire_foldl ms Mux.empty _ [] h0 k0]
  rfl

/-! ## 3. The relay refines the multiplexer -/

theorem map_modify {α β : Type} (f : α → α) (g : α → β) (g' : β → β)
    (hfg : ∀ x, g (f x) = g' (g x)) (c : Nat) (l : List α) :
    (l.modify f c).map g = (l.map g).modify g' c := by
  apply List.ext_getElem?
  intro i
  simp only [List.getElem?_map, List.getElem?_modify]
  cases l[i]? with
  | none => rfl
  | some x => by_cases h : c = i <;> simp [h, hfg]

/-- Modifying what `g` does not see changes nothing `g` sees. -/
theorem map_modify_of_eq {α β : Type} {f : α → α} {g : α → β} (hfg : ∀ x, g (f x) = g x)
    (c : Nat) (l : List α) : (l.modify f c).map g = l.map g := by
  rw [map_modify f g (fun w => w) hfg]
  exact List.modify_id c _

/-- Shutting connections down changes nothing the antenna sees of them. -/
theorem map_foldl_shut (cs : List Nat) :
    ∀ l : List AntennaConn,
      (cs.foldl (fun l c => l.modify (fun k => { k with shutDown := true }) c) l).map
        (fun c => (c.addr, c.written)) = l.map (fun c => (c.addr, c.written)) := by
  induction cs with
  | nil => intro l; rfl
  | cons c cs ih =>
    intro l
    rw [List.foldl_cons, ih]
    exact map_modify_of_eq (by intro; rfl) _ _

section Refine

variable {io : Io} {a : SocketAddr}

/-- **The relay refines `Mux.step`.** Whatever the world, a message `process_messages` gets
    through does to the stream map and to the antenna connections exactly what `Mux.step`
    says. -/
theorem Relay.mux_step {r r' : Relay} {m : ForwardingProtocolMessage} {b : Bool}
    (h : Relay.processItem io a r m = .ok (r', b)) : r'.mux = r.mux.step a m := by
  rcases Relay.processItem_cases h with
    ⟨s, c, rfl, hl, -, rfl⟩ | ⟨s, p, c, rfl, hl, -, rfl⟩ | ⟨s, p, rfl, hl, -, rfl⟩ | ⟨rfl, -, rfl⟩
  · simp only [Relay.mux, Mux.step, Mux.mk.injEq, true_and]
    exact map_modify_of_eq (by intro; rfl) _ _
  · simp only [Relay.mux, Mux.step, hl, Mux.mk.injEq, true_and]
    exact map_modify _ _ (fun w => (w.1, w.2 ++ p)) (by intro; rfl) _ _
  · simp [Relay.mux, Mux.step, hl]
  · simp only [Relay.mux, Mux.step, map_foldl_shut]

/-- The messages a relay has handled, in order: the `handled` entries of its trace. -/
def Relay.handled (r : Relay) : List ForwardingProtocolMessage :=
  r.trace.filterMap fun d => match d.2 with
    | .handled m => some m
    | _ => none

theorem Relay.handled_record (r : Relay) (m : ForwardingProtocolMessage) :
    (r.record io (.handled m)).handled = r.handled ++ [m] := by
  simp [Relay.handled, Relay.record]

theorem Relay.handled_processItem {r r' : Relay} {m : ForwardingProtocolMessage} {b : Bool}
    (h : Relay.processItem io a r m = .ok (r', b)) : r'.handled = r.handled := by
  rcases Relay.processItem_cases h with
    ⟨_, _, -, -, -, rfl⟩ | ⟨_, _, _, -, -, -, rfl⟩ | ⟨_, _, -, -, -, rfl⟩ | ⟨-, -, rfl⟩ <;>
    simp [Relay.handled]

theorem Relay.handled_processStreams (r : Relay) : (Relay.processStreams io r).handled = r.handled := by
  obtain ⟨-, -, -, ds, h, hds⟩ := @Relay.processStreams_frame io r
  rw [Relay.handled, h, List.filterMap_append]
  suffices hn : ds.filterMap (fun d => match d.2 with | .handled m => some m | _ => none) = [] by
    rw [hn, List.append_nil]; rfl
  rw [List.filterMap_eq_nil_iff]
  intro d hd
  have := hds d hd
  revert this
  cases d.2 <;> simp [Event.isHandled]

/-- What the relay has done to the stream map and the antenna is what its handled history
    does to a fresh multiplexer. -/
def MuxFollows (a : SocketAddr) (r : Relay) : Prop :=
  r.mux = r.handled.foldl (Mux.step a) Mux.empty

theorem MuxFollows.processItem {r r' : Relay} {m : ForwardingProtocolMessage} {b : Bool}
    (hr : MuxFollows a r) (hs : Relay.processItem io a (r.record io (.handled m)) m = .ok (r', b)) :
    MuxFollows a r' := by
  rw [MuxFollows, Relay.mux_step hs, Relay.handled_processItem hs, Relay.handled_record,
    List.foldl_append, ← hr]
  rfl

theorem MuxFollows.advance {r : Relay} (hr : MuxFollows a r) : MuxFollows a r.advance := hr

theorem MuxFollows.processStreams (hq : io.AntennaStaysOpen) {r : Relay} (hr : MuxFollows a r) :
    MuxFollows a (Relay.processStreams io r) := by
  have hm : (Relay.processStreams io r).mux = r.mux := by
    simp only [Relay.mux, Relay.processStreams_streams hq, (@Relay.processStreams_frame io r).2.1]
  rw [MuxFollows, hm, Relay.handled_processStreams]
  exact hr

theorem MuxFollows.start : MuxFollows a (Relay.start io) := rfl

/-- **Every session refines the multiplexer.** If the antenna closes nothing, the stream map
    and the antenna connections a session ends with are those its handled messages give a
    fresh multiplexer — batches, reads and `process_streams` in between change nothing. -/
theorem forwardConnections_mux_follows (hq : io.AntennaStaysOpen)
    {first : List ForwardingProtocolMessage} {reads : List ReadResult} {r : Relay}
    (h : (forwardConnections io a first reads).relay? = some r) : MuxFollows a r :=
  forwardConnections_induct (MuxFollows a) (fun _ _ _ _ hr hs => hr.processItem hs)
    (fun _ hr => hr.processStreams hq) (fun _ hr => hr.advance) MuxFollows.start h

/-- Stream 1 opened in the first batch, stream 2 opened and stream 1 closed in the next. -/
theorem forwardConnections_mux_follows_two :
    let io : Io := ⟨fun n => n, fun _ => true, fun _ _ => .idle⟩
    io.AntennaStaysOpen ∧ ∃ r, (forwardConnections io ⟨.v4 ⟨10, 0, 0, 5⟩, 80⟩
        [.connectionDataMessage 1 [1]]
        [.ok [.connectionDataMessage 2 [2], .connectionCloseMessage 1]]).relay? = some r ∧
      MuxFollows ⟨.v4 ⟨10, 0, 0, 5⟩, 80⟩ r := by
  intro io
  have hq : io.AntennaStaysOpen := fun _ _ h => by cases h
  refine ⟨hq, ?r, ?h, forwardConnections_mux_follows hq ?h⟩
  case h => exact rfl

end Refine

/-! ## 4. The contract of a session -/

theorem Mux.owned_foldl {a : SocketAddr} (ms : List ForwardingProtocolMessage) :
    ∀ {x : Mux} {σ : Nat → Option UInt64}, x.Owned σ → ∃ σ', (ms.foldl (Mux.step a) x).Owned σ' := by
  induction ms with
  | nil => exact fun h => ⟨_, h⟩
  | cons m ms ih => exact fun h => ih (h.step m)

/-- No two streams share a connection. -/
theorem Mux.Owned.lookup_inj {x : Mux} {σ : Nat → Option UInt64} (h : x.Owned σ)
    {id id' : UInt64} {c : Nat} (h₁ : x.streams.lookup id = some c)
    (h₂ : x.streams.lookup id' = some c) : id = id' :=
  Option.some.inj (((h.1 id c).mp h₁).symm.trans ((h.1 id' c).mp h₂))

/-- The multiplexer contract of a relay, against the messages it has handled. -/
structure MuxContract (a : SocketAddr) (r : Relay) : Prop where
  /-- A stream is open exactly when its most recent data or close message is a data
      message. -/
  open_iff : ∀ id, id ∈ r.streams ↔ lastIsData id r.handled = true
  /-- No two open streams share an antenna connection. -/
  conn_inj : ∀ id id' c, r.streams.lookup id = some c → r.streams.lookup id' = some c → id = id'
  /-- One connection per dial of the history, in order, each to `a`, each carrying its
      stream's payloads from the dialling message up to the stream's close. -/
  wire : r.conns.map (fun c => (c.addr, c.written)) = (dials r.handled).map (fun d => (a, d.2))

section Progress

variable {io : Io} {a : SocketAddr}

theorem MuxFollows.contract {r : Relay} (h : MuxFollows a r) : MuxContract a r where
  open_iff id := by
    show id ∈ r.mux.streams ↔ _
    rw [h]
    exact (Mux.foldl_empty a r.handled).1 id
  conn_inj id id' c h₁ h₂ := by
    have h0 : Mux.empty.Owned (fun _ => none) :=
      ⟨fun _ _ => by simp [Mux.empty], by simp [Mux.empty]⟩
    obtain ⟨σ, hσ⟩ := Mux.owned_foldl (a := a) r.handled h0
    rw [← h] at hσ
    exact hσ.lookup_inj h₁ h₂
  wire := by
    show r.mux.wire = _
    rw [h]
    exact (Mux.foldl_empty a r.handled).2

/-- **`process_messages` gets through a batch.** In a world where no socket operation fails,
    a batch of data and close messages whose closes name open streams is handled to its end:
    no panic, no stop, every message recorded, and the relay still follows the
    multiplexer. -/
theorem processMessages_progress (hio : io.Reliable) :
    ∀ (ms : List ForwardingProtocolMessage) (r : Relay), MuxFollows a r →
      (∀ m ∈ ms, m.isStream = true) → closesOpenAfter r.handled ms = true →
      ∃ r', Relay.processMessages io a ms r = .ok (r', false) ∧
        r'.handled = r.handled ++ ms ∧ MuxFollows a r'
  | [], r, hr, _, _ => ⟨r, rfl, by simp, hr⟩
  | m :: ms, r, hr, hs, hc => by
    rw [closesOpenAfter, Bool.and_eq_true] at hc
    have hopen : ∀ id, m = .connectionCloseMessage id → id ∈ (r.record io (.handled m)).streams :=
      fun id e => by subst e; exact (hr.contract.open_iff id).mpr hc.1
    obtain ⟨r₁, h₁⟩ := Relay.processItem_progress (a := a) hio (hs m (.head _)) hopen
    have hh : r₁.handled = r.handled ++ [m] := by
      rw [Relay.handled_processItem h₁, Relay.handled_record]
    obtain ⟨r', h', hh', hr'⟩ := processMessages_progress hio ms r₁ (hr.processItem h₁)
      (fun m' hm' => hs m' (.tail _ hm')) (hh ▸ hc.2)
    exact ⟨r', (Relay.processMessages_cons_of_continue h₁).trans h', by simp [hh', hh], hr'⟩

/-- **`process_messages` gets through to a shutdown.** Under the same conditions, a batch whose
    messages before its first shutdown are data and closes of open streams is handled up to
    and including the shutdown, and stops there. -/
theorem processMessages_progress_close (hio : io.Reliable) {pre : List ForwardingProtocolMessage}
    (post : List ForwardingProtocolMessage) (r : Relay) (hr : MuxFollows a r)
    (hs : ∀ m ∈ pre, m.isStream = true) (hc : closesOpenAfter r.handled pre = true) :
    ∃ r', Relay.processMessages io a (pre ++ .forwardingCloseMessage :: post) r = .ok (r', true) ∧
      r'.handled = r.handled ++ pre ++ [.forwardingCloseMessage] ∧ MuxFollows a r' := by
  obtain ⟨r₁, h₁, hh₁, hr₁⟩ := processMessages_progress hio pre r hr hs hc
  obtain ⟨r', hfc⟩ := Relay.processItem_forwardingClose_progress (a := a)
    (r := r₁.record io (.handled .forwardingCloseMessage)) hio
  refine ⟨r', ?_, ?_, hr₁.processItem hfc⟩
  · rw [Relay.processMessages_append_of_continue h₁, Relay.processMessages_cons_of_stop hfc]
  · rw [Relay.handled_processItem hfc, Relay.handled_record, hh₁]

/-- A batch of data, close and shutdown messages either has no shutdown, or splits at its first
    one. -/
theorem isStream_or_split {vec : List ForwardingProtocolMessage}
    (h : ∀ m ∈ vec, m.isStream = true ∨ m = .forwardingCloseMessage) :
    (∀ m ∈ vec, m.isStream = true) ∨
      ∃ pre post, vec = pre ++ .forwardingCloseMessage :: post ∧ ∀ m ∈ pre, m.isStream = true := by
  induction vec with
  | nil => exact .inl fun m hm => absurd hm (List.not_mem_nil m)
  | cons m vec ih =>
    rcases h m (.head _) with hm | rfl
    · rcases ih fun x hx => h x (.tail _ hx) with hall | ⟨pre, post, rfl, hpre⟩
      · exact .inl (List.forall_mem_cons.mpr ⟨hm, hall⟩)
      · exact .inr ⟨m :: pre, post, rfl, List.forall_mem_cons.mpr ⟨hm, hpre⟩⟩
    · exact .inr ⟨[], vec, rfl, fun x hx => absurd hx (List.not_mem_nil x)⟩

/-- How a session `s` over the read batches `reads` ends, with `h₀` handled before them: it
    uses every read, or the idle timeout ends it after the first `k`, having handled exactly
    those reads' messages; or the `k`-th read's first shutdown closes it, the messages before
    the shutdown and the shutdown itself handled last. -/
def SessionEnd (s : Session) (h₀ : List ForwardingProtocolMessage)
    (reads : List (List ForwardingProtocolMessage)) (r : Relay) (k : Nat) : Prop :=
  ((s = .running r ∧ k = reads.length ∨ s = .timedOut r) ∧
      r.handled = h₀ ++ (reads.take k).flatten) ∨
    ∃ pre post, reads[k]? = some (pre ++ .forwardingCloseMessage :: post) ∧
      (∀ m ∈ pre, m.isStream = true) ∧ s = .closed r ∧
      r.handled = h₀ ++ (reads.take k).flatten ++ pre ++ [.forwardingCloseMessage]

/-- A batch handled to its end in front of the remaining reads. -/
theorem SessionEnd.cons {s : Session} {h₀ vec : List ForwardingProtocolMessage}
    {reads : List (List ForwardingProtocolMessage)} {r : Relay} {k : Nat}
    (h : SessionEnd s (h₀ ++ vec) reads r k) : SessionEnd s h₀ (vec :: reads) r (k + 1) := by
  rcases h with ⟨hs, hh⟩ | ⟨pre, post, hk, hpre, hs, hh⟩
  · refine .inl ⟨hs.imp_left fun h => ⟨h.1, by simp [h.2]⟩, by simp [hh]⟩
  · exact .inr ⟨pre, post, by simpa using hk, hpre, hs, by simp [hh]⟩

/-- **The read loop gets through its reads, times out, or is closed by a shutdown.** Under the
    same conditions, with shutdowns allowed in the read batches, the loop neither panics nor
    fails. -/
theorem forwardLoop_progress (hio : io.Reliable) (hq : io.AntennaStaysOpen) :
    ∀ (reads : List (List ForwardingProtocolMessage)) (r : Relay), MuxFollows a r →
      (∀ m ∈ reads.flatten, m.isStream = true ∨ m = .forwardingCloseMessage) →
      closesOpenAfter r.handled reads.flatten = true →
      ∃ r' k, SessionEnd (forwardLoop io a (reads.map .ok) r) r.handled reads r' k ∧ MuxFollows a r'
  | [], r, hr, _, _ => ⟨r, 0, .inl ⟨.inl ⟨rfl, rfl⟩, by simp⟩, hr⟩
  | vec :: reads, r, hr, hs, hc => by
    rw [List.flatten_cons, closesOpenAfter_append, Bool.and_eq_true] at hc
    have hh₀ : (Relay.processStreams io r.advance).handled = r.handled :=
      Relay.handled_processStreams _
    have hr₀ := hr.advance.processStreams hq
    rcases @isStream_or_split vec fun m hm => hs m (by simp [hm]) with
      hvec | ⟨pre, post, rfl, hpre⟩
    case inr =>
      rw [closesOpenAfter_append, Bool.and_eq_true] at hc
      obtain ⟨r₁, h₁, hh₁, hr₁⟩ := processMessages_progress_close hio post _ hr₀ hpre (hh₀ ▸ hc.1.1)
      exact ⟨r₁, 0, .inr ⟨pre, post, by simp, hpre, by simp [forwardLoop, h₁], by simp [hh₁, hh₀]⟩,
        hr₁⟩
    obtain ⟨r₁, h₁, hh₁, hr₁⟩ := processMessages_progress hio vec _ hr₀ hvec (hh₀ ▸ hc.1)
    by_cases ht : r₁.now io - r₁.lastMessage > forwardTimeout
    · exact ⟨r₁, 1, .inl ⟨.inr (by simp [forwardLoop, h₁, ht]), by simp [hh₁, hh₀]⟩, hr₁⟩
    · obtain ⟨r', k, hk, hr'⟩ := forwardLoop_progress hio hq reads r₁.advance hr₁.advance
        (fun m hm => hs m (by simp [hm]))
        (by rw [show r₁.advance.handled = _ from hh₁, hh₀]; exact hc.2)
      have hloop : forwardLoop io a ((vec :: reads).map .ok) r =
          forwardLoop io a (reads.map .ok) r₁.advance := by
        simp [forwardLoop, h₁, ht]
      rw [show r₁.advance.handled = _ from hh₁, hh₀] at hk
      exact ⟨r', k + 1, hloop ▸ hk.cons, hr'⟩

end Progress

/-- **The multiplexer contract of `forward_connections`.** For every antenna address `a`,
    in a world where no socket operation fails and the antenna closes nothing, every session
    whose first batch holds data and close messages and whose read batches hold data, close
    and shutdown messages, every close naming an open stream, uses all its reads, times out,
    or is closed by the first shutdown of a read batch — it never panics — and ends having
    handled the first batch and the messages of the reads it used, with

    * a stream open exactly when its last data or close message is a data message;
    * no two streams on one connection;
    * one connection for each data message whose stream was not open, in order, each to `a`
      and each carrying exactly its stream's payloads from that message to the close that
      ended it. -/
theorem forward_connections_mux {io : Io} {a : SocketAddr} (hio : io.Reliable)
    (hq : io.AntennaStaysOpen) (first : List ForwardingProtocolMessage)
    (reads : List (List ForwardingProtocolMessage)) (hfirst : ∀ m ∈ first, m.isStream = true)
    (hreads : ∀ m ∈ reads.flatten, m.isStream = true ∨ m = .forwardingCloseMessage)
    (hc : ClosesOpen (first ++ reads.flatten)) :
    ∃ r k, SessionEnd (forwardConnections io a first (reads.map .ok)) first reads r k ∧
      MuxContract a r := by
  rw [closesOpen_iff, closesOpenAfter_append, Bool.and_eq_true] at hc
  obtain ⟨r₁, h₁, hh₁, hr₁⟩ := processMessages_progress (a := a) hio first (Relay.start io)
    MuxFollows.start hfirst hc.1
  obtain ⟨r, k, hk, hr⟩ := forwardLoop_progress hio hq reads r₁ hr₁ hreads
    (by rw [hh₁]; exact hc.2)
  have hfc : forwardConnections io a first (reads.map .ok) = forwardLoop io a (reads.map .ok) r₁ := by
    simp [forwardConnections, h₁]
  rw [hh₁] at hk
  exact ⟨r, k, hfc ▸ hk, hr.contract⟩

/-- Two streams, one closed and then reopened on a fresh connection, over three batches, and a
    shutdown in the middle of a fourth. -/
theorem forward_connections_mux_reopen :
    ∃ r k, SessionEnd (forwardConnections ⟨fun n => n, fun _ => true, fun _ _ => .idle⟩
          ⟨.v4 ⟨10, 0, 0, 5⟩, 80⟩ [.connectionDataMessage 1 [1]]
          ([[.connectionDataMessage 2 [2], .connectionCloseMessage 1], [.connectionDataMessage 1 [3]],
            [.connectionDataMessage 2 [4], .forwardingCloseMessage, .connectionCloseMessage 2]].map .ok))
        [.connectionDataMessage 1 [1]]
        [[.connectionDataMessage 2 [2], .connectionCloseMessage 1], [.connectionDataMessage 1 [3]],
          [.connectionDataMessage 2 [4], .forwardingCloseMessage, .connectionCloseMessage 2]] r k ∧
      MuxContract ⟨.v4 ⟨10, 0, 0, 5⟩, 80⟩ r :=
  forward_connections_mux (fun _ => rfl) (fun _ _ h => by cases h) _ _ (by decide) (by decide)
    (by decide)

end Forwarding
end Rita
