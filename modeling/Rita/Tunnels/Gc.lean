import Rita.Basic
import Mathlib.Data.List.AList

/-!
# `Rita/Tunnels/Gc.lean` — tunnel garbage collection

The `TriggerGC` handler of the tunnel manager (`rita_common/tunnel_manager/gc.rs`). The manager
keeps its tunnels in a `HashMap<Identity, Vec<Tunnel>>`, each tunnel under its neighbour's
global identity. On `TriggerGC` it walks every tunnel, asks `tunnel_should_be_kept` (babel
still has the interface up or the tunnel is young; we heard from the peer recently or a
WireGuard handshake is recent), and rebuilds two maps of the same shape with
`insert_into_tunnel_list`: the tunnels to keep, which become the manager's map, and the tunnels
to delete, which it then releases one by one — `unmonitor(0)` for an ordinary tunnel,
`close_light_client_tunnel()` for a light client's.

A `HashMap` is an `AList` here: the handler's results are stated through `lookup` and up to
permutation, so they hold whatever order the map iterates in. The loop body is
`insert_into_tunnel_list`, whose two `unwrap`s never fire: it always appends the tunnel to its
identity's list (`insertIntoTunnelList_eq`). From that one step the whole loop is a pair of
filtered folds (`foldlM_splitTunnel`), and the result is a partition (`trigger_gc_partitions`):
under each identity the new map holds exactly that identity's kept tunnels, in their order, and
nothing for an identity with none kept; the released tunnels are the others, each released
once and the way its kind calls for; kept and released together are the old tunnels, each
once. The map stays keyed by identity with no empty list (`TunnelMap.Keyed`), so the same holds
of every collection along a run of the handler (`gcRun_keyed`).
-/

set_option autoImplicit false

open scoped List

namespace Rita
namespace Tunnels

/-! ## 1. Tunnels and the handler -/

/-- `LocalIdentity`, the neighbour a tunnel leads to; gc.rs reads only `global`. -/
structure LocalIdentity (Identity : Type) where
  global : Identity
  deriving DecidableEq

/-- The fields of a `Tunnel` that gc.rs reads (the type itself is in `tunnel_manager/mod.rs`):
    the neighbour, the interface, when it was created and last heard from (`Instant`s), and
    whether it serves a light client. -/
structure Tunnel (Identity : Type) where
  neighId : LocalIdentity Identity
  ifaceName : String
  created : Nat
  lastContact : Nat
  lightClientDetails : Option Ipv4Addr
  deriving DecidableEq

/-- `HashMap<Identity, Vec<Tunnel>>`. -/
abbrev TunnelMap (Identity : Type) := AList fun _ : Identity => List (Tunnel Identity)

/-- The tunnel manager's map of tunnels, the state the handler reads and replaces. -/
structure TunnelManager (Identity : Type) where
  tunnels : TunnelMap Identity

/-- `babel_monitor::Interface`: its name, and whether babel has it up. -/
structure Interface where
  name : String
  up : Bool

/-- `TriggerGC`, durations in one unit. -/
structure TriggerGC where
  tunnelTimeout : Nat
  tunnelHandshakeTimeout : Nat
  babelInterfaces : List Interface

/-- The clocks the handler reads: `Instant::now()` and `SystemTime::now()`. -/
structure Clock where
  instant : Nat
  system : Nat

/-- `KI.get_last_handshake_time(ifname)`: the `SystemTime` of each peer's last handshake on the
    interface, or the error of the `wg` call. -/
structure KernelInterface where
  getLastHandshakeTime : String → Except String (List Nat)

/-- `into_interfaces_hashmap`: interface name ↦ up; a later interface of one name wins. -/
def intoInterfacesHashmap (interfaces : List Interface) : AList fun _ : String => Bool :=
  interfaces.foldl (fun ret interface => ret.insert interface.name interface.up) ∅

/-- `tunnel_up`: babel's up flag for the interface; `true` for one babel does not list. -/
def tunnelUp (interfaces : AList fun _ : String => Bool) (tunnelName : String) : Bool :=
  match interfaces.lookup tunnelName with
  | some up => if !up then false else true
  | none => true

/-- `check_handshake_time`: some handshake on the interface is younger than the timeout, or
    stamped in the future; `false` when the `wg` call fails. -/
def checkHandshakeTime (ki : KernelInterface) (clock : Clock) (handshakeTimeout : Nat)
    (ifname : String) : Bool :=
  match ki.getLastHandshakeTime ifname with
  | .ok handshakes =>
    handshakes.any fun time =>
      if time ≤ clock.system then decide (clock.system - time < handshakeTimeout) else true
  | .error _ => false

variable {Identity : Type} [DecidableEq Identity]

/-- `tunnel_should_be_kept`. -/
def tunnelShouldBeKept (ki : KernelInterface) (clock : Clock) (tunnel : Tunnel Identity)
    (msg : TriggerGC) (interfaces : AList fun _ : String => Bool) : Bool :=
  if decide (clock.instant - tunnel.created > msg.tunnelTimeout) &&
      !tunnelUp interfaces tunnel.ifaceName then false
  else if decide (clock.instant - tunnel.lastContact > msg.tunnelTimeout) &&
      !checkHandshakeTime ki clock msg.tunnelHandshakeTimeout tunnel.ifaceName then false
  else true

/-- `insert_into_tunnel_list`: push the tunnel onto its identity's list, making the list first
    if there is none. -/
def insertIntoTunnelList (input : Tunnel Identity) (tunnelsList : TunnelMap Identity) :
    Except Panic (TunnelMap Identity) :=
  let identity := input.neighId.global
  if identity ∈ tunnelsList.keys then do
    let tunnels ← unwrap (tunnelsList.lookup identity)
    pure (tunnelsList.insert identity (tunnels ++ [input]))
  else do
    let tunnelsList := tunnelsList.insert identity []
    let tunnels ← unwrap (tunnelsList.lookup identity)
    pure (tunnelsList.insert identity (tunnels ++ [input]))

/-- The body of the handler's double loop: the tunnel goes into `good` if `keep` holds of it
    and into `to_delete` otherwise. -/
def splitTunnel (keep : Tunnel Identity → Bool)
    (acc : TunnelMap Identity × TunnelMap Identity) (tunnel : Tunnel Identity) :
    Except Panic (TunnelMap Identity × TunnelMap Identity) :=
  if keep tunnel then do pure (← insertIntoTunnelList tunnel acc.1, acc.2)
  else do pure (acc.1, ← insertIntoTunnelList tunnel acc.2)

/-- What the handler does to a tunnel it collects. -/
inductive Release (Identity : Type)
  | unmonitor (tunnel : Tunnel Identity) (attempt : Nat)
  | closeLightClientTunnel (tunnel : Tunnel Identity)
  deriving DecidableEq

/-- The tunnel a release acts on. -/
def Release.tunnel : Release Identity → Tunnel Identity
  | .unmonitor tunnel _ | .closeLightClientTunnel tunnel => tunnel

/-- The handler's `match tunnel.light_client_details`. -/
def release (tunnel : Tunnel Identity) : Release Identity :=
  match tunnel.lightClientDetails with
  | none => .unmonitor tunnel 0
  | some _ => .closeLightClientTunnel tunnel

/-- `TunnelManager::handle(TriggerGC)`: the manager with its new map, and the releases made,
    in order. -/
def handleTriggerGc (ki : KernelInterface) (clock : Clock) (tm : TunnelManager Identity)
    (msg : TriggerGC) : Except Panic (TunnelManager Identity × List (Release Identity)) := do
  let interfaces := intoInterfacesHashmap msg.babelInterfaces
  let (good, toDelete) ← tm.tunnels.entries.foldlM
    (fun acc entry => entry.2.foldlM
      (splitTunnel fun tunnel => tunnelShouldBeKept ki clock tunnel msg interfaces) acc)
    (∅, ∅)
  let tm := { tm with tunnels := good }
  pure (tm, toDelete.entries.flatMap fun entry => entry.2.map release)

/-! ## 2. One insertion -/

/-- The tunnels a map holds for an identity; none when it has no list for it. -/
def bucket (m : TunnelMap Identity) (i : Identity) : List (Tunnel Identity) :=
  (m.lookup i).getD []

/-- Every tunnel a map holds, list after list. -/
def allTunnels (m : TunnelMap Identity) : List (Tunnel Identity) :=
  m.entries.flatMap (·.2)

/-- What `insert_into_tunnel_list` does: the tunnel at the end of its identity's list. -/
def addTunnel (m : TunnelMap Identity) (t : Tunnel Identity) : TunnelMap Identity :=
  m.insert t.neighId.global (bucket m t.neighId.global ++ [t])

/-- Neither `unwrap` of `insert_into_tunnel_list` fires: it always appends the tunnel. -/
theorem insertIntoTunnelList_eq (t : Tunnel Identity) (m : TunnelMap Identity) :
    insertIntoTunnelList t m = .ok (addTunnel m t) := by
  dsimp only [insertIntoTunnelList, addTunnel, bucket]
  split_ifs with h
  · obtain ⟨v, hv⟩ := Option.isSome_iff_exists.mp (AList.lookup_isSome.mpr (AList.mem_keys.mpr h))
    simp [hv]
  · simp [AList.insert_insert, AList.lookup_eq_none.mpr (mt AList.mem_keys.mp h)]

theorem bucket_addTunnel (m : TunnelMap Identity) (t : Tunnel Identity) (i : Identity) :
    bucket (addTunnel m t) i = bucket m i ++ if t.neighId.global = i then [t] else [] := by
  by_cases h : t.neighId.global = i
  · subst h
    simp [bucket, addTunnel]
  · simp [bucket, addTunnel, AList.lookup_insert_ne (Ne.symm h), h]

theorem lookup_addTunnel_ne_nil {m : TunnelMap Identity} (h : ∀ i, m.lookup i ≠ some [])
    (t : Tunnel Identity) (i : Identity) : (addTunnel m t).lookup i ≠ some [] := by
  by_cases hi : t.neighId.global = i
  · subst hi
    simp [addTunnel]
  · rw [addTunnel, AList.lookup_insert_ne (Ne.symm hi)]
    exact h i

/-- An association list's lists, with one key's list taken out to the front. -/
theorem flatMap_perm_kerase (l : List (Sigma fun _ : Identity => List (Tunnel Identity)))
    (k : Identity) :
    l.flatMap (·.2) ~ (l.dlookup k).getD [] ++ (l.kerase k).flatMap (·.2) := by
  induction l with
  | nil => exact .nil
  | cons e l ih =>
    obtain ⟨j, ts⟩ := e
    by_cases h : k = j
    · subst h
      simp [List.kerase_cons_eq]
    · rw [List.dlookup_cons_ne _ _ h, List.kerase_cons_ne h, List.flatMap_cons, List.flatMap_cons]
      exact (ih.append_left ts).trans (List.perm_append_comm_assoc _ _ _)

theorem allTunnels_addTunnel (m : TunnelMap Identity) (t : Tunnel Identity) :
    allTunnels (addTunnel m t) ~ allTunnels m ++ [t] := by
  have hm := flatMap_perm_kerase m.entries t.neighId.global
  rw [allTunnels, addTunnel, AList.insert_entries, List.flatMap_cons, List.append_assoc]
  exact (List.perm_append_comm.append_left _).trans
    (by rw [← List.append_assoc]; exact hm.symm.append_right _)

/-! ## 3. The double loop -/

/-- The inner loop: the kept tunnels are added to `good` and the others to `to_delete`, each
    in order. -/
theorem foldlM_splitTunnel (keep : Tunnel Identity → Bool) (ts : List (Tunnel Identity))
    (g d : TunnelMap Identity) :
    ts.foldlM (splitTunnel keep) (g, d) =
      .ok ((ts.filter keep).foldl addTunnel g, (ts.filter (!keep ·)).foldl addTunnel d) := by
  induction ts generalizing g d with
  | nil => rfl
  | cons t ts ih =>
    by_cases h : keep t <;> simp [splitTunnel, h, insertIntoTunnelList_eq, ih]

/-- Both loops: one pass over every tunnel of the map, list after list. -/
theorem foldlM_entries_splitTunnel (keep : Tunnel Identity → Bool)
    (es : List (Sigma fun _ : Identity => List (Tunnel Identity))) (g d : TunnelMap Identity) :
    es.foldlM (fun acc entry => entry.2.foldlM (splitTunnel keep) acc) (g, d) =
      .ok (((es.flatMap (·.2)).filter keep).foldl addTunnel g,
        ((es.flatMap (·.2)).filter (!keep ·)).foldl addTunnel d) := by
  induction es generalizing g d with
  | nil => rfl
  | cons e es ih => simp [foldlM_splitTunnel, ih]

theorem bucket_foldl_addTunnel (ts : List (Tunnel Identity)) (m : TunnelMap Identity)
    (i : Identity) :
    bucket (ts.foldl addTunnel m) i = bucket m i ++ ts.filter (·.neighId.global = i) := by
  induction ts generalizing m with
  | nil => simp
  | cons t ts ih =>
    rw [List.foldl_cons, ih, bucket_addTunnel, List.filter_cons]
    split_ifs <;> simp_all

theorem allTunnels_foldl_addTunnel (ts : List (Tunnel Identity)) (m : TunnelMap Identity) :
    allTunnels (ts.foldl addTunnel m) ~ allTunnels m ++ ts := by
  induction ts generalizing m with
  | nil => simp
  | cons t ts ih =>
    rw [List.foldl_cons, ← List.singleton_append, ← List.append_assoc]
    exact ih _ |>.trans ((allTunnels_addTunnel m t).append_right ts)

theorem lookup_foldl_addTunnel_ne_nil (ts : List (Tunnel Identity)) {m : TunnelMap Identity}
    (h : ∀ i, m.lookup i ≠ some []) (i : Identity) : (ts.foldl addTunnel m).lookup i ≠ some [] := by
  induction ts generalizing m with
  | nil => exact h i
  | cons t ts ih => exact ih (lookup_addTunnel_ne_nil h t)

/-- A map with no empty list holds a list exactly for the identities it has tunnels for. -/
theorem lookup_eq_bucket {m : TunnelMap Identity} (h : ∀ i, m.lookup i ≠ some [])
    (i : Identity) : m.lookup i = if bucket m i = [] then none else some (bucket m i) := by
  cases hl : m.lookup i with
  | none => simp [bucket, hl]
  | some ts =>
    have : ts ≠ [] := fun he => h i (he ▸ hl)
    simp [bucket, hl, this]

/-- Where each tunnel sits under its neighbour's identity, an identity's list is the map's
    tunnels of that identity. -/
theorem filter_allTunnels_key {m : TunnelMap Identity}
    (hkey : ∀ e ∈ m.entries, ∀ t ∈ e.2, t.neighId.global = e.1) (i : Identity) :
    (allTunnels m).filter (·.neighId.global = i) = bucket m i := by
  obtain ⟨l, nd⟩ := m
  simp only [allTunnels, bucket, AList.lookup] at hkey ⊢
  induction l with
  | nil => rfl
  | cons e l ih =>
    obtain ⟨j, ts⟩ := e
    have hts : ∀ t ∈ ts, t.neighId.global = j := hkey _ (List.mem_cons_self _ _)
    rw [List.nodupKeys_cons] at nd
    rw [List.flatMap_cons, List.filter_append,
      ih nd.2 (fun e he => hkey e (List.mem_cons_of_mem _ he))]
    by_cases h : j = i
    · subst h
      rw [List.filter_eq_self.mpr (by simpa using hts), List.dlookup_cons_eq,
        List.dlookup_eq_none.mpr nd.1]
      simp
    · rw [List.filter_eq_nil_iff.mpr (fun t ht => by simp [hts t ht, h]),
        List.dlookup_cons_ne _ _ (Ne.symm h)]
      simp

/-! ## 4. The handler -/

/-- The test the handler puts each tunnel to: `tunnel_should_be_kept(tunnel, &msg, &interfaces)`
    with `interfaces = into_interfaces_hashmap(&msg.babel_interfaces)`. -/
def keepTunnel (ki : KernelInterface) (clock : Clock) (msg : TriggerGC) (tunnel : Tunnel Identity) :
    Bool :=
  tunnelShouldBeKept ki clock tunnel msg (intoInterfacesHashmap msg.babelInterfaces)

/-- The handler returns normally, with the kept tunnels folded into the new map and the others
    into the map it releases from. -/
theorem handleTriggerGc_eq (ki : KernelInterface) (clock : Clock) (tm : TunnelManager Identity)
    (msg : TriggerGC) :
    handleTriggerGc ki clock tm msg =
      .ok (⟨((allTunnels tm.tunnels).filter (keepTunnel ki clock msg)).foldl addTunnel ∅⟩,
        (allTunnels (((allTunnels tm.tunnels).filter (!keepTunnel ki clock msg ·)).foldl
          addTunnel ∅)).map release) := by
  simp only [handleTriggerGc, foldlM_entries_splitTunnel, allTunnels, List.map_flatMap]
  rfl

omit [DecidableEq Identity] in
@[simp] theorem tunnel_release (t : Tunnel Identity) : (release t).tunnel = t := by
  unfold release
  split <;> rfl

theorem bucket_kept (keep : Tunnel Identity → Bool) {m : TunnelMap Identity}
    (hkey : ∀ e ∈ m.entries, ∀ t ∈ e.2, t.neighId.global = e.1) (i : Identity) :
    bucket (((allTunnels m).filter keep).foldl addTunnel ∅) i = (bucket m i).filter keep := by
  rw [bucket_foldl_addTunnel, ← filter_allTunnels_key hkey, List.filter_filter,
    List.filter_filter]
  simp [bucket, Bool.and_comm]

/-- The handler's kept and released tunnels are the old ones, each once, whatever map it
    starts from. -/
theorem handleTriggerGc_perm {ki : KernelInterface} {clock : Clock}
    {tm tm' : TunnelManager Identity} {msg : TriggerGC} {releases : List (Release Identity)}
    (h : handleTriggerGc ki clock tm msg = .ok (tm', releases)) :
    allTunnels tm'.tunnels ++ releases.map Release.tunnel ~ allTunnels tm.tunnels := by
  rw [handleTriggerGc_eq] at h
  cases h
  simp only [List.map_map, Function.comp_def, tunnel_release, List.map_id']
  refine .trans (.append (allTunnels_foldl_addTunnel _ ∅) (allTunnels_foldl_addTunnel _ ∅)) ?_
  simpa using List.filter_append_perm _ _

/-- **The tunnel GC partitions the tunnels.** Where every tunnel sits under its neighbour's
    identity, the handler returns normally; under each identity the new map holds exactly that
    identity's tunnels that pass `tunnel_should_be_kept`, in their order, and nothing for an
    identity with none; it releases the other tunnels, each once, by `unmonitor(0)` or, for a
    light client's tunnel, `close_light_client_tunnel()`; and the kept and the released tunnels
    together are the old ones, each once. -/
theorem trigger_gc_partitions (ki : KernelInterface) (clock : Clock)
    (tm : TunnelManager Identity) (msg : TriggerGC)
    (hkey : ∀ e ∈ tm.tunnels.entries, ∀ t ∈ e.2, t.neighId.global = e.1) :
    ∃ tm' releases, handleTriggerGc ki clock tm msg = .ok (tm', releases) ∧
      (∀ i, tm'.tunnels.lookup i =
        if (bucket tm.tunnels i).filter (keepTunnel ki clock msg) = [] then none
        else some ((bucket tm.tunnels i).filter (keepTunnel ki clock msg))) ∧
      releases ~ ((allTunnels tm.tunnels).filter (!keepTunnel ki clock msg ·)).map release ∧
      allTunnels tm'.tunnels ++ releases.map Release.tunnel ~ allTunnels tm.tunnels := by
  have hnil : ∀ i, (∅ : TunnelMap Identity).lookup i ≠ some [] := by simp
  refine ⟨_, _, handleTriggerGc_eq ki clock tm msg, fun i => ?_, ?_, ?_⟩
  · rw [lookup_eq_bucket (lookup_foldl_addTunnel_ne_nil _ hnil) i, bucket_kept _ hkey]
  · simpa using (allTunnels_foldl_addTunnel _ ∅).map release
  · exact handleTriggerGc_perm (handleTriggerGc_eq ki clock tm msg)

/-- Four tunnels of two neighbours. Babel has `wg0` down; `wg2` handshook 10 before the
    collection. Collected: `wg0` (old, down) and `wg3` (silent, no recent handshake). -/
theorem trigger_gc_partitions_sample :
    let t (i : Nat) (iface : String) (lastContact : Nat) (lc : Option Ipv4Addr) : Tunnel Nat :=
      ⟨⟨i⟩, iface, 0, lastContact, lc⟩
    let tm : TunnelManager Nat :=
      ⟨[t 1 "wg0" 90 none, t 2 "wg2" 0 none, t 1 "wg1" 80 none,
        t 2 "wg3" 0 (some ⟨10, 0, 0, 2⟩)].foldl addTunnel ∅⟩
    let ki : KernelInterface := ⟨fun ifname => .ok (if ifname = "wg2" then [90] else [])⟩
    let msg : TriggerGC := ⟨50, 50, [⟨"wg0", false⟩, ⟨"wg1", true⟩]⟩
    (∀ e ∈ tm.tunnels.entries, ∀ tn ∈ e.2, tn.neighId.global = e.1) ∧
    ∃ tm' releases, handleTriggerGc ki ⟨100, 100⟩ tm msg = .ok (tm', releases) ∧
      (∀ i, tm'.tunnels.lookup i =
        if (bucket tm.tunnels i).filter (keepTunnel ki ⟨100, 100⟩ msg) = [] then none
        else some ((bucket tm.tunnels i).filter (keepTunnel ki ⟨100, 100⟩ msg))) ∧
      releases ~ ((allTunnels tm.tunnels).filter (!keepTunnel ki ⟨100, 100⟩ msg ·)).map release ∧
      allTunnels tm'.tunnels ++ releases.map Release.tunnel ~ allTunnels tm.tunnels := by
  intro t tm ki msg
  exact ⟨by decide, trigger_gc_partitions ki ⟨100, 100⟩ tm msg (by decide)⟩

/-! ## 5. Runs of the handler -/

/-- A map in the shape the manager keeps: each tunnel under its neighbour's identity, and no
    identity with an empty list. -/
structure TunnelMap.Keyed (m : TunnelMap Identity) : Prop where
  key : ∀ e ∈ m.entries, ∀ t ∈ e.2, t.neighId.global = e.1
  nonempty : ∀ i, m.lookup i ≠ some []

/-- Whatever tunnels are folded in, from nothing, the map comes out keyed. -/
theorem keyed_foldl_addTunnel (ts : List (Tunnel Identity)) :
    (ts.foldl addTunnel (∅ : TunnelMap Identity)).Keyed where
  key e he t ht := by
    have hl : (ts.foldl addTunnel ∅).lookup e.1 = some e.2 := AList.mem_lookup_iff.mpr he
    rw [← Option.getD_some (a := e.2) (b := []), ← hl, ← bucket, bucket_foldl_addTunnel] at ht
    simp only [bucket, AList.lookup_empty, Option.getD_none, List.nil_append, List.mem_filter,
      decide_eq_true_eq] at ht
    exact ht.2
  nonempty := lookup_foldl_addTunnel_ne_nil ts (by simp)

/-- **The handler leaves a keyed map**, whatever map it starts from:
    `insert_into_tunnel_list` files each tunnel under its own identity. -/
theorem handleTriggerGc_keyed {ki : KernelInterface} {clock : Clock}
    {tm tm' : TunnelManager Identity} {msg : TriggerGC} {releases : List (Release Identity)}
    (h : handleTriggerGc ki clock tm msg = .ok (tm', releases)) : tm'.tunnels.Keyed := by
  rw [handleTriggerGc_eq] at h
  cases h
  exact keyed_foldl_addTunnel _

/-- The manager over a run of `TriggerGC` messages, each handled at its own clock and kernel
    state: the last manager, and every release in order. -/
def gcRun : List (KernelInterface × Clock × TriggerGC) → TunnelManager Identity →
    Except Panic (TunnelManager Identity × List (Release Identity))
  | [], tm => .ok (tm, [])
  | (ki, clock, msg) :: rest, tm => do
    let (tm, released) ← handleTriggerGc ki clock tm msg
    let (tm, later) ← gcRun rest tm
    pure (tm, released ++ later)

/-- **No tunnel is lost or duplicated along a run.** From a keyed map, every collection of the
    run returns normally, the map stays keyed, and the tunnels held at the end together with
    every tunnel released on the way are the tunnels held at the start, each once. -/
theorem gcRun_keyed (msgs : List (KernelInterface × Clock × TriggerGC))
    (tm : TunnelManager Identity) (h : tm.tunnels.Keyed) :
    ∃ tm' releases, gcRun msgs tm = .ok (tm', releases) ∧ tm'.tunnels.Keyed ∧
      allTunnels tm'.tunnels ++ releases.map Release.tunnel ~ allTunnels tm.tunnels := by
  induction msgs generalizing tm with
  | nil => exact ⟨tm, [], rfl, h, by simp⟩
  | cons m msgs ih =>
    obtain ⟨ki, clock, msg⟩ := m
    obtain ⟨tm₁, rel₁, h₁⟩ : ∃ tm₁ rel₁, handleTriggerGc ki clock tm msg = .ok (tm₁, rel₁) :=
      ⟨_, _, handleTriggerGc_eq ki clock tm msg⟩
    obtain ⟨tm₂, rel₂, h₂, hk₂, hp₂⟩ := ih tm₁ (handleTriggerGc_keyed h₁)
    refine ⟨tm₂, rel₁ ++ rel₂, by simp [gcRun, h₁, h₂], hk₂, ?_⟩
    calc allTunnels tm₂.tunnels ++ (rel₁ ++ rel₂).map Release.tunnel
        ~ (allTunnels tm₂.tunnels ++ rel₂.map Release.tunnel) ++ rel₁.map Release.tunnel := by
          simpa using List.perm_append_comm.append_left _
      _ ~ allTunnels tm₁.tunnels ++ rel₁.map Release.tunnel := hp₂.append_right _
      _ ~ allTunnels tm.tunnels := handleTriggerGc_perm h₁

/-- Two collections of one neighbour's two tunnels: the first takes `wg0`, which babel has
    down; the second, later, `wg1`, silent by then. -/
theorem gcRun_keyed_sample :
    let tm : TunnelManager Nat :=
      ⟨[⟨⟨1⟩, "wg0", 0, 90, none⟩, ⟨⟨1⟩, "wg1", 0, 80, none⟩].foldl addTunnel ∅⟩
    let ki : KernelInterface := ⟨fun _ => .ok []⟩
    let msgs := [(ki, ⟨100, 100⟩, ⟨50, 50, [⟨"wg0", false⟩]⟩), (ki, ⟨200, 200⟩, ⟨50, 50, []⟩)]
    tm.tunnels.Keyed ∧ ∃ tm' releases, gcRun msgs tm = .ok (tm', releases) ∧
      tm'.tunnels.Keyed ∧
      allTunnels tm'.tunnels ++ releases.map Release.tunnel ~ allTunnels tm.tunnels := by
  intro tm ki msgs
  exact ⟨keyed_foldl_addTunnel _, gcRun_keyed msgs tm (keyed_foldl_addTunnel _)⟩

end Tunnels
end Rita
