import Rita.Basic

/-!
# `Rita/Exit/Loop.lean` — the exit's billing loop, its cache and its watchdog

`rita_exit/src/rita_loop/mod.rs`. Every tick of `rita_exit_loop` opens a database connection,
resets the IPv6 assignments if the settings ask for it, loads the clients, and hands them to the
collaborators that bill, set up, clean up, check and enforce them. What the tick keeps for the next
one is the `RitaExitCache`: the tunnels `setup_clients` last set up, the debts last enforced, and
whether a setup ever succeeded. The collaborators are oracles here; those whose errors the loop
only logs, and whose effects are on the database or the kernel (`bill`, `cleanup_exit_clients`,
`check_regions`), are left out.

A tick panics exactly when it cannot reach the database and no setup has succeeded yet, and the
panic names the database it tried (`ritaExitLoop_error_iff`); it changes the settings only by
clearing a recompute request once both IPv6 resets succeeded (`ritaExitLoop_settings`). So once a setup has succeeded, no run
of ticks panics, whatever the database does (`runTicks_ok_of_setup`). `start_rita_exit_loop`'s
watchdog restarts a panicked thread with a fresh cache, forgetting the setup, and asks the system
to stop with code 121 when the panic comes within 60 s of the last restart; such a request is
never withdrawn (`exitProcess_stop_of_first_tick`), and after a successful setup the watchdog
never acts at all (`exitProcess_of_setup`). Before any of this, `setup_exit_wg_tunnel` sets up the
exit tunnels; it returns exactly when the settings and the kernel allow (`setupExitWgTunnel_ok_iff`).

Both threads call `AsyncSystem::current()` on that path: the loop thread just before its panic,
the watchdog just before `stop_with_code(121)`. They are plain `std::thread`s, and whether the
actix runtime (outside these sources) has a system registered there decides whether that call
returns; the model takes it to return, so the loop panics with its own message and the
watchdog's stop request stands.
-/

set_option autoImplicit false

namespace Rita
namespace Exit

/-! ## 1. One tick -/

/-- A WireGuard public key, `althea_types::WgKey`. -/
structure WgKey where
  bytes : BitVec 256
  deriving DecidableEq

section Types

variable (Client ExitClient DebtEntry : Type)

/-- `ExitClientSetupStates`: what `setup_clients` takes from the last tick and returns for the
    next. -/
structure ExitClientSetupStates where
  oldClients : List ExitClient
  wgExitClients : List WgKey
  wgExitV2Clients : List WgKey

/-- `RitaExitCache`; its hash sets are lists, which the loop only passes on. -/
structure RitaExitCache where
  wgClients : List ExitClient
  debtActions : List DebtEntry
  successfulSetup : Bool
  wgExitClients : List WgKey
  wgExitV2Clients : List WgKey

/-- What one tick meets: the database, and the collaborators whose results it keeps. -/
structure ExitTick where
  /-- `get_database_connection()`. -/
  getDatabaseConnection : Except String Unit
  /-- `diesel::update(clients).set(internet_ipv6.eq(""))`. -/
  resetClientsIpv6 : Except String Unit
  /-- `diesel::delete(assigned_ips)`. -/
  deleteAssignedIps : Except String Unit
  /-- `clients.load::<models::Client>(&conn)`. -/
  loadClients : Except String (List Client)
  setupClients : List Client → ExitClientSetupStates ExitClient →
    Except String (ExitClientSetupStates ExitClient)
  enforceExitClients : List Client → List DebtEntry → Except String (List DebtEntry)

end Types

/-- The exit settings the loop reads and writes. -/
structure RitaExitSettings where
  dbUri : String
  recomputeIpv6 : Bool

variable {Client ExitClient DebtEntry : Type}

/-- `RitaExitCache::default()`. -/
def RitaExitCache.default : RitaExitCache ExitClient DebtEntry := ⟨[], [], false, [], []⟩

/-- `recompute_ipv6_if_needed(&conn)`: when the settings ask for it, reset both IPv6 tables and
    clear the request; an error of either reset returns before the request is cleared. -/
def recomputeIpv6IfNeeded (t : ExitTick Client ExitClient DebtEntry) (s : RitaExitSettings) :
    Except String RitaExitSettings :=
  if s.recomputeIpv6 then do
    t.resetClientsIpv6
    t.deleteAssignedIps
    pure { s with recomputeIpv6 := false }
  else pure s

/-- The panic of a tick that cannot reach the database before any setup succeeded. -/
def firstSetupPanic (dbUri : String) : String :=
  "Failed to get database connection to " ++ dbUri ++ " on first setup loop, the exit can not " ++
    "operate without the ability to get the clients list from the database exiting"

/-- The cache after `setup_clients` answered. -/
def RitaExitCache.afterSetup (cache : RitaExitCache ExitClient DebtEntry)
    (r : Except String (ExitClientSetupStates ExitClient)) : RitaExitCache ExitClient DebtEntry :=
  match r with
  | .ok st => { cache with successfulSetup := true, wgClients := st.oldClients,
                           wgExitClients := st.wgExitClients, wgExitV2Clients := st.wgExitV2Clients }
  | .error _ => cache

/-- The cache after `enforce_exit_clients` answered. -/
def RitaExitCache.afterEnforce (cache : RitaExitCache ExitClient DebtEntry)
    (r : Except String (List DebtEntry)) : RitaExitCache ExitClient DebtEntry :=
  match r with
  | .ok d => { cache with debtActions := d }
  | .error _ => cache

/-- `rita_exit_loop(rita_exit_cache)`: one tick, over the settings; its error is the panic. -/
def ritaExitLoop (t : ExitTick Client ExitClient DebtEntry) (s : RitaExitSettings)
    (cache : RitaExitCache ExitClient DebtEntry) :
    Except String (RitaExitSettings × RitaExitCache ExitClient DebtEntry) :=
  match t.getDatabaseConnection with
  | .ok () =>
    let s := match recomputeIpv6IfNeeded t s with
      | .ok s' => s'
      | .error _ => s
    match t.loadClients with
    | .ok clientsList =>
      let cache := cache.afterSetup (t.setupClients clientsList
        ⟨cache.wgClients, cache.wgExitClients, cache.wgExitV2Clients⟩)
      .ok (s, cache.afterEnforce (t.enforceExitClients clientsList cache.debtActions))
    | .error _ => .ok (s, cache)
  | .error _ =>
    if !cache.successfulSetup then .error (firstSetupPanic s.dbUri) else .ok (s, cache)

/-- Ticks one after another in one thread, up to the first panic. -/
def runTicks : List (ExitTick Client ExitClient DebtEntry) → RitaExitSettings →
    RitaExitCache ExitClient DebtEntry →
    Except String (RitaExitSettings × RitaExitCache ExitClient DebtEntry)
  | [], s, cache => .ok (s, cache)
  | t :: ts, s, cache => do
    let (s, cache) ← ritaExitLoop t s cache
    runTicks ts s cache

/-! ## 2. When a tick panics -/

variable {t : ExitTick Client ExitClient DebtEntry} {s : RitaExitSettings}
  {cache : RitaExitCache ExitClient DebtEntry}

theorem RitaExitCache.afterSetup_successfulSetup {r : Except String (ExitClientSetupStates ExitClient)} :
    cache.successfulSetup = true → (cache.afterSetup r).successfulSetup = true := by
  cases r <;> simp [RitaExitCache.afterSetup]

theorem RitaExitCache.afterEnforce_successfulSetup {r : Except String (List DebtEntry)} :
    (cache.afterEnforce r).successfulSetup = cache.successfulSetup := by
  cases r <;> rfl

/-- A recompute request is cleared only when both resets succeed. -/
theorem recomputeIpv6IfNeeded_ok {s' : RitaExitSettings} (h : recomputeIpv6IfNeeded t s = .ok s') :
    s' = s ∨ (s.recomputeIpv6 = true ∧ s' = { s with recomputeIpv6 := false } ∧
      t.resetClientsIpv6 = .ok () ∧ t.deleteAssignedIps = .ok ()) := by
  unfold recomputeIpv6IfNeeded at h
  split_ifs at h with hr
  · obtain ⟨⟨⟩, h1, h⟩ := bind_eq_ok.1 h
    obtain ⟨⟨⟩, h2, h⟩ := bind_eq_ok.1 h
    cases h
    exact .inr ⟨hr, rfl, h1, h2⟩
  · cases h
    exact .inl rfl

/-- **A tick changes the settings only by clearing a recompute request**, and only when the
    database answered and both resets succeeded. -/
theorem ritaExitLoop_settings {s' : RitaExitSettings} {cache' : RitaExitCache ExitClient DebtEntry}
    (h : ritaExitLoop t s cache = .ok (s', cache')) :
    s' = s ∨ (s.recomputeIpv6 = true ∧ s' = { s with recomputeIpv6 := false } ∧
      t.getDatabaseConnection = .ok () ∧ t.resetClientsIpv6 = .ok () ∧ t.deleteAssignedIps = .ok ()) := by
  unfold ritaExitLoop at h
  cases hc : t.getDatabaseConnection with
  | ok =>
    rw [hc] at h
    have hs' : s' = match recomputeIpv6IfNeeded t s with | .ok s' => s' | .error _ => s := by
      cases hl : t.loadClients <;> rw [hl] at h <;> exact (Prod.mk.inj (Except.ok.inj h)).1.symm
    cases hr : recomputeIpv6IfNeeded t s with
    | error => rw [hr] at hs'; exact .inl hs'
    | ok s₁ =>
      rw [hr] at hs'
      subst hs'
      rcases recomputeIpv6IfNeeded_ok hr with h' | ⟨h1, h2, h3, h4⟩
      · exact .inl h'
      · exact .inr ⟨h1, h2, rfl, h3, h4⟩
  | error =>
    rw [hc] at h
    dsimp only at h
    split at h
    · cases h
    · cases h; exact .inl rfl

/-- A tick that panics could not reach the database before any setup succeeded, and its panic
    names the database. -/
theorem ritaExitLoop_error {msg : String} (h : ritaExitLoop t s cache = .error msg) :
    (∃ e, t.getDatabaseConnection = .error e) ∧ cache.successfulSetup = false ∧
      msg = firstSetupPanic s.dbUri := by
  revert h
  unfold ritaExitLoop
  cases t.getDatabaseConnection with
  | ok => cases t.loadClients <;> simp
  | error e => cases cache.successfulSetup <;> simp [eq_comm]

/-- A tick that cannot reach the database before any setup succeeded panics. -/
theorem ritaExitLoop_db_down {e : String} (hdb : t.getDatabaseConnection = .error e)
    (hs : cache.successfulSetup = false) :
    ritaExitLoop t s cache = .error (firstSetupPanic s.dbUri) := by
  simp [ritaExitLoop, hdb, hs]

/-- **A tick panics exactly when it cannot reach the database and no setup has succeeded yet**;
    the panic names the database. -/
theorem ritaExitLoop_error_iff {msg : String} :
    ritaExitLoop t s cache = .error msg ↔
      (∃ e, t.getDatabaseConnection = .error e) ∧ cache.successfulSetup = false ∧
        msg = firstSetupPanic s.dbUri :=
  ⟨ritaExitLoop_error, fun ⟨⟨_, hdb⟩, hs, hmsg⟩ => hmsg ▸ ritaExitLoop_db_down hdb hs⟩

/-- A tick that does not panic keeps a successful setup. -/
theorem ritaExitLoop_successfulSetup {s' : RitaExitSettings}
    {cache' : RitaExitCache ExitClient DebtEntry} (h : ritaExitLoop t s cache = .ok (s', cache'))
    (hs : cache.successfulSetup = true) : cache'.successfulSetup = true := by
  unfold ritaExitLoop at h
  cases hc : t.getDatabaseConnection with
  | ok =>
    rw [hc] at h
    cases hl : t.loadClients with
    | ok =>
      simp only [hl, Except.ok.injEq, Prod.mk.injEq] at h
      rw [← h.2, RitaExitCache.afterEnforce_successfulSetup]
      exact RitaExitCache.afterSetup_successfulSetup hs
    | error => simp only [hl, Except.ok.injEq, Prod.mk.injEq] at h; rw [← h.2]; exact hs
  | error =>
    simp only [hc, hs, Bool.not_true, Bool.false_eq_true, if_false, Except.ok.injEq,
      Prod.mk.injEq] at h
    rw [← h.2]
    exact hs

/-- **Once a setup has succeeded, no run of ticks panics**, whatever the database does; the
    setup stays recorded. -/
theorem runTicks_ok_of_setup (ts : List (ExitTick Client ExitClient DebtEntry))
    (hs : cache.successfulSetup = true) :
    ∃ s' cache', runTicks ts s cache = .ok (s', cache') ∧ cache'.successfulSetup = true := by
  induction ts generalizing s cache with
  | nil => exact ⟨s, cache, rfl, hs⟩
  | cons t ts ih =>
    cases h : ritaExitLoop t s cache with
    | error msg =>
      exact absurd (ritaExitLoop_error h).2.1 (by rw [hs]; decide)
    | ok p => simpa [runTicks, h] using ih (ritaExitLoop_successfulSetup h hs)

/-- The database refuses two ticks after a setup succeeded: neither panics. -/
theorem runTicks_db_down_after_setup :
    let cache : RitaExitCache Unit Unit := ⟨[], [], true, [], []⟩
    let down : ExitTick Unit Unit Unit :=
      ⟨.error "connection refused", .ok (), .ok (), .ok [], fun _ st => .ok st, fun _ d => .ok d⟩
    cache.successfulSetup = true ∧ ∃ s' cache',
      runTicks [down, down] ⟨"postgres://exit", false⟩ cache = .ok (s', cache') ∧
        cache'.successfulSetup = true := by
  dsimp only
  exact ⟨rfl, runTicks_ok_of_setup _ rfl⟩

/-! ## 3. The watchdog -/

/-- What `start_rita_exit_loop`'s watchdog keeps: when it last restarted the loop thread, and
    whether it has called `sys.stop_with_code(121)`. -/
structure Watchdog where
  lastRestart : Nat
  stopRequested : Bool

/-- The exit process: ticks at the given times (in seconds), the watchdog restarting the loop
    thread with a fresh cache after each panic, and asking to stop when the panic comes within
    60 s of the last restart. -/
def exitProcess : List (Nat × ExitTick Client ExitClient DebtEntry) → RitaExitSettings →
    RitaExitCache ExitClient DebtEntry → Watchdog → Watchdog
  | [], _, _, wd => wd
  | (now, t) :: rest, s, cache, wd =>
    match ritaExitLoop t s cache with
    | .ok (s, cache) => exitProcess rest s cache wd
    | .error _ =>
      exitProcess rest s RitaExitCache.default
        ⟨now, wd.stopRequested || decide (now - wd.lastRestart < 60)⟩

/-- A stop request is never withdrawn. -/
theorem exitProcess_stopRequested (ticks : List (Nat × ExitTick Client ExitClient DebtEntry))
    {wd : Watchdog} (h : wd.stopRequested = true) :
    (exitProcess ticks s cache wd).stopRequested = true := by
  induction ticks generalizing s cache wd with
  | nil => exact h
  | cons tick rest ih =>
    obtain ⟨now, t⟩ := tick
    simp only [exitProcess]
    split
    · exact ih h
    · exact ih (by simp [h])

/-- **An exit that cannot reach its database on its first tick, within 60 s of starting, asks to
    stop with code 121**, whatever happens after. -/
theorem exitProcess_stop_of_first_tick {start now : Nat} {e : String}
    (rest : List (Nat × ExitTick Client ExitClient DebtEntry))
    (hdb : t.getDatabaseConnection = .error e) (hnow : now < start + 60) :
    (exitProcess ((now, t) :: rest) s RitaExitCache.default ⟨start, false⟩).stopRequested = true := by
  have hpanic : ritaExitLoop t s RitaExitCache.default = .error (firstSetupPanic s.dbUri) :=
    ritaExitLoop_db_down hdb rfl
  simp only [exitProcess, hpanic]
  exact exitProcess_stopRequested rest (by simp; omega)

/-- **Once a setup has succeeded, the watchdog never restarts the loop thread and never asks to
    stop**, whatever the database does: it stays as it was. -/
theorem exitProcess_of_setup (ticks : List (Nat × ExitTick Client ExitClient DebtEntry))
    {wd : Watchdog} (hs : cache.successfulSetup = true) : exitProcess ticks s cache wd = wd := by
  induction ticks generalizing s cache with
  | nil => rfl
  | cons tick rest ih =>
    obtain ⟨now, t⟩ := tick
    cases h : ritaExitLoop t s cache with
    | error msg => simp [(ritaExitLoop_error h).2.1] at hs
    | ok r =>
      simp only [exitProcess, h]
      exact ih (ritaExitLoop_successfulSetup h hs)

/-- After a setup succeeded, the database refuses two ticks 5 s apart: the watchdog, started at 0,
    neither restarts the thread nor asks to stop. -/
theorem exitProcess_db_down_after_setup :
    let cache : RitaExitCache Unit Unit := ⟨[], [], true, [], []⟩
    let down : ExitTick Unit Unit Unit :=
      ⟨.error "connection refused", .ok (), .ok (), .ok [], fun _ st => .ok st, fun _ d => .ok d⟩
    cache.successfulSetup = true ∧
      exitProcess [(5, down), (10, down)] ⟨"postgres://exit", false⟩ cache ⟨0, false⟩ =
        ⟨0, false⟩ := by
  dsimp only
  exact ⟨rfl, exitProcess_of_setup _ rfl⟩

/-! ## 4. Setting up the exit tunnels

`start_rita_exit_loop` first runs `setup_exit_wg_tunnel`, once, before the watchdog and the loop
thread start. It returns exactly when the settings name a mesh address and an external interface
and the kernel sets up both exit tunnels and their NAT; what `setup_wg_if_named` answers never
matters, and the `external_nic.unwrap()`s of the NAT calls never panic
(`setupExitWgTunnel_ok_iff`). -/

/-- The exit settings `setup_exit_wg_tunnel` reads. `subnet` is the exit's IPv6 subnet, as the
    address and prefix length it hands on. -/
structure ExitSetupSettings where
  ownInternalIp : Ipv4Addr
  netmask : UInt8
  meshIp : Option IpAddr
  externalNic : Option String
  enableEnforcement : Bool
  subnet : Option (BitVec 128 × UInt8)

/-- A call `setup_exit_wg_tunnel` makes on the kernel interface. -/
inductive ExitSetupCall
  | setupWgIfNamed (name : String)
  | oneTimeExitSetup (localIp : Option (IpAddr × UInt8)) (externalV6 : Option (BitVec 128 × UInt8))
      (meshIp : IpAddr) (exNic : String) (name : String) (enforcementEnabled : Bool)
  | setupNat (nic : String) (name : String)

/-- `setup_exit_wg_tunnel()`: the kernel calls it makes, in order, given the kernel's answer to
    each. The answers of `setup_wg_if_named` are only logged. -/
def setupExitWgTunnel (ki : ExitSetupCall → Except String Unit) (s : ExitSetupSettings) :
    Except Panic (List ExitSetupCall) := do
  let localIp : IpAddr := .v4 s.ownInternalIp
  let meshIp ← expect s.meshIp "Expected a mesh ip for this exit"
  let exNic ← expect s.externalNic "Expected an external nic here"
  let legacy := ExitSetupCall.oneTimeExitSetup none none meshIp exNic "wg_exit" s.enableEnforcement
  expect (ki legacy).toOption "Failed to setup wg_exit!"
  let v2 := ExitSetupCall.oneTimeExitSetup (some (localIp, s.netmask)) s.subnet meshIp exNic
    "wg_exit_v2" s.enableEnforcement
  expect (ki v2).toOption "Failed to setup wg_exit_v2!"
  let nat := ExitSetupCall.setupNat (← unwrap s.externalNic) "wg_exit"
  unwrapResult (ki nat)
  let natV2 := ExitSetupCall.setupNat (← unwrap s.externalNic) "wg_exit_v2"
  unwrapResult (ki natV2)
  pure [.setupWgIfNamed "wg_exit", .setupWgIfNamed "wg_exit_v2", legacy, v2, nat, natV2]

/-- `start_rita_exit_loop()`: the exit tunnels set up, then the loop thread under its watchdog,
    started at `start`. -/
def startRitaExitLoop (ki : ExitSetupCall → Except String Unit) (setup : ExitSetupSettings)
    (start : Nat) (ticks : List (Nat × ExitTick Client ExitClient DebtEntry))
    (s : RitaExitSettings) : Except Panic (List ExitSetupCall × Watchdog) := do
  let calls ← setupExitWgTunnel ki setup
  pure (calls, exitProcess ticks s RitaExitCache.default ⟨start, false⟩)

/-- The four calls that set up the exit tunnels and their NAT: the legacy `wg_exit` without a
    local address or IPv6 subnet, `wg_exit_v2` with them, then NAT for each. -/
def exitTunnelSetups (s : ExitSetupSettings) (meshIp : IpAddr) (exNic : String) :
    List ExitSetupCall :=
  [.oneTimeExitSetup none none meshIp exNic "wg_exit" s.enableEnforcement,
    .oneTimeExitSetup (some (.v4 s.ownInternalIp, s.netmask)) s.subnet meshIp exNic "wg_exit_v2"
      s.enableEnforcement,
    .setupNat exNic "wg_exit", .setupNat exNic "wg_exit_v2"]

theorem expect_toOption_bind {ε β : Type} {r : Except ε Unit} {msg : String}
    {f : Unit → Except Panic β} {b : β} :
    (expect r.toOption msg >>= f) = .ok b ↔ r = .ok () ∧ f () = .ok b := by
  rcases r with e | ⟨⟩ <;> simp [Except.toOption, expect]

theorem expect_toOption_map {ε β : Type} {r : Except ε Unit} {msg : String} {f : Unit → β}
    {b : β} : (f <$> expect r.toOption msg) = .ok b ↔ r = .ok () ∧ f () = b := by
  rcases r with e | ⟨⟩ <;> simp [Except.toOption, expect, Functor.map, Except.map]

/-- **`setup_exit_wg_tunnel` returns exactly when the settings name a mesh address and an
    external interface and the kernel makes the four tunnel and NAT setups**; it has then made
    exactly these calls, after the two `setup_wg_if_named`s, whatever those answered. -/
theorem setupExitWgTunnel_ok_iff {ki : ExitSetupCall → Except String Unit}
    {s : ExitSetupSettings} {calls : List ExitSetupCall} :
    setupExitWgTunnel ki s = .ok calls ↔
      ∃ meshIp exNic, s.meshIp = some meshIp ∧ s.externalNic = some exNic ∧
        (∀ c ∈ exitTunnelSetups s meshIp exNic, ki c = .ok ()) ∧
        calls = .setupWgIfNamed "wg_exit" :: .setupWgIfNamed "wg_exit_v2" ::
          exitTunnelSetups s meshIp exNic := by
  rcases hm : s.meshIp with _ | meshIp <;> rcases hn : s.externalNic with _ | exNic <;>
    simp [setupExitWgTunnel, hm, hn, exitTunnelSetups, unwrapResult]
  simp only [expect_toOption_bind, expect_toOption_map, and_assoc, @eq_comm _ calls]

end Exit
end Rita
