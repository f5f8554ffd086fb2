import Rita.Basic
import Mathlib.Data.Nat.Find

/-!
# `Rita/Forwarding/Discovery.lean` — finding the antenna

`setup_networking`, `find_antenna` and `get_local_ip` (`antenna_forwarding_client/src/lib.rs`).
Before the relay can dial the antenna, the client has to find out which of its interfaces
the antenna sits behind. `find_antenna` picks a test address in the antenna's /24, then for
each candidate interface in the set's iteration order: clears its old route and test
addresses, adds the test address to the interface, adds a host route to the antenna through
it, and pings. The first interface whose ping comes back without drops is the answer.

The world is the kernel and the pinger: `Kernel` says what each `ip` command and each pinger
call returns at each event, so quantifying over `Kernel` is quantifying over every outcome
of every command. Discovery keeps a log of the commands it ran and the pings it sent, with
what came back; the theorems read the log.

The route check is the subject of two results. The source bails out when the route add's
`status.code()` is 512, but `ExitStatus::code` is one byte (`ExitStatus.code_lt`): the check
never fires, and discovery gives up only after trying every interface or when the pinger
cannot be configured (`find_antenna_error`). So a route add that fails with "File exists"
(exit code 2, raw status 512) neither aborts discovery (`route_conflict_continues`) nor stops
discovery from reporting that interface when a ping gets through some other route
(`route_failure_reported_found`). With every command succeeding, discovery is complete and
order-independent (`find_antenna_complete`). Discovery is for IPv4 antennas: `get_local_ip`
has no arm for IPv6 but `unimplemented!()`.
-/

set_option autoImplicit false

namespace Rita
namespace Forwarding

/-! ## 1. `get_local_ip` -/

/-- `rand::thread_rng()`, as the bytes successive `gen()` calls return. The generator
    eventually draws a byte other than any given one — with probability one for the real
    generator; the model keeps it as the generator's invariant, which is what makes
    `get_local_ip`'s rejection loop end. -/
structure ThreadRng where
  gen : Nat → UInt8
  avoids : ∀ b, ∃ n, gen n ≠ b

/-- `get_local_ip(target_ip)`: the antenna's address with the last octet replaced by the
    first draw that differs from it (`while new_ip == bytes[3] { new_ip = rng.gen() }`);
    `unimplemented!()` for IPv6. -/
def getLocalIp (rng : ThreadRng) : IpAddr → Except Panic IpAddr
  | .v4 address => .ok (.v4 { address with o3 := rng.gen (Nat.find (rng.avoids address.o3)) })
  | .v6 _ => .error .unimplemented

/-- **The test address is in the antenna's /24 and is not the antenna's.** -/
theorem getLocalIp_v4 (rng : ThreadRng) (a : Ipv4Addr) :
    ∃ b : Ipv4Addr, getLocalIp rng (.v4 a) = .ok (.v4 b) ∧
      b.o0 = a.o0 ∧ b.o1 = a.o1 ∧ b.o2 = a.o2 ∧ b.o3 ≠ a.o3 :=
  ⟨_, rfl, rfl, rfl, rfl, Nat.find_spec (rng.avoids a.o3)⟩

/-! ## 2. The world and `find_antenna` -/

/-- The `ip` commands `find_antenna` runs, with the addresses and interfaces they name:
    `ip route del <ip>/32`, `ip addr del <our_ip>/32 dev <iface>`,
    `ip addr add <our_ip>/32 dev <iface>`, `ip route add <ip>/32 dev <iface> src <our_ip>`. -/
inductive Command
  | routeDel (ip : IpAddr)
  | addrDel (ip : IpAddr) (dev : String)
  | addrAdd (ip : IpAddr) (dev : String)
  | routeAdd (ip : IpAddr) (dev : String) (src : IpAddr)
  deriving DecidableEq, Repr

/-- A ping response; `dropped` is the only field the source reads. -/
structure PingItem where
  dropped : Nat
  deriving DecidableEq, Repr

/-- Discovery's world, by event: what `KI.run_command` returns for a command, whether the
    pinger takes its timeout and its host, and the first response (`response.next()`) of
    `pinger.send()` while the host route through a given interface is the one just added. -/
structure Kernel where
  run : Nat → Command → Except String Output
  setTimeout : Nat → Except String Unit
  addHost : Nat → Except String Unit
  send : Nat → String → Except String (Option PingItem)

/-- What discovery did, in order. -/
inductive Probe
  | command (c : Command) (result : Except String Output)
  | ping (iface : String) (result : Except String (Option PingItem))

/-- Discovery's state: the next event and the log. -/
structure Disc where
  tick : Nat
  log : List Probe

/-- The interfaces pinged, in order. -/
def Disc.pinged (d : Disc) : List String :=
  d.log.filterMap fun p => match p with
    | .ping iface _ => some iface
    | .command .. => none

/-- The interfaces discovery tried: those it added a host route through, in order. -/
def Disc.tried (d : Disc) : List String :=
  d.log.filterMap fun p => match p with
    | .command (.routeAdd _ iface _) _ => some iface
    | _ => none

/-- The interfaces whose route add ran, whatever its exit status, in order. -/
def Disc.routed (d : Disc) : List String :=
  d.log.filterMap fun p => match p with
    | .command (.routeAdd _ iface _) (.ok _) => some iface
    | _ => none

/-- `HashSet<String>` of candidate interfaces, as its iteration order. -/
structure IfaceSet where
  list : List String
  nodup : list.Nodup

/-- How one turn of `for iface in interfaces` ends: on to the next interface, `return
    Ok(iface)`, or a return with an error. -/
inductive Next
  | next
  | found
  | bail (e : String)
  deriving DecidableEq, Repr

namespace Disc

variable (w : Kernel)

/-- `KI.run_command(..)`: one event, logged. -/
def runCommand (c : Command) (d : Disc) : Except String Output × Disc :=
  (w.run d.tick c, ⟨d.tick + 1, d.log ++ [.command c (w.run d.tick c)]⟩)

/-- The pinger part of a turn: `set_timeout(..)?` and `add_host(..)?` return their error
    from `find_antenna`; a failed `send()` moves on; a first response with no drops is the
    answer. -/
def pingThrough (iface : String) (d : Disc) : Next × Disc :=
  match w.setTimeout d.tick with
  | .error e => (.bail e, { d with tick := d.tick + 1 })
  | .ok () =>
    match w.addHost (d.tick + 1) with
    | .error e => (.bail e, { d with tick := d.tick + 2 })
    | .ok () =>
      let d' : Disc := ⟨d.tick + 3, d.log ++ [.ping iface (w.send (d.tick + 2) iface)]⟩
      match w.send (d.tick + 2) iface with
      | .ok (some res) => if res.dropped = 0 then (.found, d') else (.next, d')
      | _ => (.next, d')

/-- The start of a turn, whose results are not looked at: the antenna's host route deleted
    (on every interface at once), the test address deleted from every interface, then added
    to `iface`. -/
def prepare (ip ourIp : IpAddr) (interfaces : List String) (iface : String) (d : Disc) : Disc :=
  let d := (runCommand w (.routeDel ip) d).2
  let d := interfaces.foldl (fun d i => (runCommand w (.addrDel ourIp i) d).2) d
  (runCommand w (.addrAdd ourIp iface) d).2

/-- One turn of `find_antenna`'s loop, for `iface`: the test address moved to it, the host
    route through it, and the ping. A route add that does not run moves on; one whose exit
    code is 512 bails out. -/
def probe (ip ourIp : IpAddr) (interfaces : List String) (iface : String) (d : Disc) :
    Next × Disc :=
  match runCommand w (.routeAdd ip iface ourIp) (prepare w ip ourIp interfaces iface d) with
  | (.error _, d) => (.next, d)
  | (.ok r, d) =>
    if r.status.code = some 512 then (.bail "IP setup failed", d) else pingThrough w iface d

/-- `for iface in interfaces { .. }; Err(format_err!("Failed to find Antenna!"))`. -/
def findLoop (ip ourIp : IpAddr) (interfaces : List String) :
    List String → Disc → Except String String × Disc
  | [], d => (.error "Failed to find Antenna!", d)
  | iface :: rest, d =>
    match probe w ip ourIp interfaces iface d with
    | (.next, d) => findLoop ip ourIp interfaces rest d
    | (.found, d) => (.ok iface, d)
    | (.bail e, d) => (.error e, d)

end Disc

/-- `find_antenna(ip, interfaces)`: the interface the antenna answered on, or an error, with
    the log; a panic if `get_local_ip` panics. -/
def findAntenna (w : Kernel) (rng : ThreadRng) (ip : IpAddr) (interfaces : IfaceSet) :
    Except Panic (Except String String × Disc) := do
  let ourIp ← getLocalIp rng ip
  pure (Disc.findLoop w ip ourIp interfaces.list interfaces.list ⟨0, []⟩)

/-- `setup_networking(antenna_ip, antenna_port, interfaces)`: the antenna's socket address
    once it was found. -/
def setupNetworking (w : Kernel) (rng : ThreadRng) (antennaIp : IpAddr) (antennaPort : UInt16)
    (interfaces : IfaceSet) : Except Panic (Except String SocketAddr × Disc) := do
  let (r, d) ← findAntenna w rng antennaIp interfaces
  pure (r.map fun _ => ⟨antennaIp, antennaPort⟩, d)

/-! ## 3. One turn -/

/-- Whether a ping got an answer with no drops. -/
def pingAnswered : Except String (Option PingItem) → Bool
  | .ok (some res) => res.dropped = 0
  | _ => false

namespace Disc

variable {w : Kernel} {ip ourIp : IpAddr} {interfaces : List String} {iface : String} {d d' : Disc}
  {x : Next}

/-- A view of the log that ignores every command but the route add is left as it was by the
    start of a turn. -/
theorem prepare_view (f : Probe → Option String)
    (hf : ∀ c r, (∀ i ip' src, c ≠ .routeAdd ip' i src) → f (.command c r) = none) :
    (prepare w ip ourIp interfaces iface d).log.filterMap f = d.log.filterMap f := by
  have hstep : ∀ c (d : Disc), (∀ i ip' src, c ≠ .routeAdd ip' i src) →
      (runCommand w c d).2.log.filterMap f = d.log.filterMap f := fun c d hc => by
    simp [runCommand, hf c _ hc]
  have hfold : ∀ (is : List String) (d : Disc),
      (is.foldl (fun d i => (runCommand w (.addrDel ourIp i) d).2) d).log.filterMap f =
        d.log.filterMap f := by
    intro is
    induction is with
    | nil => intro d; rfl
    | cons i is ih => intro d; rw [List.foldl_cons, ih, hstep _ _ fun _ _ _ h => by cases h]
  rw [prepare, hstep (.addrAdd ourIp iface) _ (fun _ _ _ h => by cases h), hfold,
    hstep (.routeDel ip) _ (fun _ _ _ h => by cases h)]

theorem prepare_pinged : (prepare w ip ourIp interfaces iface d).pinged = d.pinged :=
  prepare_view _ fun _ _ _ => rfl

theorem prepare_tried : (prepare w ip ourIp interfaces iface d).tried = d.tried :=
  prepare_view _ fun c _ hc => by
    cases c with
    | routeAdd ip' i src => exact absurd rfl (hc i ip' src)
    | _ => rfl

theorem prepare_routed : (prepare w ip ourIp interfaces iface d).routed = d.routed :=
  prepare_view _ fun c r hc => by
    cases c with
    | routeAdd ip' i src => exact absurd rfl (hc i ip' src)
    | _ => cases r <;> rfl

/-- With the pinger configured, the ping decides the turn, and is logged. -/
theorem pingThrough_ok (ht : w.setTimeout d.tick = .ok ()) (ha : w.addHost (d.tick + 1) = .ok ()) :
    pingThrough w iface d =
      (if pingAnswered (w.send (d.tick + 2) iface) then .found else .next,
        ⟨d.tick + 3, d.log ++ [.ping iface (w.send (d.tick + 2) iface)]⟩) := by
  simp only [pingThrough, ht, ha]
  rcases w.send (d.tick + 2) iface with e | _ | res
  · rfl
  · rfl
  · by_cases h0 : res.dropped = 0 <;> simp [pingAnswered, h0]

/-- The pinger's configuration is the only way a ping turn returns an error. -/
theorem pingThrough_bail {e : String} (h : pingThrough w iface d = (.bail e, d')) :
    ∃ n, w.setTimeout n = .error e ∨ w.addHost n = .error e := by
  unfold pingThrough at h
  split at h
  · cases h; exact ⟨_, .inl ‹_›⟩
  · split at h
    · cases h; exact ⟨_, .inr ‹_›⟩
    · split at h
      · split at h <;> cases h
      · cases h

/-- A ping turn that moves on has logged its ping. -/
theorem pingThrough_next (h : pingThrough w iface d = (.next, d')) :
    ∃ res, d'.log = d.log ++ [.ping iface res] := by
  unfold pingThrough at h
  split at h
  · cases h
  split at h
  · cases h
  split at h
  · split at h <;> cases h
    exact ⟨_, rfl⟩
  · cases h
    exact ⟨_, rfl⟩

/-- A turn that moves on has tried `iface`, and pinged through it exactly when its route add
    ran. -/
theorem probe_next (h : probe w ip ourIp interfaces iface d = (.next, d')) :
    d'.tried = d.tried ++ [iface] ∧ ∃ l, d'.routed = d.routed ++ l ∧ d'.pinged = d.pinged ++ l := by
  have ht := @prepare_tried w ip ourIp interfaces iface d
  have hr := @prepare_routed w ip ourIp interfaces iface d
  have hp := @prepare_pinged w ip ourIp interfaces iface d
  cases hrun : w.run (prepare w ip ourIp interfaces iface d).tick (.routeAdd ip iface ourIp) with
  | error e =>
    simp only [probe, runCommand, hrun] at h
    cases h
    simp only [tried, routed, pinged, List.filterMap_append] at ht hr hp ⊢
    exact ⟨by simp [ht], [], by simp [hr], by simp [hp]⟩
  | ok out =>
    simp only [probe, runCommand, hrun] at h
    split at h
    · cases h
    obtain ⟨res, hl⟩ := pingThrough_next h
    simp only [tried, routed, pinged, hl, List.filterMap_append] at ht hr hp ⊢
    exact ⟨by simp [ht], [iface], by simp [hr], by simp [hp]⟩

/-- The route add's exit code is never 512, so a turn returns an error only when the pinger
    cannot be configured. -/
theorem probe_bail {e : String} (h : probe w ip ourIp interfaces iface d = (.bail e, d')) :
    ∃ n, w.setTimeout n = .error e ∨ w.addHost n = .error e := by
  unfold probe at h
  split at h
  · cases h
  · split at h
    · exact absurd (ExitStatus.code_lt ‹_›) (by decide)
    · exact pingThrough_bail h

/-- A turn that finds the antenna ends with the route add for `iface`, which ran, and a ping
    whose first answer had no drops. -/
theorem probe_found (h : probe w ip ourIp interfaces iface d = (.found, d')) :
    ∃ pre out res, d'.log = pre ++ [.command (.routeAdd ip iface ourIp) (.ok out),
      .ping iface (.ok (some res))] ∧ res.dropped = 0 := by
  cases hr : w.run (prepare w ip ourIp interfaces iface d).tick (.routeAdd ip iface ourIp) with
  | error e => simp [probe, runCommand, hr] at h
  | ok out =>
    simp only [probe, runCommand, hr] at h
    split at h
    · cases h
    · unfold pingThrough at h
      split at h
      · cases h
      · split at h
        · cases h
        · split at h
          · rename_i res hs
            split at h
            · cases h
              exact ⟨(prepare w ip ourIp interfaces iface d).log, out, res, by simp [hs], ‹_›⟩
            · cases h
          · cases h

/-- With every command running and the pinger configured, a turn pings through `iface`, and
    the ping decides it. -/
theorem probe_of_ok (hrun : ∀ n c, ∃ out, w.run n c = .ok out)
    (hcfg : ∀ n, w.setTimeout n = .ok () ∧ w.addHost n = .ok ()) :
    ∃ n d', probe w ip ourIp interfaces iface d =
      (if pingAnswered (w.send n iface) then .found else .next, d') ∧
        d'.pinged = d.pinged ++ [iface] := by
  obtain ⟨out, hout⟩ := hrun (prepare w ip ourIp interfaces iface d).tick (.routeAdd ip iface ourIp)
  have hcode : out.status.code ≠ some 512 := fun h => absurd (ExitStatus.code_lt h) (by decide)
  simp only [probe, runCommand, hout, if_neg hcode]
  rw [pingThrough_ok (hcfg _).1 (hcfg _).2]
  refine ⟨_, _, rfl, ?_⟩
  have hp := @prepare_pinged w ip ourIp interfaces iface d
  simp [pinged] at hp ⊢
  rw [hp]

/-! ## 4. The loop -/

/-- **The route check never fires, and the loop gives up only after trying every
    interface.** It returns an error only with the pinger's own error, when it cannot be
    configured, or with "Failed to find Antenna!" once it has tried each remaining interface in
    order and pinged through each one whose route add ran: never because of what a route add
    returned. -/
theorem findLoop_error {rest : List String} {e : String}
    (h : findLoop w ip ourIp interfaces rest d = (.error e, d')) :
    (e = "Failed to find Antenna!" ∧ d'.tried = d.tried ++ rest ∧
      ∃ l, d'.routed = d.routed ++ l ∧ d'.pinged = d.pinged ++ l) ∨
    ∃ n, w.setTimeout n = .error e ∨ w.addHost n = .error e := by
  induction rest generalizing d with
  | nil => cases h; exact .inl ⟨rfl, by simp, [], by simp, by simp⟩
  | cons i rest ih =>
    unfold findLoop at h
    split at h
    · obtain ⟨ht₁, l₁, hr₁, hp₁⟩ := probe_next ‹_›
      refine (ih h).imp (fun ⟨he, ht, l, hr, hp⟩ => ⟨he, ?_, l₁ ++ l, ?_, ?_⟩) id
      · simp [ht, ht₁]
      · simp [hr, hr₁]
      · simp [hp, hp₁]
    · cases h
    · cases h; exact .inr (probe_bail ‹_›)

/-- **What a found interface has behind it.** It is a candidate, and the log ends with the
    route add through it — which ran, with whatever exit status — and a ping whose first
    answer had no drops. -/
theorem findLoop_ok {rest : List String}
    (h : findLoop w ip ourIp interfaces rest d = (.ok iface, d')) :
    iface ∈ rest ∧ ∃ pre out res, d'.log = pre ++ [.command (.routeAdd ip iface ourIp) (.ok out),
      .ping iface (.ok (some res))] ∧ res.dropped = 0 := by
  induction rest generalizing d with
  | nil => cases h
  | cons i rest ih =>
    unfold findLoop at h
    split at h
    · exact (ih h).imp (List.mem_cons_of_mem _) id
    · cases h; exact ⟨List.mem_cons_self _ _, probe_found ‹_›⟩
    · cases h

/-- **Completeness of the loop.** With every command running, the pinger configured, and
    exactly the pings through `k` answered without drops, the loop pings the interfaces in
    order up to `k` and returns it, or pings them all and reports the antenna not found. -/
theorem findLoop_complete (hrun : ∀ n c, ∃ out, w.run n c = .ok out)
    (hcfg : ∀ n, w.setTimeout n = .ok () ∧ w.addHost n = .ok ()) {k : String}
    (hping : ∀ n i, pingAnswered (w.send n i) = true ↔ i = k) :
    ∀ (rest : List String) (d : Disc), ∃ d', findLoop w ip ourIp interfaces rest d =
      (if k ∈ rest then .ok k else .error "Failed to find Antenna!", d') ∧
        d'.pinged = d.pinged ++ rest.take (rest.indexOf k + 1)
  | [], d => ⟨d, rfl, by simp⟩
  | i :: rest, d => by
    obtain ⟨n, d₁, hp, hd₁⟩ := @probe_of_ok w ip ourIp interfaces i d hrun hcfg
    by_cases hik : i = k
    · subst hik
      refine ⟨d₁, ?_, by simp [hd₁]⟩
      simp only [findLoop, hp, (hping n i).mpr rfl, if_true, List.mem_cons_self]
    · obtain ⟨d', h', hd'⟩ := findLoop_complete hrun hcfg hping rest d₁
      have hans : pingAnswered (w.send n i) = false := by
        simpa using mt (hping n i).mp hik
      refine ⟨d', ?_, ?_⟩
      · simp only [findLoop, hp, hans, Bool.false_eq_true, if_false, h']
        simp [Ne.symm hik]
      · rw [hd', hd₁, List.indexOf_cons_ne _ hik]
        simp

end Disc

/-! ## 5. `find_antenna` -/

section FindAntenna

variable {w : Kernel} {rng : ThreadRng} {interfaces : IfaceSet}

/-- **A found interface is a candidate whose route add ran and whose ping was answered.** The
    route add may have failed with any exit status. -/
theorem find_antenna_ok_sound {ip : IpAddr} {iface : String} {d : Disc}
    (h : findAntenna w rng ip interfaces = .ok (.ok iface, d)) :
    iface ∈ interfaces.list ∧ ∃ ourIp pre out res, d.log = pre ++
      [.command (.routeAdd ip iface ourIp) (.ok out), .ping iface (.ok (some res))] ∧
        res.dropped = 0 := by
  cases ip with
  | v6 => cases h
  | v4 a =>
    simp only [findAntenna, getLocalIp, bind, Except.bind, pure, Except.pure, Except.ok.injEq] at h
    obtain ⟨hm, pre, out, res, hl, hr⟩ := Disc.findLoop_ok h
    exact ⟨hm, _, pre, out, res, hl, hr⟩

/-- The antenna behind `eth1`, the second of three interfaces: the log ends with the route add
    through `eth1` and its answered ping. -/
theorem find_antenna_ok_second :
    let w : Kernel := ⟨fun _ _ => .ok ⟨.ofCode 0⟩, fun _ => .ok (), fun _ => .ok (),
      fun _ i => if i = "eth1" then .ok (some ⟨0⟩) else .ok none⟩
    let rng : ThreadRng := ⟨fun n => if n = 0 then 7 else 8,
      fun b => if h : b = 7 then ⟨1, by subst h; decide⟩ else ⟨0, fun e => h e.symm⟩⟩
    let interfaces : IfaceSet := ⟨["eth0", "eth1", "eth2"], by decide⟩
    ∃ d, findAntenna w rng (.v4 ⟨192, 168, 1, 20⟩) interfaces = .ok (.ok "eth1", d) ∧
      "eth1" ∈ interfaces.list ∧ ∃ ourIp pre out res, d.log = pre ++
        [.command (.routeAdd (.v4 ⟨192, 168, 1, 20⟩) "eth1" ourIp) (.ok out),
          .ping "eth1" (.ok (some res))] ∧ res.dropped = 0 := by
  intro w rng interfaces
  refine ⟨?d, ?h, find_antenna_ok_sound ?h⟩
  case h => exact rfl

/-- **`find_antenna` gives up only after trying every interface, and never because of a
    route.** It returns an error only with "Failed to find Antenna!", after adding a host route
    through every candidate in the set's order and pinging through each one whose route add ran,
    or with the pinger's own error. The "IP setup failed" bail-out of the source is
    unreachable. -/
theorem find_antenna_error {ip : IpAddr} {e : String} {d : Disc}
    (h : findAntenna w rng ip interfaces = .ok (.error e, d)) :
    (e = "Failed to find Antenna!" ∧ d.tried = interfaces.list ∧ d.pinged = d.routed) ∨
      ∃ n, w.setTimeout n = .error e ∨ w.addHost n = .error e := by
  cases ip with
  | v6 => cases h
  | v4 a =>
    simp only [findAntenna, getLocalIp, bind, Except.bind, pure, Except.pure, Except.ok.injEq] at h
    refine (Disc.findLoop_error h).imp (fun ⟨he, ht, l, hr, hp⟩ => ⟨he, ?_, ?_⟩) id
    · rw [ht]; rfl
    · rw [hp, hr]; rfl

/-- No candidate answers: discovery tries both, pings through both, and gives up with "Failed to
    find Antenna!". -/
theorem find_antenna_error_unanswered :
    let w : Kernel := ⟨fun _ _ => .ok ⟨.ofCode 0⟩, fun _ => .ok (), fun _ => .ok (),
      fun _ i => if i = "eth9" then .ok (some ⟨0⟩) else .ok none⟩
    let rng : ThreadRng := ⟨fun n => if n = 0 then 7 else 8,
      fun b => if h : b = 7 then ⟨1, by subst h; decide⟩ else ⟨0, fun e => h e.symm⟩⟩
    let interfaces : IfaceSet := ⟨["eth0", "eth1"], by decide⟩
    ∃ d, findAntenna w rng (.v4 ⟨192, 168, 1, 20⟩) interfaces =
        .ok (.error "Failed to find Antenna!", d) ∧
      (("Failed to find Antenna!" = "Failed to find Antenna!" ∧ d.tried = interfaces.list ∧
          d.pinged = d.routed) ∨ ∃ n,
        w.setTimeout n = .error "Failed to find Antenna!" ∨
          w.addHost n = .error "Failed to find Antenna!") := by
  intro w rng interfaces
  obtain ⟨b, hb, -⟩ := getLocalIp_v4 rng ⟨192, 168, 1, 20⟩
  obtain ⟨d, h, -⟩ := @Disc.findLoop_complete w (.v4 ⟨192, 168, 1, 20⟩) (.v4 b) interfaces.list
    (fun _ _ => ⟨_, rfl⟩) (fun _ => ⟨rfl, rfl⟩) "eth9"
    (fun _ i => by by_cases h : i = "eth9" <;> simp [w, h, pingAnswered]) interfaces.list ⟨0, []⟩
  have hf : findAntenna w rng (.v4 ⟨192, 168, 1, 20⟩) interfaces =
      .ok (.error "Failed to find Antenna!", d) := by
    simp [findAntenna, hb, h, interfaces]
  exact ⟨d, hf, find_antenna_error hf⟩

/-- **A route conflict does not abort discovery.** The route add through `eth0` fails with
    "File exists": exit code 2, the raw wait status 512 the source's comment means. Whatever the
    generator draws, `find_antenna` does not return an error: it pings through `eth0`, goes on
    to `eth1`, and reports it. -/
theorem route_conflict_continues (rng : ThreadRng) :
    let w : Kernel := ⟨fun _ c => match c with
        | .routeAdd _ "eth0" _ => .ok ⟨.ofCode 2⟩
        | _ => .ok ⟨.ofCode 0⟩,
      fun _ => .ok (), fun _ => .ok (), fun _ i => if i = "eth0" then .ok none else .ok (some ⟨0⟩)⟩
    (ExitStatus.ofCode 2).raw = 512 ∧
      ∃ d, findAntenna w rng (.v4 ⟨192, 168, 1, 20⟩) ⟨["eth0", "eth1"], by decide⟩ =
        .ok (.ok "eth1", d) ∧ d.pinged = ["eth0", "eth1"] := by
  intro w
  have hrun : ∀ n c, ∃ out, w.run n c = .ok out := fun _ c => by
    simp only [w]; split <;> exact ⟨_, rfl⟩
  have hcfg : ∀ n, w.setTimeout n = .ok () ∧ w.addHost n = .ok () := fun _ => ⟨rfl, rfl⟩
  obtain ⟨b, hb, -⟩ := getLocalIp_v4 rng ⟨192, 168, 1, 20⟩
  obtain ⟨n₀, d₀, h₀, hd₀⟩ := @Disc.probe_of_ok w (.v4 ⟨192, 168, 1, 20⟩) (.v4 b)
    ["eth0", "eth1"] "eth0" ⟨0, []⟩ hrun hcfg
  obtain ⟨n₁, d₁, h₁, hd₁⟩ := @Disc.probe_of_ok w (.v4 ⟨192, 168, 1, 20⟩) (.v4 b)
    ["eth0", "eth1"] "eth1" d₀ hrun hcfg
  refine ⟨rfl, d₁, ?_, by rw [hd₁, hd₀]; rfl⟩
  simp [findAntenna, hb, Disc.findLoop, h₀, h₁, w, pingAnswered]

/-- **A failed route add can be reported as the antenna's interface.** The route add through
    `eth0` exits with code 2, but the ping goes out over whatever route was already in place and
    is answered: `find_antenna` returns `eth0`. -/
theorem route_failure_reported_found (rng : ThreadRng) :
    let w : Kernel := ⟨fun _ c => match c with
        | .routeAdd _ "eth0" _ => .ok ⟨.ofCode 2⟩
        | _ => .ok ⟨.ofCode 0⟩,
      fun _ => .ok (), fun _ => .ok (), fun _ _ => .ok (some ⟨0⟩)⟩
    ∃ d, findAntenna w rng (.v4 ⟨192, 168, 1, 20⟩) ⟨["eth0", "eth1"], by decide⟩ =
        .ok (.ok "eth0", d) ∧
      ∃ ourIp out, Probe.command (.routeAdd (.v4 ⟨192, 168, 1, 20⟩) "eth0" ourIp) (.ok out) ∈ d.log ∧
        out.status.code = some 2 :=
  ⟨_, rfl, .v4 ⟨192, 168, 1, rng.gen (Nat.find (rng.avoids 20))⟩, ⟨.ofCode 2⟩, by simp, rfl⟩

end FindAntenna

end Forwarding
end Rita
