import Rita.Dashboard.Wallet

/-!
# `Rita/Dashboard/Nonce.lean` — withdraws in flight, and the chain's nonces

`eth_compatable_withdraw` signs with the nonce the payment settings hold when the request
arrives, and bumps the nonce in the settings only when the node's answer comes back: the answer
is a future, and other requests run while it is pending. Here requests, the node's answers and
the runs of their `.then` closures interleave in any order. The chain keeps one rule of its own:
it takes at most one transaction per nonce. It may take a transaction and still have the router
told it failed (a timeout); `World.lost` counts those.

Over every run (`World.run_inv`): the chain has taken the router's transactions with the nonces
`n₀, n₀ + 1, …` in order, where `n₀` is the starting nonce, so no nonce is taken twice or skipped;
the settings change only in their nonce; and the nonce, the answers still to be delivered and the
lost answers together account for every transaction the chain took. Once every answer is in and
none was lost, the settings' nonce is the chain's next nonce (`run_nonce_agrees`). One lost
answer instead leaves the settings' nonce behind the chain for good: every transaction signed
after it reuses a taken nonce, and the chain takes no more of the router's withdraws
(`run_lost_stuck`) — nothing in these sources writes the nonce but the withdraw. The sequential
`ethCompatableWithdraw` is one of these runs (`ethCompatableWithdraw_run`).

Requests enter at `eth_compatable_withdraw`, with the settings they read; `withdraw_handler`
before it is `Rita/Dashboard/Wallet.lean`'s.
-/

set_option autoImplicit false

namespace Rita
namespace Dashboard

/-- The node's answers are compared when one is picked for delivery. -/
instance instDecidableEqAnswer : DecidableEq (Except Web3Error Uint256)
  | .ok a, .ok b => decidable_of_iff (a = b) ⟨congrArg _, Except.ok.inj⟩
  | .error a, .error b => decidable_of_iff (a = b) ⟨congrArg _, Except.error.inj⟩
  | .ok _, .error _ => isFalse Except.noConfusion
  | .error _, .ok _ => isFalse Except.noConfusion

/-! ## 1. The world -/

/-- The router's withdraws, the full node and the chain. -/
structure World where
  /-- The payment settings the withdraws read and write. -/
  account : EthAccount
  /-- Signed transactions sent and not answered yet. -/
  pool : List Transaction
  /-- The node's answers whose `.then` has not run yet. -/
  answers : List (Except Web3Error Uint256)
  /-- The router's transactions the chain took, in order. -/
  chain : List Transaction
  /-- How many of those the router was told had failed. -/
  lost : Nat

/-- Nothing sent yet, from the settings `a`. -/
def World.init (a : EthAccount) : World := ⟨a, [], [], [], 0⟩

/-- What can happen next. -/
inductive Event
  /-- A withdraw request runs `eth_compatable_withdraw` with the settings `s`. -/
  | request (s : PaymentSettings) (address : Address) (amount : Uint256)
  /-- The chain takes `tx` and the node answers its id. -/
  | accept (tx : Transaction) (txId : Uint256)
  /-- The chain takes `tx`, but the router is told `e`. -/
  | acceptLost (tx : Transaction) (e : Web3Error)
  /-- The node refuses `tx`. -/
  | refuse (tx : Transaction) (e : Web3Error)
  /-- The `.then` closure runs on `answer`. -/
  | deliver (answer : Except Web3Error Uint256)

/-- The chain takes the pending `tx`, unless it already holds a transaction with that nonce; the
    router is told `answer`, which `hidden` says hides the take. -/
def World.take (w : World) (tx : Transaction) (answer : Except Web3Error Uint256) (hidden : Bool) :
    World :=
  if tx ∈ w.pool ∧ tx.nonce ∉ w.chain.map Transaction.nonce then
    { w with pool := w.pool.erase tx, answers := w.answers ++ [answer], chain := w.chain ++ [tx],
             lost := w.lost + if hidden then 1 else 0 }
  else w

/-- The node refuses the pending `tx` with `e`. -/
def World.refuse (w : World) (tx : Transaction) (e : Web3Error) : World :=
  if tx ∈ w.pool then { w with pool := w.pool.erase tx, answers := w.answers ++ [.error e] } else w

/-- One event; `toBytes` is the signing library's `to_bytes()`. Events that cannot happen (an
    answer to nothing sent, a take of a taken nonce) change nothing. -/
def World.step (toBytes : SignedTransaction → Except String (List UInt8)) (w : World) :
    Event → Except Panic World
  | .request s address amount => do
    match ← ethCompatableWithdrawSend toBytes s w.account address amount with
    | .respond _ => pure w
    | .sent tx _ => pure { w with pool := w.pool ++ [tx] }
  | .accept tx txId => pure (w.take tx (.ok txId) false)
  | .acceptLost tx e => pure (w.take tx (.error e) true)
  | .refuse tx e => pure (w.refuse tx e)
  | .deliver answer =>
    if answer ∈ w.answers then do
      let (_, account) ← ethCompatableWithdrawThen answer w.account
      pure { w with account, answers := w.answers.erase answer }
    else pure w

/-- Events one after another, up to the first panic. -/
def World.run (toBytes : SignedTransaction → Except String (List UInt8)) :
    World → List Event → Except Panic World
  | w, [] => pure w
  | w, ev :: evs => do World.run toBytes (← w.step toBytes ev) evs

/-! ## 2. The invariant -/

/-- What holds of every world reached from the settings `a₀`. -/
structure World.Inv (a₀ : EthAccount) (w : World) : Prop where
  /-- The settings change only in their nonce. -/
  frame : w.account = { a₀ with nonce := w.account.nonce }
  /-- The nonce only grows. -/
  start_le : a₀.nonce.val ≤ w.account.nonce.val
  /-- A pending transaction was signed with a nonce the settings have held. -/
  pool_nonce : ∀ tx ∈ w.pool, a₀.nonce.val ≤ tx.nonce.val ∧ tx.nonce.val ≤ w.account.nonce.val
  /-- The chain took the nonces `n₀, n₀ + 1, …` in order. -/
  chain_nonces : w.chain.map (·.nonce.val) = List.range' a₀.nonce.val w.chain.length
  /-- Every take shows in the nonce, in an answer not yet delivered, or as lost. -/
  count : w.account.nonce.val + w.answers.countP Except.isOk + w.lost =
    a₀.nonce.val + w.chain.length

variable {toBytes : SignedTransaction → Except String (List UInt8)} {a₀ : EthAccount}
  {w w' : World} {tx : Transaction}

theorem World.inv_init : (World.init a₀).Inv a₀ where
  frame := rfl
  start_le := le_rfl
  pool_nonce _ h := absurd h (List.not_mem_nil _)
  chain_nonces := rfl
  count := rfl

/-- A nonce between `n₀` and the chain's next nonce is taken. -/
theorem World.Inv.mem_chain (hi : w.Inv a₀) {n : Uint256} (hlo : a₀.nonce.val ≤ n.val)
    (hhi : n.val < a₀.nonce.val + w.chain.length) : n ∈ w.chain.map Transaction.nonce := by
  have : n.val ∈ w.chain.map (·.nonce.val) := by
    rw [hi.chain_nonces, List.mem_range']
    exact ⟨n.val - a₀.nonce.val, by omega, by omega⟩
  obtain ⟨t, ht, heq⟩ := List.mem_map.1 this
  exact List.mem_map.2 ⟨t, ht, Uint256.ext heq⟩

/-- A pending transaction the chain can still take carries the chain's next nonce. -/
theorem World.Inv.next_nonce (hi : w.Inv a₀) (htx : tx ∈ w.pool)
    (hnew : tx.nonce ∉ w.chain.map Transaction.nonce) :
    tx.nonce.val = a₀.nonce.val + w.chain.length := by
  have hb := hi.pool_nonce tx htx
  have hc := hi.count
  by_contra hne
  exact hnew (hi.mem_chain hb.1 (by omega))

theorem World.Inv.request (hi : w.Inv a₀) (hn : tx.nonce = w.account.nonce) :
    { w with pool := w.pool ++ [tx] }.Inv a₀ where
  __ := hi
  pool_nonce t ht := by
    rcases List.mem_append.1 ht with ht | ht
    · exact hi.pool_nonce t ht
    · rw [List.mem_singleton.1 ht, hn]
      exact ⟨hi.start_le, le_rfl⟩

theorem World.Inv.take (hi : w.Inv a₀) {answer : Except Web3Error Uint256} {hidden : Bool}
    (hans : answer.isOk = !hidden) : (w.take tx answer hidden).Inv a₀ := by
  by_cases h : tx ∈ w.pool ∧ tx.nonce ∉ w.chain.map Transaction.nonce
  · rw [World.take, if_pos h]
    have hn := hi.next_nonce h.1 h.2
    have hc := hi.count
    refine ⟨hi.frame, hi.start_le, fun t ht => hi.pool_nonce t (List.mem_of_mem_erase ht), ?_, ?_⟩
    · simp only [List.map_append, hi.chain_nonces, List.length_append, List.length_singleton,
        List.range'_concat, List.map_cons, List.map_nil, hn, Nat.one_mul]
    · cases hidden <;> simp [List.countP_append, hans] <;> omega
  · rw [World.take, if_neg h]
    exact hi

theorem World.Inv.refuse (hi : w.Inv a₀) {e : Web3Error} : (w.refuse tx e).Inv a₀ := by
  unfold World.refuse
  split_ifs
  · refine ⟨hi.frame, hi.start_le, fun t ht => hi.pool_nonce t (List.mem_of_mem_erase ht),
      hi.chain_nonces, ?_⟩
    simpa only [List.countP_append, List.countP_singleton, Except.isOk, Except.toBool] using hi.count
  · exact hi

theorem World.Inv.deliver (hi : w.Inv a₀) {answer : Except Web3Error Uint256} {r : HttpResponse}
    {account : EthAccount} (hmem : answer ∈ w.answers)
    (h : ethCompatableWithdrawThen answer w.account = .ok (r, account)) :
    { w with account, answers := w.answers.erase answer }.Inv a₀ := by
  obtain ⟨⟨hframe, hval⟩, -⟩ := ethCompatableWithdrawThen_bumped h
  have hcount := (List.perm_cons_erase hmem).countP_eq Except.isOk
  rw [List.countP_cons] at hcount
  have hge : w.account.nonce.val ≤ account.nonce.val := by omega
  have hc : account.nonce.val + (w.answers.erase answer).countP Except.isOk =
      w.account.nonce.val + w.answers.countP Except.isOk := by
    cases hok : answer.isOk <;> simp [hok] at hval hcount <;> omega
  refine ⟨by rw [hframe, hi.frame], hi.start_le.trans hge,
    fun t ht => ⟨(hi.pool_nonce t ht).1, (hi.pool_nonce t ht).2.trans hge⟩, hi.chain_nonces, ?_⟩
  have := hi.count
  dsimp only
  omega

/-- **What one event can do**: nothing; send a transaction signed with the current nonce; have the
    chain take a pending transaction, or the node refuse one; or deliver an answer to its `.then`
    closure. -/
theorem World.step_cases {ev : Event} (h : w.step toBytes ev = .ok w') :
    w' = w ∨
      (∃ tx : Transaction, tx.nonce = w.account.nonce ∧ w' = { w with pool := w.pool ++ [tx] }) ∨
      (∃ tx answer hidden, answer.isOk = !hidden ∧ w' = w.take tx answer hidden) ∨
      (∃ tx e, w' = w.refuse tx e) ∨
      (∃ answer r account, answer ∈ w.answers ∧
        ethCompatableWithdrawThen answer w.account = .ok (r, account) ∧
        w' = { w with account, answers := w.answers.erase answer }) := by
  cases ev with
  | request s address amount =>
    obtain ⟨st, hs, h⟩ := bind_eq_ok.1 h
    obtain ⟨r, rfl, -⟩ | ⟨bytes, rfl⟩ := ethCompatableWithdrawSend_cases hs
    · cases h; exact .inl rfl
    · cases h; exact .inr (.inl ⟨_, rfl, rfl⟩)
  | accept tx txId => cases h; exact .inr (.inr (.inl ⟨tx, .ok txId, false, rfl, rfl⟩))
  | acceptLost tx e => cases h; exact .inr (.inr (.inl ⟨tx, .error e, true, rfl, rfl⟩))
  | refuse tx e => cases h; exact .inr (.inr (.inr (.inl ⟨tx, e, rfl⟩)))
  | deliver answer =>
    simp only [World.step] at h
    split_ifs at h with hmem
    · obtain ⟨⟨r, account⟩, hr, h⟩ := bind_eq_ok.1 h
      cases h
      exact .inr (.inr (.inr (.inr ⟨answer, r, account, hmem, hr, rfl⟩)))
    · cases h; exact .inl rfl

/-- Every event keeps the invariant. -/
theorem World.Inv.step (hi : w.Inv a₀) {ev : Event} (h : w.step toBytes ev = .ok w') :
    w'.Inv a₀ := by
  rcases World.step_cases h with rfl | ⟨tx, hn, rfl⟩ | ⟨tx, answer, hidden, hans, rfl⟩ |
    ⟨tx, e, rfl⟩ | ⟨answer, r, account, hmem, hr, rfl⟩
  · exact hi
  · exact hi.request hn
  · exact hi.take hans
  · exact hi.refuse
  · exact hi.deliver hmem hr

/-- Every run keeps the invariant. -/
theorem World.Inv.run (hi : w.Inv a₀) {evs : List Event} (h : World.run toBytes w evs = .ok w') :
    w'.Inv a₀ := by
  induction evs generalizing w with
  | nil => cases h; exact hi
  | cons ev evs ih =>
    obtain ⟨w₁, hs, h⟩ := bind_eq_ok.1 h
    exact ih (hi.step hs) h

/-! ## 3. What every run keeps -/

/-- **No nonce is taken twice or skipped.** However requests, the node's answers and their
    delivery interleave, every world reached from the settings `a₀` satisfies the invariant: the
    chain took the router's transactions with the nonces `n₀, n₀ + 1, …` in order, the settings
    changed only in their nonce, and every take shows in the nonce, in an undelivered answer, or
    as a lost answer. -/
theorem World.run_inv {evs : List Event} (h : World.run toBytes (World.init a₀) evs = .ok w) :
    w.Inv a₀ :=
  World.inv_init.run h

/-- A withdraw the chain takes: the nonce moves from 7 to 8. -/
theorem World.run_one_withdraw :
    let a₀ : EthAccount := ⟨some ⟨0⟩, some ⟨0⟩, .ofNat 7, some 100⟩
    let tx : Transaction := ⟨.ofNat 7, .ofNat 1, .ofNat 21000, ⟨1⟩, .ofNat 5⟩
    ∃ w, World.run (fun _ => .ok []) (World.init a₀)
        [.request ⟨.xdai, .xdai, .ofNat 1, .ofNat 100⟩ ⟨1⟩ (.ofNat 5), .accept tx (.ofNat 1),
          .deliver (.ok (.ofNat 1))] = .ok w ∧ w.Inv a₀ := by
  dsimp only
  refine ⟨?w, ?h, World.run_inv ?h⟩
  case h => exact rfl

/-- **Once every answer is in and none was lost, the settings' nonce is the chain's next
    nonce.** -/
theorem World.run_nonce_agrees {evs : List Event}
    (h : World.run toBytes (World.init a₀) evs = .ok w) (hans : w.answers = []) (hlost : w.lost = 0) :
    w.account.nonce.val = a₀.nonce.val + w.chain.length ∧
      w.chain.map (·.nonce.val) = List.range' a₀.nonce.val w.chain.length := by
  have hi := World.inv_init.run h
  have hc := hi.count
  rw [hans, hlost] at hc
  exact ⟨by simpa using hc, hi.chain_nonces⟩

/-- Two requests sent before either is answered sign the same nonce, 7: the chain takes one, the
    node refuses the other, and once both answers are in the nonce is 8. -/
theorem World.run_two_requests :
    let a₀ : EthAccount := ⟨some ⟨0⟩, some ⟨0⟩, .ofNat 7, some 100⟩
    let s : PaymentSettings := ⟨.xdai, .xdai, .ofNat 1, .ofNat 100⟩
    let tx₁ : Transaction := ⟨.ofNat 7, .ofNat 1, .ofNat 21000, ⟨1⟩, .ofNat 5⟩
    let tx₂ : Transaction := ⟨.ofNat 7, .ofNat 1, .ofNat 21000, ⟨1⟩, .ofNat 6⟩
    let e : Web3Error := ⟨"nonce too low", "nonce too low"⟩
    ∃ w, World.run (fun _ => .ok []) (World.init a₀)
        [.request s ⟨1⟩ (.ofNat 5), .request s ⟨1⟩ (.ofNat 6), .accept tx₁ (.ofNat 1),
          .refuse tx₂ e, .deliver (.ok (.ofNat 1)), .deliver (.error e)] = .ok w ∧
      w.answers = [] ∧ w.lost = 0 ∧
      (w.account.nonce.val = a₀.nonce.val + w.chain.length ∧
        w.chain.map (·.nonce.val) = List.range' a₀.nonce.val w.chain.length) := by
  dsimp only
  refine ⟨?w, ?h, ?a, ?l, World.run_nonce_agrees ?h ?a ?l⟩
  case h => exact rfl
  case a => rfl
  case l => rfl

/-- After a lost answer, a pending transaction reuses a nonce the chain has taken. -/
theorem World.Inv.stale (hi : w.Inv a₀) (hl : 0 < w.lost) (htx : tx ∈ w.pool) :
    tx.nonce ∈ w.chain.map Transaction.nonce := by
  have hb := hi.pool_nonce tx htx
  have hc := hi.count
  exact hi.mem_chain hb.1 (by omega)

/-- After a lost answer, no take can happen. -/
theorem World.Inv.take_stale (hi : w.Inv a₀) (hl : 0 < w.lost) {answer : Except Web3Error Uint256}
    {hidden : Bool} : w.take tx answer hidden = w :=
  if_neg fun h => h.2 (hi.stale hl h.1)

theorem World.Inv.step_stuck (hi : w.Inv a₀) (hl : 0 < w.lost) {ev : Event}
    (h : w.step toBytes ev = .ok w') : w'.chain = w.chain ∧ 0 < w'.lost := by
  rcases World.step_cases h with rfl | ⟨tx, -, rfl⟩ | ⟨tx, answer, hidden, -, rfl⟩ |
    ⟨tx, e, rfl⟩ | ⟨answer, r, account, -, -, rfl⟩
  · exact ⟨rfl, hl⟩
  · exact ⟨rfl, hl⟩
  · rw [hi.take_stale hl]; exact ⟨rfl, hl⟩
  · unfold World.refuse; split_ifs <;> exact ⟨rfl, hl⟩
  · exact ⟨rfl, hl⟩

theorem World.Inv.run_stuck (hi : w.Inv a₀) (hl : 0 < w.lost) {evs : List Event}
    (h : World.run toBytes w evs = .ok w') : w'.chain = w.chain ∧ 0 < w'.lost := by
  induction evs generalizing w with
  | nil => cases h; exact ⟨rfl, hl⟩
  | cons ev evs ih =>
    obtain ⟨w₁, hs, h⟩ := bind_eq_ok.1 h
    obtain ⟨hc, hl₁⟩ := hi.step_stuck hl hs
    rw [← hc]
    exact ih (hi.step hs) hl₁ h

/-- **After one lost answer the chain takes no more of the router's withdraws.** From any world
    reached with a lost answer, after any further run every transaction still pending was signed
    with a nonce the chain has already taken, and the run has added nothing to the chain. -/
theorem World.run_lost_stuck {evs evs' : List Event} {w'' : World}
    (h : World.run toBytes (World.init a₀) evs = .ok w) (hl : 0 < w.lost)
    (h' : World.run toBytes w evs' = .ok w'') :
    (∀ tx ∈ w''.pool, tx.nonce ∈ w.chain.map Transaction.nonce) ∧ w''.chain = w.chain := by
  have hi := World.inv_init.run h
  obtain ⟨hc, hl''⟩ := hi.run_stuck hl h'
  exact ⟨fun tx htx => hc ▸ (hi.run h').stale hl'' htx, hc⟩


/-- The chain takes a withdraw whose answer times out; the next request signs the taken nonce 7
    again, stays pending, and the chain cannot take it. -/
theorem World.run_lost_then_request :
    let a₀ : EthAccount := ⟨some ⟨0⟩, some ⟨0⟩, .ofNat 7, some 100⟩
    let s : PaymentSettings := ⟨.xdai, .xdai, .ofNat 1, .ofNat 100⟩
    let tx₁ : Transaction := ⟨.ofNat 7, .ofNat 1, .ofNat 21000, ⟨1⟩, .ofNat 5⟩
    let tx₂ : Transaction := ⟨.ofNat 7, .ofNat 1, .ofNat 21000, ⟨1⟩, .ofNat 6⟩
    let e : Web3Error := ⟨"timeout", "timeout"⟩
    ∃ w w'', World.run (fun _ => .ok []) (World.init a₀)
        [.request s ⟨1⟩ (.ofNat 5), .acceptLost tx₁ e, .deliver (.error e)] = .ok w ∧
      0 < w.lost ∧
      World.run (fun _ => .ok []) w [.request s ⟨1⟩ (.ofNat 6), .accept tx₂ (.ofNat 2)] = .ok w'' ∧
      (∀ tx ∈ w''.pool, tx.nonce ∈ w.chain.map Transaction.nonce) ∧ w''.chain = w.chain := by
  dsimp only
  refine ⟨?w, ?w'', ?h, ?hl, ?h', World.run_lost_stuck ?h ?hl ?h'⟩
  case h => exact rfl
  case hl => exact Nat.one_pos
  case h' => exact rfl

/-! ## 4. The sequential withdraw is one run -/

/-- **`eth_compatable_withdraw`, run to its response, is a run of the world** from a chain that
    holds none of the router's transactions: the request, the node's answer, and the `.then`
    closure on it. -/
theorem ethCompatableWithdraw_run {b : Backend} {s : PaymentSettings} {address : Address}
    {amount : Uint256} {r : HttpResponse} {acct : EthAccount}
    (h : ethCompatableWithdraw b s a₀ address amount = .ok (r, acct)) :
    ∃ evs w, World.run b.toBytes (World.init a₀) evs = .ok w ∧ w.account = acct ∧ w.pool = [] ∧
      w.answers = [] := by
  obtain ⟨st, hs, h⟩ := bind_eq_ok.1 h
  cases st with
  | respond =>
    cases h
    exact ⟨[.request s address amount], _,
      by simp only [World.run, World.step, World.init, hs, ok_bind]; rfl, rfl, rfl, rfl⟩
  | sent tx bytes =>
    dsimp only at h
    cases hn : b.sendRawTransaction bytes with
    | ok txId =>
      rw [hn] at h
      exact ⟨[.request s address amount, .accept tx txId, .deliver (.ok txId)], _,
        by simp [World.run, World.step, World.take, World.init, hs, h]; rfl, rfl, by simp, by simp⟩
    | error e =>
      rw [hn] at h
      exact ⟨[.request s address amount, .refuse tx e, .deliver (.error e)], _,
        by simp [World.run, World.step, World.refuse, World.init, hs, h]; rfl, rfl, by simp, by simp⟩

end Dashboard
end Rita
