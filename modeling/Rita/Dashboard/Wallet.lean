import Rita.Basic
import Mathlib.Algebra.Group.Nat.Basic

/-!
# `Rita/Dashboard/Wallet.lean` — the withdraw endpoints

`withdraw_handler`, `withdraw` and `withdraw_all` (`rita_common/src/dashboard/wallet.rs`). A
withdraw request names an address and an amount, or none for the whole balance. The handler
prices the transaction (`gas_price × tx_gas`; for an Xdai → Ethereum withdraw, the token
bridge's hard-coded 10 gwei and a contract call's 80000 gas), shrinks the amount to what the
balance can pay for once the fee is taken off, and hands the request to the withdraw for the
chain pair, or answers 500 for a pair it cannot serve.

All of it is `num256::Uint256` arithmetic, whose operators panic when a result leaves
[0, 2^256). The handler panics exactly when the fee, or the amount plus the fee, does not fit
in 256 bits, or when the amount plus the fee reaches the balance and the fee alone exceeds it
(`withdrawHandler_ok_iff`) — for the pairs it then refuses, too. Whenever it gets through, the
amount it passes on plus the fee is at most the balance (`withdrawHandler_amount_le`). A
withdraw of everything from a balance below the fee underflows (`withdrawAll_eq_error`), which
on the bridge, at its fixed 0.0008 xDai fee, takes only a small balance
(`withdraw_all_below_bridge_fee`).

The withdraws themselves follow: `eth_compatable_withdraw` signs a transaction with the nonce of
the payment settings, sends it to the full node, and bumps the nonce when the node answers a
transaction id; `xdai_withdraw` hands the request to the token bridge. The signing library, the
node and the bridge are an oracle (`Backend`). Over any run of requests, the settings change only
in their nonce, which moves on by exactly the number of "txid:" answers (`serveCalls_nonce`).
`Rita/Dashboard/Nonce.lean` lets the requests and the node's answers interleave.
-/

set_option autoImplicit false

namespace Rita
namespace Dashboard

/-! ## 1. `Uint256` -/

/-- `num256::Uint256`: a natural number below 2^256. -/
@[ext]
structure Uint256 where
  val : Nat
  lt : val < 2 ^ 256
  deriving DecidableEq

namespace Uint256

/-- A constant, `n.into()`. -/
def ofNat (n : Nat) (h : n < 2 ^ 256 := by decide) : Uint256 := ⟨n, h⟩

/-- `a + b`; panics when the sum does not fit. -/
def add (a b : Uint256) : Except Panic Uint256 :=
  if h : a.val + b.val < 2 ^ 256 then .ok ⟨a.val + b.val, h⟩ else .error .overflow

/-- `a - b`; panics when `b` is larger. -/
def sub (a b : Uint256) : Except Panic Uint256 :=
  if b.val ≤ a.val then .ok ⟨a.val - b.val, lt_of_le_of_lt (Nat.sub_le _ _) a.lt⟩
  else .error .overflow

/-- `a * b`; panics when the product does not fit. -/
def mul (a b : Uint256) : Except Panic Uint256 :=
  if h : a.val * b.val < 2 ^ 256 then .ok ⟨a.val * b.val, h⟩ else .error .overflow

variable {a b : Uint256}

theorem add_of_lt (h : a.val + b.val < 2 ^ 256) : a.add b = .ok ⟨_, h⟩ := dif_pos h
theorem add_of_not_lt (h : ¬a.val + b.val < 2 ^ 256) : a.add b = .error .overflow := dif_neg h
theorem sub_of_le (h : b.val ≤ a.val) :
    a.sub b = .ok ⟨a.val - b.val, lt_of_le_of_lt (Nat.sub_le _ _) a.lt⟩ := if_pos h
theorem sub_of_not_le (h : ¬b.val ≤ a.val) : a.sub b = .error .overflow := if_neg h
theorem mul_of_lt (h : a.val * b.val < 2 ^ 256) : a.mul b = .ok ⟨_, h⟩ := dif_pos h
theorem mul_of_not_lt (h : ¬a.val * b.val < 2 ^ 256) : a.mul b = .error .overflow := dif_neg h

end Uint256

/-! ## 2. The handler -/

/-- `althea_types::SystemChain`. -/
inductive SystemChain
  | ethereum
  | rinkeby
  | xdai
  deriving DecidableEq, Repr

/-- `clarity::Address`: 20 bytes, passed through. -/
structure Address where
  bytes : BitVec 160
  deriving DecidableEq

/-- The payment settings the handler reads. -/
structure PaymentSettings where
  systemChain : SystemChain
  withdrawChain : SystemChain
  gasPrice : Uint256
  balance : Uint256

/-- Where the handler sends the request: `eth_compatable_withdraw` or `xdai_withdraw` with the
    amount, or a 500 response "System chain is {} but withdraw chain is {}, withdraw
    impossible!" naming the two chains. -/
inductive Withdrawal
  | ethCompatableWithdraw (address : Address) (amount : Uint256)
  | xdaiWithdraw (address : Address) (amount : Uint256)
  | impossible (systemChain withdrawChain : SystemChain)

/-- The amount a withdrawal passes on. -/
def Withdrawal.amount? : Withdrawal → Option Uint256
  | .ethCompatableWithdraw _ amount | .xdaiWithdraw _ amount => some amount
  | .impossible .. => none

/-- What the handler did: whether it called `zero_window_start()`, and where the request went. -/
structure WithdrawOutcome where
  zeroWindowStarted : Bool
  withdrawal : Withdrawal

/-- `tx_gas` and the gas price the fee is computed with. -/
def txGasAndPrice (s : PaymentSettings) : Uint256 × Uint256 :=
  if (s.systemChain, s.withdrawChain) = (.xdai, .ethereum) then
    (Uint256.ofNat 80000, Uint256.ofNat 10000000000)
  else (Uint256.ofNat 21000, s.gasPrice)

/-- The closing `match (system_chain, withdraw_chain)`. -/
def dispatch (address : Address) (amount : Uint256) :
    SystemChain → SystemChain → Withdrawal
  | .ethereum, .ethereum | .rinkeby, .rinkeby | .xdai, .xdai => .ethCompatableWithdraw address amount
  | .xdai, .ethereum => .xdaiWithdraw address amount
  | systemChain, withdrawChain => .impossible systemChain withdrawChain

/-- `withdraw_handler(address, amount)`. -/
def withdrawHandler (s : PaymentSettings) (address : Address) (amount : Option Uint256) :
    Except Panic WithdrawOutcome := do
  let amount := amount.getD s.balance
  let (txGas, gasPrice) := txGasAndPrice s
  let txCost ← gasPrice.mul txGas
  let total ← amount.add txCost
  if total.val ≥ s.balance.val then
    let amount ← s.balance.sub txCost
    pure ⟨true, dispatch address amount s.systemChain s.withdrawChain⟩
  else pure ⟨false, dispatch address amount s.systemChain s.withdrawChain⟩

/-- `withdraw`: `/withdraw/{address}/{amount}`. -/
def withdraw (s : PaymentSettings) (address : Address) (amount : Uint256) :
    Except Panic WithdrawOutcome :=
  withdrawHandler s address (some amount)

/-- `withdraw_all`: `/withdraw_all/{address}`. -/
def withdrawAll (s : PaymentSettings) (address : Address) : Except Panic WithdrawOutcome :=
  withdrawHandler s address none

/-! ## 3. When the handler panics, and what it passes on -/

/-- The fee `gas_price × tx_gas`, as a number. -/
def txCost (s : PaymentSettings) : Nat := (txGasAndPrice s).2.val * (txGasAndPrice s).1.val

/-- The amount the handler passes on for a request of `amount`: the request itself, or, when
    the request and the fee together reach the balance, what the balance leaves once the fee is
    paid. -/
def passedAmount (s : PaymentSettings) (amount : Uint256) : Uint256 :=
  if s.balance.val ≤ amount.val + txCost s then
    ⟨s.balance.val - txCost s, lt_of_le_of_lt (Nat.sub_le _ _) s.balance.lt⟩
  else amount

variable {s : PaymentSettings} {address : Address} {amount : Option Uint256}

/-- The handler's three operator calls, decided: it gets through when the fee fits, the amount
    plus the fee fits, and, if that total reaches the balance, the fee is at most the balance. -/
theorem withdrawHandler_eq :
    withdrawHandler s address amount =
      if txCost s < 2 ^ 256 ∧ (amount.getD s.balance).val + txCost s < 2 ^ 256 ∧
          (s.balance.val ≤ (amount.getD s.balance).val + txCost s → txCost s ≤ s.balance.val) then
        .ok ⟨decide (s.balance.val ≤ (amount.getD s.balance).val + txCost s),
          dispatch address (passedAmount s (amount.getD s.balance)) s.systemChain s.withdrawChain⟩
      else .error .overflow := by
  rcases hp : txGasAndPrice s with ⟨g, q⟩
  have hc : txCost s = q.val * g.val := by rw [txCost, hp]
  simp only [withdrawHandler, passedAmount, hp, hc]
  by_cases h1 : q.val * g.val < 2 ^ 256
  swap; · simp only [Uint256.mul_of_not_lt h1, h1, error_bind, false_and, if_false]
  by_cases h2 : (amount.getD s.balance).val + q.val * g.val < 2 ^ 256
  swap; · simp only [Uint256.mul_of_lt h1, Uint256.add_of_not_lt (b := ⟨_, h1⟩) h2, h2, ok_bind,
    error_bind, false_and, and_false, if_false]
  simp only [Uint256.mul_of_lt h1, Uint256.add_of_lt (b := ⟨_, h1⟩) h2, h1, h2, ok_bind, true_and]
  by_cases h3 : s.balance.val ≤ (amount.getD s.balance).val + q.val * g.val
  · by_cases h4 : q.val * g.val ≤ s.balance.val
    · simp only [Uint256.sub_of_le (b := ⟨_, h1⟩) h4, h3, h4, ok_bind, ge_iff_le, if_true, decide_True]
      rfl
    · simp only [Uint256.sub_of_not_le (b := ⟨_, h1⟩) h4, h3, h4, error_bind, ge_iff_le, if_true, imp_false,
        not_true_eq_false, if_false]
  · simp only [h3, ge_iff_le, if_false, decide_False, false_implies, if_true]
    rfl

/-- **The handler gets through exactly when** the fee fits in 256 bits, the amount plus the fee
    fits, and, if that total reaches the balance, the fee alone does not exceed it; otherwise it
    panics. -/
theorem withdrawHandler_ok_iff :
    (∃ o, withdrawHandler s address amount = .ok o) ↔
      txCost s < 2 ^ 256 ∧ (amount.getD s.balance).val + txCost s < 2 ^ 256 ∧
        (s.balance.val ≤ (amount.getD s.balance).val + txCost s → txCost s ≤ s.balance.val) := by
  rw [withdrawHandler_eq]
  split_ifs with h
  · exact iff_of_true ⟨_, rfl⟩ h
  · exact iff_of_false (by simp) h

theorem passedAmount_add_le {a : Uint256}
    (h : s.balance.val ≤ a.val + txCost s → txCost s ≤ s.balance.val) :
    (passedAmount s a).val + txCost s ≤ s.balance.val := by
  unfold passedAmount
  split_ifs with hle
  · have := h hle
    simp only
    omega
  · omega

theorem dispatch_amount? {a b : Uint256} {x y : SystemChain}
    (h : (dispatch address b x y).amount? = some a) : a = b := by
  cases x <;> cases y <;> simp_all [dispatch, Withdrawal.amount?]

/-- **Whatever the handler passes on, plus the fee, is at most the balance.** -/
theorem withdrawHandler_amount_le {o : WithdrawOutcome} {a : Uint256}
    (h : withdrawHandler s address amount = .ok o) (ha : o.withdrawal.amount? = some a) :
    a.val + txCost s ≤ s.balance.val := by
  rw [withdrawHandler_eq] at h
  split_ifs at h with hok
  cases h
  rw [dispatch_amount? ha]
  exact passedAmount_add_le hok.2.2

/-- Withdrawing the whole balance of 1 xDai at 1 gwei: the handler starts the zero window and
    passes on the balance less the 21000-gas fee. -/
theorem withdraw_whole_balance_passes_rest :
    withdraw ⟨.xdai, .xdai, .ofNat 1000000000, .ofNat 1000000000000000000⟩ ⟨0⟩
        (.ofNat 1000000000000000000) =
      .ok ⟨true, .ethCompatableWithdraw ⟨0⟩ (.ofNat 999979000000000000)⟩ ∧
    (Uint256.ofNat 999979000000000000).val +
        txCost ⟨.xdai, .xdai, .ofNat 1000000000, .ofNat 1000000000000000000⟩ ≤
      (Uint256.ofNat 1000000000000000000).val := by
  refine ⟨?h, withdrawHandler_amount_le ?h rfl⟩
  case h => exact rfl

/-- **`withdraw_all` panics whenever the balance is below the fee.** -/
theorem withdrawAll_eq_error (h : s.balance.val < txCost s) :
    withdrawAll s address = .error .overflow := by
  rw [withdrawAll, withdrawHandler_eq, if_neg]
  rintro ⟨-, -, hfee⟩
  exact absurd (hfee (by simp only [Option.getD_none]; omega)) (by omega)

/-- An empty balance at a gas price of 1 wei: the 21000-wei fee exceeds it. -/
theorem withdrawAll_empty_balance :
    (Uint256.ofNat 0).val < txCost ⟨.xdai, .xdai, .ofNat 1, .ofNat 0⟩ ∧
      withdrawAll ⟨.xdai, .xdai, .ofNat 1, .ofNat 0⟩ ⟨0⟩ = .error .overflow :=
  ⟨by decide, withdrawAll_eq_error (by decide)⟩

/-- A bridge withdraw of everything from 0.0005 xDai: the fee is the hard-coded
    10 gwei × 80000 gas = 0.0008 xDai, whatever gas price is configured, and
    `balance - tx_cost` underflows. -/
theorem withdraw_all_below_bridge_fee (gasPrice : Uint256) (address : Address) :
    withdrawAll ⟨.xdai, .ethereum, gasPrice, .ofNat 500000000000000⟩ address = .error .overflow := by
  rw [withdrawAll, withdrawHandler_eq, if_neg]
  simp [txCost, txGasAndPrice, Uint256.ofNat]

/-! ## 4. The withdraws the handler dispatches to -/

/-- A secp256k1 private key, `clarity::PrivateKey`. -/
structure PrivateKey where
  bytes : BitVec 256
  deriving DecidableEq

/-- The payment settings `eth_compatable_withdraw` reads besides those of `PaymentSettings`:
    the node's own address and key, the chain id it signs for, and `nonce`, which it writes. -/
structure EthAccount where
  ethAddress : Option Address
  ethPrivateKey : Option PrivateKey
  nonce : Uint256
  netVersion : Option Nat
  deriving DecidableEq

/-- `clarity::Transaction` as `eth_compatable_withdraw` fills it in, before signing; its `data`
    is always empty, and `to` is named `toAddress` here. -/
structure Transaction where
  nonce : Uint256
  gasPrice : Uint256
  gasLimit : Uint256
  toAddress : Address
  value : Uint256
  deriving DecidableEq

/-- `tx.sign(key, net_version)`. -/
structure SignedTransaction where
  tx : Transaction
  key : PrivateKey
  netVersion : Option Nat

/-- A `web3` client error: the text `to_string()` gives, and the text `{:?}` gives. -/
structure Web3Error where
  display : String
  debug : String
  deriving DecidableEq

/-- What a withdraw reaches outside the router: `to_bytes()` of a signed transaction (with the
    `Debug` text of its error), the full node's `eth_send_raw_transaction`, and the token bridge's
    `setup_withdraw` (with the `Debug` text of its error). -/
structure Backend where
  toBytes : SignedTransaction → Except String (List UInt8)
  sendRawTransaction : List UInt8 → Except Web3Error Uint256
  setupWithdraw : Address → Uint256 → Except String Unit

/-- An `HttpResponse`: its status and the string it carries as JSON. -/
structure HttpResponse where
  status : Nat
  body : String
  deriving DecidableEq

/-- `s.contains(pat)` for a string pattern. -/
def strContains (s pat : String) : Bool := s.toList.tails.any pat.toList.isPrefixOf

/-- `format!("{:#066x}", n)`: `0x` and the lower-case hex digits, zero-padded to 66 characters. -/
def hex066 (n : Uint256) : String := "0x" ++ String.mk ((Nat.toDigits 16 n.val).leftpad 64 '0')

/-- Where `eth_compatable_withdraw` stands once its own code has run: it has answered, or it has
    sent a signed transaction and waits on `eth_send_raw_transaction`. -/
inductive EthSend
  | respond (response : HttpResponse)
  | sent (tx : Transaction) (bytes : List UInt8)

/-- `eth_compatable_withdraw` up to `eth_send_raw_transaction(transaction_bytes)`. -/
def ethCompatableWithdrawSend (toBytes : SignedTransaction → Except String (List UInt8))
    (s : PaymentSettings) (acct : EthAccount) (address : Address) (amount : Uint256) :
    Except Panic EthSend :=
  match acct.ethAddress with
  | none => pure (.respond ⟨504, "No Address configured, withdraw impossible!"⟩)
  | some _ => do
    let tx : Transaction := ⟨acct.nonce, s.gasPrice, .ofNat 21000, address, amount⟩
    let key ← expect acct.ethPrivateKey "No private key configured!"
    match toBytes ⟨tx, key, acct.netVersion⟩ with
    | .ok bytes => pure (.sent tx bytes)
    | .error e => pure (.respond ⟨500, "Transaction to bytes failed! " ++ e⟩)

/-- The closure `transaction_status.then(..)` runs on the node's answer, over the settings as
    they stand when it runs: on a transaction id it bumps `nonce`. -/
def ethCompatableWithdrawThen (result : Except Web3Error Uint256) (acct : EthAccount) :
    Except Panic (HttpResponse × EthAccount) :=
  match result with
  | .ok txId => do
    let nonce ← acct.nonce.add (.ofNat 1)
    pure (⟨200, "txid:" ++ hex066 txId⟩, { acct with nonce })
  | .error e =>
    if strContains e.display "nonce" then
      pure (⟨500, "The nonce was not updated, try again " ++ e.debug⟩, acct)
    else pure (⟨500, "Full node failed to send transaction! " ++ e.debug⟩, acct)

/-- `eth_compatable_withdraw(address, amount)`, run to its response. -/
def ethCompatableWithdraw (b : Backend) (s : PaymentSettings) (acct : EthAccount)
    (address : Address) (amount : Uint256) : Except Panic (HttpResponse × EthAccount) := do
  match ← ethCompatableWithdrawSend b.toBytes s acct address amount with
  | .respond r => pure (r, acct)
  | .sent _ bytes => ethCompatableWithdrawThen (b.sendRawTransaction bytes) acct

/-- `xdai_withdraw(address, amount)`. -/
def xdaiWithdraw (b : Backend) (address : Address) (amount : Uint256) : HttpResponse :=
  match b.setupWithdraw address amount with
  | .ok () => ⟨200, "View endpoints for progress"⟩
  | .error e => ⟨500, e⟩

/-- The response to a dispatched withdraw, and the account after it. `chainName` is
    `SystemChain`'s `Display`, which the refusal prints. -/
def Withdrawal.serve (chainName : SystemChain → String) (b : Backend) (s : PaymentSettings)
    (acct : EthAccount) : Withdrawal → Except Panic (HttpResponse × EthAccount)
  | .ethCompatableWithdraw address amount => Dashboard.ethCompatableWithdraw b s acct address amount
  | .xdaiWithdraw address amount => pure (Dashboard.xdaiWithdraw b address amount, acct)
  | .impossible systemChain withdrawChain =>
    pure (⟨500, "System chain is " ++ chainName systemChain ++ " but withdraw chain is " ++
      chainName withdrawChain ++ ", withdraw impossible!"⟩, acct)

/-- One request to `/withdraw/{address}/{amount}` (`amount` given) or `/withdraw_all/{address}`,
    with the payment settings and backend it meets. -/
structure WithdrawCall where
  settings : PaymentSettings
  backend : Backend
  address : Address
  amount : Option Uint256

/-- A request served: the handler, then the withdraw it dispatched to. -/
def WithdrawCall.serve (chainName : SystemChain → String) (c : WithdrawCall) (acct : EthAccount) :
    Except Panic (HttpResponse × EthAccount) := do
  let o ← withdrawHandler c.settings c.address c.amount
  o.withdrawal.serve chainName c.backend c.settings acct

/-- Requests served one after another, each over the account the last one left. -/
def serveCalls (chainName : SystemChain → String) :
    List WithdrawCall → EthAccount → Except Panic (List HttpResponse × EthAccount)
  | [], acct => pure ([], acct)
  | c :: cs, acct => do
    let (r, acct) ← c.serve chainName acct
    let (rs, acct) ← serveCalls chainName cs acct
    pure (r :: rs, acct)

/-! ## 5. The nonce counts the transactions the node took -/

/-- A response reporting a transaction the node took: 200, with a body starting "txid:". -/
def HttpResponse.isTxid (r : HttpResponse) : Bool :=
  r.status == 200 && "txid:".toList.isPrefixOf r.body.toList

/-- `acct'` is `acct` with its nonce moved on by `n`. -/
def EthAccount.Bumped (acct acct' : EthAccount) (n : Nat) : Prop :=
  acct' = { acct with nonce := acct'.nonce } ∧ acct'.nonce.val = acct.nonce.val + n

theorem EthAccount.bumped_refl (acct : EthAccount) : acct.Bumped acct 0 := ⟨rfl, rfl⟩

theorem EthAccount.bumped_of_not_isTxid (acct : EthAccount) {r : HttpResponse}
    (h : r.isTxid = false) : acct.Bumped acct (if r.isTxid then 1 else 0) := by
  rw [h]
  exact acct.bumped_refl

theorem HttpResponse.isTxid_of_status {r : HttpResponse} (h : r.status ≠ 200) : r.isTxid = false := by
  simp [HttpResponse.isTxid, h]

theorem EthAccount.Bumped.trans {a b c : EthAccount} {m n : Nat} (h₁ : a.Bumped b m)
    (h₂ : b.Bumped c n) : a.Bumped c (m + n) := by
  obtain ⟨hb, hbn⟩ := h₁
  obtain ⟨hc, hcn⟩ := h₂
  refine ⟨?_, by omega⟩
  rw [hc, hb]

variable {chainName : SystemChain → String} {b : Backend} {s : PaymentSettings}
  {acct acct' : EthAccount} {r : HttpResponse} {address : Address} {amount : Uint256}

/-- What `eth_compatable_withdraw` can do before the node answers: refuse with 504 or 500, or
    send the transaction that spends the current nonce. -/
theorem ethCompatableWithdrawSend_cases {toBytes : SignedTransaction → Except String (List UInt8)}
    {st : EthSend} (h : ethCompatableWithdrawSend toBytes s acct address amount = .ok st) :
    (∃ r, st = .respond r ∧ (r.status = 504 ∨ r.status = 500)) ∨
      ∃ bytes, st = .sent ⟨acct.nonce, s.gasPrice, .ofNat 21000, address, amount⟩ bytes := by
  rcases acct with ⟨_ | _, _ | key, _, _⟩
  · cases h; exact .inl ⟨_, rfl, .inl rfl⟩
  · cases h; exact .inl ⟨_, rfl, .inl rfl⟩
  · cases h
  · simp only [ethCompatableWithdrawSend, expect_some, ok_bind] at h
    split at h <;> cases h
    · exact .inr ⟨_, rfl⟩
    · exact .inl ⟨_, rfl, .inr rfl⟩

theorem ethCompatableWithdrawThen_bumped {result : Except Web3Error Uint256}
    (h : ethCompatableWithdrawThen result acct = .ok (r, acct')) :
    acct.Bumped acct' (if result.isOk then 1 else 0) ∧ r.isTxid = result.isOk := by
  unfold ethCompatableWithdrawThen at h
  split at h
  · by_cases hn : acct.nonce.val + 1 < 2 ^ 256
    · simp only [Uint256.add_of_lt (b := .ofNat 1) hn, ok_bind] at h
      cases h
      exact ⟨⟨rfl, rfl⟩, by simp [HttpResponse.isTxid, List.isPrefixOf, Except.isOk, Except.toBool]⟩
    · simp only [Uint256.add_of_not_lt (b := .ofNat 1) hn, error_bind] at h
      cases h
  · split at h <;> cases h <;> exact ⟨acct.bumped_refl, rfl⟩

theorem ethCompatableWithdraw_bumped
    (h : ethCompatableWithdraw b s acct address amount = .ok (r, acct')) :
    acct.Bumped acct' (if r.isTxid then 1 else 0) := by
  obtain ⟨st, hs, h⟩ := bind_eq_ok.1 h
  obtain ⟨r₀, rfl, hr⟩ | ⟨bytes, rfl⟩ := ethCompatableWithdrawSend_cases hs
  · cases h
    exact acct.bumped_of_not_isTxid (HttpResponse.isTxid_of_status (by omega))
  · obtain ⟨hb, hr⟩ := ethCompatableWithdrawThen_bumped h
    rwa [hr]

theorem Withdrawal.serve_bumped {w : Withdrawal} (h : w.serve chainName b s acct = .ok (r, acct')) :
    acct.Bumped acct' (if r.isTxid then 1 else 0) := by
  cases w with
  | ethCompatableWithdraw => exact ethCompatableWithdraw_bumped h
  | xdaiWithdraw address amount =>
    cases h
    refine acct.bumped_of_not_isTxid ?_
    unfold Dashboard.xdaiWithdraw
    split <;> rfl
  | impossible => cases h; exact acct.bumped_of_not_isTxid rfl

theorem WithdrawCall.serve_bumped {c : WithdrawCall} (h : c.serve chainName acct = .ok (r, acct')) :
    acct.Bumped acct' (if r.isTxid then 1 else 0) := by
  obtain ⟨o, -, h⟩ := bind_eq_ok.1 h
  exact Withdrawal.serve_bumped h

/-- **The nonce counts the transactions the node took.** Over any run of withdraw requests that
    does not panic, the account changes only in its nonce, and the nonce moves on by exactly the
    number of "txid:" answers. -/
theorem serveCalls_nonce {calls : List WithdrawCall} {rs : List HttpResponse}
    (h : serveCalls chainName calls acct = .ok (rs, acct')) :
    acct' = { acct with nonce := acct'.nonce } ∧
      acct'.nonce.val = acct.nonce.val + rs.countP HttpResponse.isTxid := by
  induction calls generalizing acct rs with
  | nil => cases h; exact EthAccount.bumped_refl _
  | cons c cs ih =>
    obtain ⟨⟨r, a₁⟩, hc, h⟩ := bind_eq_ok.1 h
    obtain ⟨⟨rs', a₂⟩, hcs, h⟩ := bind_eq_ok.1 h
    cases h
    have := (WithdrawCall.serve_bumped hc).trans (ih hcs)
    rwa [List.countP_cons, Nat.add_comm (List.countP _ _)]

/-- A withdraw on Xdai, which the node takes, then a bridge withdraw: the nonce moves on once. -/
theorem serveCalls_eth_then_bridge :
    let acct : EthAccount := ⟨some ⟨0⟩, some ⟨0⟩, .ofNat 7, some 100⟩
    let b : Backend := ⟨fun _ => .ok [], fun _ => .ok (.ofNat 1), fun _ _ => .ok ()⟩
    let s : PaymentSettings := ⟨.xdai, .xdai, .ofNat 1, .ofNat 1000000000000000000⟩
    ∃ rs acct', serveCalls (fun _ => "") [⟨s, b, ⟨1⟩, some (.ofNat 5)⟩,
        ⟨{ s with withdrawChain := .ethereum }, b, ⟨1⟩, some (.ofNat 5)⟩] acct = .ok (rs, acct') ∧
      acct' = { acct with nonce := acct'.nonce } ∧
      acct'.nonce.val = acct.nonce.val + rs.countP HttpResponse.isTxid := by
  dsimp only
  refine ⟨?rs, ?acct, ?h, serveCalls_nonce ?h⟩
  case h => exact rfl

end Dashboard
end Rita
