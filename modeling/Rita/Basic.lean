import Mathlib.Data.List.AList

/-!
# `Rita/Basic.lean` — the standard-library surface the modelled code stands on

Addresses (`std::net`), process exit statuses (`std::process`), and the one way a Rust
thread stops without returning: a panic. Every function of the model that can panic returns
`Except Panic _`, and the panic carries the text the source passes to `expect`, so which
`expect` fires is something the model computes, not something read off a comment.

Nothing here is specific to one component; the relay, discovery, the wallet and the tunnel
GC all import it.
-/

set_option autoImplicit false

namespace Rita

/-- How a thread of the source stops without returning. `expect msg` is
    `Option::expect`/`Result::expect` failing with its message; `unimplemented` is the
    `unimplemented!()` macro; `overflow` is checked arithmetic that does not fit. -/
inductive Panic
  | unimplemented
  | expect (msg : String)
  | overflow
  deriving DecidableEq, Repr

/-- `o.expect msg`: the value, or the panic the source names. -/
def expect {α : Type} (o : Option α) (msg : String) : Except Panic α :=
  match o with
  | some a => .ok a
  | none => .error (.expect msg)

@[simp] theorem expect_some {α : Type} (a : α) (msg : String) :
    expect (some a) msg = .ok a := rfl

@[simp] theorem expect_none {α : Type} (msg : String) :
    expect (none : Option α) msg = .error (.expect msg) := rfl

/-- `o.unwrap()`: `expect` with the standard library's message. -/
def unwrap {α : Type} (o : Option α) : Except Panic α :=
  expect o "called `Option::unwrap()` on a `None` value"

@[simp] theorem unwrap_some {α : Type} (a : α) : unwrap (some a) = .ok a := rfl

/-- `r.unwrap()` on a `Result`: `expect` with the standard library's message. -/
def unwrapResult {ε α : Type} (r : Except ε α) : Except Panic α :=
  expect r.toOption "called `Result::unwrap()` on an `Err` value"

@[simp] theorem ok_bind {ε α β : Type} (a : α) (f : α → Except ε β) :
    (Except.ok a >>= f) = f a := rfl

@[simp] theorem error_bind {ε α β : Type} (e : ε) (f : α → Except ε β) :
    (Except.error e >>= f) = .error e := rfl
theorem pure_ok {ε α : Type} (a : α) : (pure a : Except ε α) = .ok a := rfl

/-- A bind that succeeds: its first step succeeded, and so did the rest from there. -/
theorem bind_eq_ok {ε α β : Type} {x : Except ε α} {f : α → Except ε β} {b : β} :
    (x >>= f) = .ok b ↔ ∃ a, x = .ok a ∧ f a = .ok b := by
  cases x with
  | error e => exact ⟨fun h => (nomatch h), fun ⟨_, h, _⟩ => (nomatch h)⟩
  | ok a => exact ⟨fun h => ⟨a, rfl, h⟩, fun ⟨_, h, hf⟩ => by cases h; exact hf⟩

/-! ## Addresses -/

/-- `std::net::Ipv4Addr`, by its four octets. -/
structure Ipv4Addr where
  o0 : UInt8
  o1 : UInt8
  o2 : UInt8
  o3 : UInt8
  deriving DecidableEq, Repr

/-- `std::net::IpAddr`. The bits of a v6 address are read only as a key, by the peer listener. -/
inductive IpAddr
  | v4 (a : Ipv4Addr)
  | v6 (bits : BitVec 128)
  deriving DecidableEq, Repr

/-- `std::net::SocketAddr`: an address and a port. -/
structure SocketAddr where
  ip : IpAddr
  port : UInt16
  deriving DecidableEq, Repr

/-! ## Process exit statuses

`std::process::ExitStatus` on Unix wraps the raw wait status `waitpid` reports. `code()` is
`WEXITSTATUS` when the process exited normally (`WIFEXITED`), and `None` when a signal ended
it — so a code is always one byte. -/

/-- `std::process::ExitStatus`, as its raw wait status (a C `int`, never negative here). -/
structure ExitStatus where
  raw : Nat
  deriving DecidableEq, Repr

namespace ExitStatus

/-- `ExitStatus::code`: `Some ((raw >> 8) & 0xff)` if `raw & 0x7f = 0`, else `None`. -/
def code (s : ExitStatus) : Option Nat :=
  if s.raw % 128 = 0 then some (s.raw / 256 % 256) else none

/-- The status of a process that called `exit(c)`. -/
def ofCode (c : Nat) : ExitStatus := ⟨c * 256⟩

/-- **An exit code is one byte.** Whatever the wait status, `code()` never reports a
    value above 255. -/
theorem code_lt {s : ExitStatus} {c : Nat} (h : s.code = some c) : c < 256 := by
  unfold code at h
  split at h
  · cases h; exact Nat.mod_lt _ (by decide)
  · cases h

theorem code_ofCode {c : Nat} (hc : c < 256) : (ofCode c).code = some c := by
  simp only [code, ofCode]
  rw [if_pos (by omega)]
  congr 1
  omega

end ExitStatus

/-- `std::process::Output`. Only the status is read by the modelled code; the captured
    stdout and stderr are left out. -/
structure Output where
  status : ExitStatus
  deriving DecidableEq, Repr

end Rita
