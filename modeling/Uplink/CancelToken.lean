import Uplink.Duration

/-!
# Cancel tokens

A token that can be copied: the copies share one flag, and each carries the deadline that the first
of them was made with. A token is cancelled once its flag is raised or its deadline has passed.

## Main definitions

- `CancelToken`: which flag a token reads, and its deadline.
- `CancelToken.Flags`: the flags there are.
- `CancelToken.isCancelled`: whether a token is cancelled at an instant.
- `TokenPool`: tokens that are made, copied and cancelled in the course of time.
-/

namespace Uplink

/-- A token: the index of the flag it reads, and when it cancels itself. -/
structure CancelToken where
  flag : Nat
  deadline : Option Instant
  deriving DecidableEq, Repr

namespace CancelToken

/-- All flags, raised or not. -/
abbrev Flags := List Bool

/-- Makes a token with a flag of its own and a given deadline. -/
def make (flags : Flags) (deadline : Option Instant) : CancelToken × Flags :=
  (⟨flags.length, deadline⟩, flags ++ [false])

/-- A token that is only cancelled by hand. -/
def fresh (flags : Flags) : CancelToken × Flags := make flags none

/-- A token that cancels itself after a while. A deadline beyond the range of the clock never
comes. -/
def withTimeout (flags : Flags) (now : Instant) (limit : Duration) : CancelToken × Flags :=
  make flags (now.after? limit)

/-- Raises the flag that the token shares with its copies. -/
def cancel (t : CancelToken) (flags : Flags) : Flags := flags.set t.flag true

/-- Whether the token is cancelled at an instant. -/
def isCancelled (t : CancelToken) (flags : Flags) (now : Instant) : Bool :=
  flags.getD t.flag false ||
    match t.deadline with
    | some deadline => deadline.reachedAt now
    | none => false

end CancelToken

/-- What can happen to tokens. -/
inductive TokenOperation where
  | fresh
  | withTimeout (limit : Duration)
  /-- Copies the `i`-th token. -/
  | copy (i : Nat)
  /-- Cancels the `i`-th token. -/
  | cancel (i : Nat)
  | pass (d : Duration)
  deriving DecidableEq, Repr

/-- Tokens in the order in which they were made, and the time. -/
structure TokenPool where
  tokens : List CancelToken := []
  flags : CancelToken.Flags := []
  now : Instant := ⟨0⟩
  deriving DecidableEq, Repr

namespace TokenPool

/-- Adds a token that was just made. -/
def add (p : TokenPool) (made : CancelToken × CancelToken.Flags) : TokenPool :=
  { p with tokens := p.tokens ++ [made.1], flags := made.2 }

/-- The pool after an operation; one on a token that does not exist changes nothing. -/
def apply (p : TokenPool) : TokenOperation → TokenPool
  | .fresh => p.add (CancelToken.fresh p.flags)
  | .withTimeout limit => p.add (CancelToken.withTimeout p.flags p.now limit)
  | .copy i => { p with tokens := p.tokens ++ p.tokens[i]?.toList }
  | .cancel i =>
    match p.tokens[i]? with
    | some t => { p with flags := t.cancel p.flags }
    | none => p
  | .pass d => { p with now := p.now.later d }

/-- Which of the tokens are cancelled. -/
def cancelled (p : TokenPool) : List Bool :=
  p.tokens.map fun t => t.isCancelled p.flags p.now

end TokenPool

end Uplink
