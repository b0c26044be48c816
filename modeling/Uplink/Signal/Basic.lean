/-!
# Signals

A signal that stays as it is put: once it is set, everyone who waits for it may pass until it is
cleared. A producer that gives up abandons it, which sends waiters away empty-handed; a signal that
is set cannot be abandoned.

## Main definitions

- `Signal`: the three positions.
- `Signal.raise`, `Signal.abandon`, `Signal.clear`: the three operations.
- `Signal.verdict?`: what a position tells a waiter, if anything.
-/

namespace Uplink

/-- The position of a signal. -/
inductive Signal where
  /-- Nothing has happened; waiters wait. -/
  | pending
  /-- What is waited for has happened. -/
  | set
  /-- It will not happen. -/
  | abandoned
  deriving DecidableEq, Repr

namespace Signal

/-- Sets the signal. -/
def raise (_ : Signal) : Signal := set

/-- Gives the signal up unless it is set. -/
def abandon : Signal → Signal
  | pending => abandoned
  | s => s

/-- Takes everything back. -/
def clear (_ : Signal) : Signal := pending

/-- Whether the signal is set. -/
def isSet (s : Signal) : Bool := s == set

/-- What a waiter learns from the position: to pass, to go away, or nothing yet. -/
def verdict? : Signal → Option Bool
  | pending => none
  | set => some true
  | abandoned => some false

@[simp] theorem isSet_raise (s : Signal) : s.raise.isSet = true := rfl

@[simp] theorem isSet_clear (s : Signal) : s.clear.isSet = false := rfl

@[simp] theorem isSet_abandon (s : Signal) : s.abandon.isSet = s.isSet := by
  cases s <;> rfl

end Signal

end Uplink
