import VipKeeper.Time.Span

/-! Waiting times between attempts that fail. -/

namespace VipKeeper

/-- The waiting time doubles from a base with every failure, up to a limit. -/
structure Backoff where
  base : Span
  limit : Span
  deriving DecidableEq

namespace Backoff

def default : Backoff :=
  ⟨Span.ofMillis 5, Span.ofSeconds 1000⟩

/-- The failures after which the waiting time is the limit, whatever the base. -/
def saturation : Nat := 32

/-- The waiting time after a number of earlier failures. -/
def delay (backoff : Backoff) (failures : Nat) : Span :=
  if failures < saturation then
    let doubled : Span := ⟨backoff.base.nanoseconds * Nat.pow 2 failures⟩
    if doubled.isTellable then min doubled backoff.limit else backoff.limit
  else backoff.limit

end Backoff

end VipKeeper
