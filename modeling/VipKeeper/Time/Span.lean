/-! Spans of time, to the nanosecond. -/

namespace VipKeeper

structure Span where
  nanoseconds : Nat
  deriving DecidableEq

namespace Span

def perSecond : Nat := 1000000000
def perMilli : Nat := 1000000

def zero : Span := ⟨0⟩

def ofParts (seconds nanoseconds : Nat) : Span :=
  ⟨seconds * perSecond + nanoseconds⟩

def ofSeconds (n : Nat) : Span := ⟨n * perSecond⟩
def ofMillis (n : Nat) : Span := ⟨n * perMilli⟩
def ofMicros (n : Nat) : Span := ⟨n * 1000⟩

/-- Whole seconds; the rest is in `subsecond`. -/
def seconds (span : Span) : Nat := span.nanoseconds / perSecond

def subsecond (span : Span) : Nat := span.nanoseconds % perSecond

/-- Whole milliseconds. -/
def millis (span : Span) : Nat := span.nanoseconds / perMilli

/-- Milliseconds, a begun one counted as a whole. -/
def millisUp (span : Span) : Nat := (span.nanoseconds + (perMilli - 1)) / perMilli

/-- The longest span that can be told has `2 ^ 64` seconds less one nanosecond. -/
def isTellable (span : Span) : Bool :=
  decide (span.seconds < UInt64.size)

instance : LE Span := ⟨fun a b => a.nanoseconds ≤ b.nanoseconds⟩

instance (a b : Span) : Decidable (a ≤ b) := Nat.decLe _ _

instance : Min Span := ⟨fun a b => if a ≤ b then a else b⟩

end Span

end VipKeeper
