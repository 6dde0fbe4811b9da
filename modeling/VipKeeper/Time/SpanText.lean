import VipKeeper.Net.Address
import VipKeeper.Text.Blank
import VipKeeper.Time.Span

/-! Spans of time as people write them: numbers with units, added up. -/

namespace VipKeeper

/-- A unit of time. Shorter ones are counted in nanoseconds, longer ones in seconds, and a fraction of a unit
is rounded down to the same measure; minutes are counted in seconds, their fractions in nanoseconds. -/
structure TimeUnit where
  nanoseconds : Nat
  seconds : Nat
  fraction : Option Span
  deriving DecidableEq

namespace TimeUnit

def short (nanoseconds : Nat) : TimeUnit := ⟨nanoseconds, 0, some ⟨nanoseconds⟩⟩

def long (seconds : Nat) : TimeUnit := ⟨0, seconds, some (Span.ofSeconds seconds)⟩

/-- A month is a twelfth of a year, and a year has a quarter of a day more than 365. -/
def named : List (List String × TimeUnit) := [
  (["nanos", "nsec", "ns"], ⟨1, 0, none⟩),
  (["usec", "us", "µs"], short 1000),
  (["millis", "msec", "ms"], short 1000000),
  (["seconds", "second", "secs", "sec", "s"], long 1),
  (["minutes", "minute", "min", "mins", "m"], long 60),
  (["hours", "hour", "hr", "hrs", "h"], long 3600),
  (["days", "day", "d"], long 86400),
  (["weeks", "week", "wk", "wks", "w"], long 604800),
  (["months", "month", "M"], long 2630016),
  (["years", "year", "yr", "yrs", "y"], long 31557600)]

def ofName? (name : String) : Option TimeUnit :=
  (named.find? (fun entry => entry.1.contains name)).map Prod.snd

def isLetter (c : Char) : Bool :=
  c.isAlpha || c == 'µ'

end TimeUnit

namespace Span

/-- The bound of what numbers in a text may come to. -/
def bound : Nat := UInt64.size

def below (value : Nat) : Option Nat :=
  if value < bound then some value else none

/-- The digits after a point: their value and the power of ten that they are divided by. -/
structure Fraction where
  value : Nat
  scale : Nat

/-- Reads the digits after a point, with white space between them, up to a letter. -/
def readFraction (fraction : Fraction) : List Char → Option (Fraction × List Char)
  | [] => if fraction.scale = 1 then none else some (fraction, [])
  | c :: rest =>
    match Address.digit? 10 c with
    | some digit => do
      let scale ← below (fraction.scale * 10)
      let value ← below (fraction.value * 10 + digit)
      readFraction ⟨value, scale⟩ rest
    | none =>
      if Text.isBlank c then readFraction fraction rest
      else if TimeUnit.isLetter c && fraction.scale ≠ 1 then some (fraction, c :: rest)
      else none

/-- Reads the digits of a number, with white space between them, and its fraction if it has one. -/
def readAmount (value : Nat) : List Char → Option (Nat × Option Fraction × List Char)
  | [] => some (value, none, [])
  | c :: rest =>
    match Address.digit? 10 c with
    | some digit => do readAmount (← below (value * 10 + digit)) rest
    | none =>
      if Text.isBlank c then readAmount value rest
      else if TimeUnit.isLetter c then some (value, none, c :: rest)
      else if c = '.' then
        (readFraction ⟨0, 1⟩ rest).map (fun (fraction, rest) => (value, some fraction, rest))
      else none

/-- Adds seconds and nanoseconds to a span, as long as all of them stay below the bound. -/
def extend (total : Span) (seconds nanoseconds : Nat) : Option Span := do
  let nanoseconds ← below (total.subsecond + (← below nanoseconds))
  let seconds ← below (total.seconds + (← below seconds))
  let sum := Span.ofParts seconds nanoseconds
  if sum.isTellable then some sum else none

/-- A fraction of a minute or less is told in nanoseconds, one of a longer unit in seconds. -/
def extendFraction (total : Span) (unit : TimeUnit) (fraction : Fraction) : Option Span :=
  match unit.fraction with
  | none => none
  | some whole =>
    if whole.seconds ≤ 60 then do
      total.extend 0 ((← below (fraction.value * whole.nanoseconds)) / fraction.scale)
    else do
      total.extend ((← below (fraction.value * whole.seconds)) / fraction.scale) 0

def extendBy (total : Span) (unit : TimeUnit) (amount : Nat) (fraction : Option Fraction) : Option Span := do
  let whole ← total.extend (amount * unit.seconds) (amount * unit.nanoseconds)
  match fraction with
  | none => return whole
  | some fraction => whole.extendFraction unit fraction

/-- Reads parts until the text ends; a part begins with a digit. -/
def readParts (total : Span) (text : List Char) : Option Span :=
  if text.head?.any (Address.isDigit 10) then
    match readAmount 0 text with
    | none => none
    | some (amount, fraction, rest) =>
      match TimeUnit.ofName? (String.ofList (rest.takeWhile TimeUnit.isLetter)) with
      | none => none
      | some unit =>
        match total.extendBy unit amount fraction with
        | none => none
        | some sum =>
          let later := (rest.dropWhile TimeUnit.isLetter).dropWhile Text.isBlank
          if later.isEmpty then some sum
          else if later.length < text.length then readParts sum later
          else none
  else none
termination_by text.length

/-- Reads a span such as `1m 30s`. A zero needs no unit. -/
def ofText? (text : String) : Option Span :=
  if text = "0" then some zero else readParts zero (text.toList.dropWhile Text.isBlank)

end Span

end VipKeeper
