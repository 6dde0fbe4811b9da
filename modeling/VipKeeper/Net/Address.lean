import VipKeeper.Ordered

/-! IP addresses: their order, their text, and the reading of texts.

The text of a version 6 address follows RFC 5952: the first longest run of at least two zero groups is
written `::`, and a mapped version 4 address keeps its dotted part. -/

namespace VipKeeper

inductive Address where
  | v4 (a b c d : UInt8)
  | v6 (groups : Vector UInt16 8)
  deriving DecidableEq

namespace Address

/-- The version and then the parts of an address, most significant first. -/
def parts : Address → List Nat
  | v4 a b c d => [4, a.toNat, b.toNat, c.toNat, d.toNat]
  | v6 groups => 6 :: groups.toList.map UInt16.toNat

theorem parts_injective {first second : Address} (same : first.parts = second.parts) : first = second := by
  cases first <;> cases second
  · simpa [parts, UInt8.toNat_inj] using same
  · simp [parts] at same
  · simp [parts] at same
  · next groups others =>
    simp only [parts, List.cons.injEq, true_and] at same
    have equal : groups.toList = others.toList :=
      List.map_inj_right (fun _ _ => UInt16.toNat_inj.1) |>.1 same
    exact congrArg v6 (Vector.toList_inj.1 equal)

/-- Every version 4 address comes before every version 6 address; inside a version the order is numeric. -/
instance : Ranked Address where
  before a b := decide (a.parts < b.parts)
  irrefl a := by simp
  trans := by simp only [decide_eq_true_eq]; exact List.lt_trans
  total := by
    intro a b first second
    simp only [decide_eq_false_iff_not] at first second
    rcases Std.lt_trichotomy a.parts b.parts with below | same | above
    · exact absurd below first
    · exact parts_injective same
    · exact absurd above second

/-! ### Text -/

def decimal (n : Nat) : List Char :=
  Nat.toDigits 10 n

def dotted (a b c d : UInt8) : List Char :=
  decimal a.toNat ++ '.' :: decimal b.toNat ++ '.' :: decimal c.toNat ++ '.' :: decimal d.toNat

/-- Groups in hexadecimal with colons between them. -/
def colonned (groups : List UInt16) : List Char :=
  List.intercalate [':'] (groups.map (fun group => Nat.toDigits 16 group.toNat))

/-- Start and length of the first longest run of zero groups. -/
def longestZeros (groups : List UInt16) : Nat × Nat :=
  (List.range groups.length).foldl
    (fun best start =>
      let length := ((groups.drop start).takeWhile (· == 0)).length
      if best.2 < length then (start, length) else best)
    (0, 0)

/-- The last two groups of an address of the block `::ffff:0:0/96`. -/
def mapped? : List UInt16 → Option (UInt16 × UInt16)
  | [0, 0, 0, 0, 0, 0xFFFF, high, low] => some (high, low)
  | _ => none

def compressed (groups : List UInt16) : List Char :=
  match mapped? groups with
  | some (high, low) =>
    "::ffff:".toList ++ dotted (high >>> 8).toUInt8 high.toUInt8 (low >>> 8).toUInt8 low.toUInt8
  | none =>
    let run := longestZeros groups
    if 1 < run.2 then
      colonned (groups.take run.1) ++ ':' :: ':' :: colonned (groups.drop (run.1 + run.2))
    else colonned groups

def chars : Address → List Char
  | v4 a b c d => dotted a b c d
  | v6 groups => compressed groups.toList

def text (address : Address) : String :=
  String.ofList address.chars

/-! ### Reading -/

def digit? (base : Nat) (c : Char) : Option Nat :=
  let value :=
    if '0' ≤ c ∧ c ≤ '9' then some (c.toNat - '0'.toNat)
    else if 'a' ≤ c ∧ c ≤ 'z' then some (c.toNat - 'a'.toNat + 10)
    else if 'A' ≤ c ∧ c ≤ 'Z' then some (c.toNat - 'A'.toNat + 10)
    else none
  value.filter (· < base)

def isDigit (base : Nat) (c : Char) : Bool :=
  (digit? base c).isSome

def digitsValue (base : Nat) (digits : List Char) : Nat :=
  digits.foldl (fun value c => value * base + (digit? base c).getD 0) 0

/-- All leading digits of a base, of which there must be one and at most a given number, and what follows. -/
def readNumber (base most : Nat) (text : List Char) : Option (List Char × List Char) :=
  let digits := text.takeWhile (isDigit base)
  if digits.isEmpty || decide (most < digits.length) then none
  else some (digits, text.dropWhile (isDigit base))

/-- An octet in decimal without a leading zero. -/
def readOctet (text : List Char) : Option (UInt8 × List Char) :=
  match readNumber 10 3 text with
  | none => none
  | some (digits, rest) =>
    let value := digitsValue 10 digits
    if (digits.head? == some '0' && decide (1 < digits.length)) || decide (255 < value) then none
    else some (value.toUInt8, rest)

def skip (c : Char) : List Char → Option (List Char)
  | [] => none
  | head :: rest => if head = c then some rest else none

def readDotted (text : List Char) : Option ((UInt8 × UInt8 × UInt8 × UInt8) × List Char) := do
  let (a, rest) ← readOctet text
  let (b, rest) ← readOctet (← skip '.' rest)
  let (c, rest) ← readOctet (← skip '.' rest)
  let (d, rest) ← readOctet (← skip '.' rest)
  return ((a, b, c, d), rest)

def readGroup (text : List Char) : Option (UInt16 × List Char) :=
  (readNumber 16 4 text).map (fun (digits, rest) => ((digitsValue 16 digits).toUInt16, rest))

def joined (high low : UInt8) : UInt16 :=
  high.toUInt16 <<< 8 ||| low.toUInt16

/-- As many groups as follow each other, up to a limit, the first of them with no colon before it. Where two
groups still fit a dotted address may stand for them; it ends the reading, and the second result tells so. -/
def readGroups : Nat → Bool → List Char → List UInt16 × Bool × List Char
  | 0, _, text => ([], false, text)
  | limit + 1, leading, text =>
    match if leading then some text else skip ':' text with
    | none => ([], false, text)
    | some body =>
      match if limit = 0 then none else readDotted body with
      | some ((a, b, c, d), rest) => ([joined a b, joined c d], true, rest)
      | none =>
        match readGroup body with
        | none => ([], false, text)
        | some (group, rest) =>
          let (groups, ended, rest) := readGroups limit false rest
          (group :: groups, ended, rest)

/-- Eight groups, or fewer with one `::` that stands for at least one zero group. -/
def readCompressed (text : List Char) : Option (Vector UInt16 8 × List Char) :=
  let (front, dottedEnd, rest) := readGroups 8 true text
  if full : front.length = 8 then some (⟨front.toArray, by simpa using full⟩, rest)
  else if dottedEnd then none
  else do
    let rest ← skip ':' (← skip ':' rest)
    let (back, _, rest) := readGroups (7 - front.length) true rest
    let groups := front ++ List.replicate (8 - front.length - back.length) 0 ++ back
    if full : groups.length = 8 then some (⟨groups.toArray, by simpa using full⟩, rest) else none

/-- Reads a whole text as an address. A text that begins with a dotted address is none of version 6. -/
def ofChars? (text : List Char) : Option Address :=
  match readDotted text with
  | some ((a, b, c, d), rest) => if rest.isEmpty then some (v4 a b c d) else none
  | none =>
    match readCompressed text with
    | some (groups, rest) => if rest.isEmpty then some (v6 groups) else none
    | none => none

def ofText? (text : String) : Option Address :=
  ofChars? text.toList

end Address

end VipKeeper
