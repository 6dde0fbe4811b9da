/-! SipHash, a keyed digest of 64 bits. -/

namespace VipKeeper.SipHash

/-- How many rounds follow each word of the message, and how many follow the last. -/
structure Rounds where
  word : Nat
  last : Nat

structure State where
  a : UInt64
  b : UInt64
  c : UInt64
  d : UInt64

def rotate (x : UInt64) (bits : UInt64) : UInt64 :=
  x <<< bits ||| x >>> (64 - bits)

def round (s : State) : State :=
  let a := s.a + s.b
  let b := rotate s.b 13 ^^^ a
  let a := rotate a 32
  let c := s.c + s.d
  let d := rotate s.d 16 ^^^ c
  let a := a + d
  let d := rotate d 21 ^^^ a
  let c := c + b
  let b := rotate b 17 ^^^ c
  let c := rotate c 32
  ⟨a, b, c, d⟩

def rounds : Nat → State → State
  | 0, state => state
  | n + 1, state => rounds n (round state)

def start (first second : UInt64) : State :=
  ⟨first ^^^ 0x736f6d6570736575, second ^^^ 0x646f72616e646f6d,
    first ^^^ 0x6c7967656e657261, second ^^^ 0x7465646279746573⟩

def absorb (n : Nat) (state : State) (word : UInt64) : State :=
  let mixed := rounds n { state with d := state.d ^^^ word }
  { mixed with a := mixed.a ^^^ word }

/-- The word of at most eight bytes, the first of them in the lowest place. -/
def word (bytes : List UInt8) : UInt64 :=
  bytes.foldr (fun byte rest => rest <<< 8 ||| byte.toUInt64) 0

/-- Takes in all words of eight bytes; what is left makes the last word together with the length. -/
def absorbAll (n : Nat) (length : Nat) (state : State) (bytes : List UInt8) : State :=
  if 8 ≤ bytes.length then
    absorbAll n length (absorb n state (word (bytes.take 8))) (bytes.drop 8)
  else absorb n state (length.toUInt64 <<< 56 ||| word bytes)
termination_by bytes.length

def digest (count : Rounds) (first second : UInt64) (bytes : List UInt8) : UInt64 :=
  let state := absorbAll count.word bytes.length (start first second) bytes
  let state := rounds count.last { state with c := state.c ^^^ 0xFF }
  state.a ^^^ state.b ^^^ state.c ^^^ state.d

end VipKeeper.SipHash
