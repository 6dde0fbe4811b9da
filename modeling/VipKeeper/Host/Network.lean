import VipKeeper.Net.Address
import VipKeeper.Text.Numeral

/-! A host that is on no network: nobody can listen on it, and nobody can be reached from it. -/

namespace VipKeeper

inductive NetworkProblem where
  | noPort
  | badPort
  | badHost
  | unknownHost
  | unavailable
  | unreachable
  deriving DecidableEq

namespace NetworkProblem

def message : NetworkProblem → String
  | noPort => "invalid socket address"
  | badPort => "invalid port value"
  | badHost => "failed to lookup address information: Name or service not known"
  | unknownHost => "failed to lookup address information: Temporary failure in name resolution"
  | unavailable => "Cannot assign requested address (os error 99)"
  | unreachable => "Network is unreachable (os error 101)"

end NetworkProblem

namespace Network

/-- The parts of a text around its last colon. -/
def hostAndPort? (text : List Char) : Option (List Char × List Char) :=
  if ':' ∈ text then
    let reversed := text.reverse
    some ((reversed.dropWhile (· != ':')).tail.reverse, (reversed.takeWhile (· != ':')).reverse)
  else none

def isPort (text : List Char) : Bool :=
  match Text.natural? text with
  | some n => decide (n < UInt16.size)
  | none => false

/-- A version 6 address may stand in brackets. -/
def isHostAddress (text : List Char) : Bool :=
  match text with
  | '[' :: rest =>
    rest.getLast? == some ']' && rest.contains ':' && (Address.ofText? (String.ofList rest.dropLast)).isSome
  | _ => (Address.ofText? (String.ofList text)).isSome

/-- The longest part of a host name between two periods. -/
def longestLabel : Nat := 63

/-- Whether a text has the form of a host name: letters, digits, hyphens and underscores in parts that are
neither empty nor too long, of which the first begins with no hyphen. A period may stand at the end. -/
def isHostName (text : List Char) : Bool :=
  let parts := (if text.getLast? = some '.' then text.dropLast else text).splitOn '.'
  text.head? != some '-' && parts.all (fun part =>
    !part.isEmpty && decide (part.length ≤ longestLabel) &&
      part.all (fun c => c.isAlphanum || c == '-' || c == '_'))

/-- What becomes of listening on an address that is given as a text. -/
def listen (address : String) : NetworkProblem :=
  match hostAndPort? address.toList with
  | none => .noPort
  | some (host, port) =>
    if !isPort port then .badPort
    else if isHostAddress host then .unavailable
    else if isHostName host then .unknownHost
    else .badHost

end Network

end VipKeeper
