import Tocsin.Text.Cut
import Tocsin.Text.Digit

/-!
# IP addresses

Which texts are addresses of version 4, four decimal numbers below 256 without leading zeros, and of
version 6, up to eight groups of hexadecimal digits of which one run of zero groups may be left out.
The last two groups may be written as an address of version 4, and a scope may follow behind a
percent sign.
-/

set_option autoImplicit false

namespace Tocsin.Webhook

open Tocsin.Text

/-- Whether a text is one of the four numbers of an address of version 4. -/
def isOctet (cs : List Char) : Bool :=
  !cs.isEmpty && cs.all isAsciiDigit && cs.length ≤ 3
    && (cs == ['0'] || cs.head? != some '0') && ofDigits 10 (cs.filterMap asciiDigit?) ≤ 255

/-- Whether a text is an address of version 4. -/
def isIpv4 (cs : List Char) : Bool :=
  let octets := splitAt '.' cs
  octets.length = 4 && octets.all isOctet

/-- Whether a text is a group of an address of version 6. -/
def isGroup (cs : List Char) : Bool :=
  !cs.isEmpty && cs.all (fun c => (hexDigit? c).isSome) && cs.length ≤ 4

/-- The pieces of an address between its colons, where two groups stand for a last piece that is an
address of version 4; none when such a piece is none. -/
def ipv6Pieces? (cs : List Char) : Option (List (List Char)) :=
  let pieces := splitAt ':' cs
  if pieces.length < 3 then none
  else
    match pieces.getLast? with
    | some last =>
      if '.' ∈ last then
        if isIpv4 last then some (pieces.dropLast ++ [['0'], ['0']]) else none
      else some pieces
    | none => none

/-- The empty pieces of an address that are neither the first nor the last. -/
def innerGaps (pieces : List (List Char)) : List Nat :=
  (List.range pieces.length).filter fun i =>
    0 < i && i + 1 < pieces.length && (pieces[i]?.getD []).isEmpty

/-- Whether the pieces between the colons make an address of version 6. -/
def isIpv6Pieces (pieces : List (List Char)) : Bool :=
  pieces.length ≤ 9 &&
  match innerGaps pieces with
  | [] => pieces.length = 8 && pieces.all isGroup
  | [gap] =>
    let front := pieces.take gap
    let back := pieces.drop (gap + 1)
    let front := if front = [[]] then [] else front
    let back := if back = [[]] then [] else back
    front.all isGroup && back.all isGroup && front.length + back.length < 8
  | _ => false

/-- Whether a text is an address of version 6. -/
def isIpv6 (cs : List Char) : Bool :=
  let (address, scope) := cutFirst '%' cs
  (match scope with
   | none => true
   | some s => !s.isEmpty && '%' ∉ s)
  && (match ipv6Pieces? address with
      | some pieces => isIpv6Pieces pieces
      | none => false)

end Tocsin.Webhook
