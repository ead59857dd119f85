import Tocsin.Text.Literal
import Tocsin.Text.LowerCase
import Tocsin.Webhook.IpAddress

/-!
# The host that may be logged

The URL of a webhook is a secret, its host is not.  `loggedHost` finds the host of a URL by the
grammar of URLs alone, without repairing anything: the scheme ends at the first colon, the authority
stands behind two slashes and ends at the first slash, question mark or number sign, and the host of
it stands behind the last at sign, in brackets or before the first colon.  A URL whose authority is
malformed, or contains a character that looks like one of these marks, has no host to log.
-/

set_option autoImplicit false

namespace Tocsin.Webhook

open Tocsin.Text

/-- Characters outside ASCII whose compatibility form contains a mark of the grammar of URLs: a
slash, a question mark, a number sign, an at sign or a colon. -/
def lookalikeRanges : List (Nat × Nat) :=
  [(0x2047, 0x2049), (0x2100, 0x2101), (0x2105, 0x2106), (0x2a74, 0x2a74), (0xfe13, 0xfe13),
   (0xfe16, 0xfe16), (0xfe55, 0xfe56), (0xfe5f, 0xfe5f), (0xfe6b, 0xfe6b), (0xff03, 0xff03),
   (0xff0f, 0xff0f), (0xff1a, 0xff1a), (0xff1f, 0xff20)]

/-- Whether a character looks like a mark of the grammar. -/
def isLookalike (c : Char) : Bool := inRanges lookalikeRanges c.toNat

/-- Whether a character can stand in a scheme behind its first letter. -/
def isSchemeChar (c : Char) : Bool :=
  isAsciiLetter c || isAsciiDigit c || c == '+' || c == '-' || c == '.'

/-- Whether a character ends an authority. -/
def endsAuthority (c : Char) : Bool := c == '/' || c == '?' || c == '#'

/-- Takes away what is no part of a URL: controls and spaces in front, tabs and line ends anywhere.
-/
def cleaned (cs : List Char) : List Char :=
  (cs.dropWhile fun c => c.toNat ≤ 0x20).filter fun c => c ≠ '\t' ∧ c ≠ '\n' ∧ c ≠ '\r'

/-- What follows the scheme of a URL; all of it when it has no scheme. -/
def afterScheme (cs : List Char) : List Char :=
  match cutFirst ':' cs with
  | (c :: scheme, some rest) =>
    if isAsciiLetter c && scheme.all isSchemeChar then rest else cs
  | _ => cs

/-- The authority of a URL, empty when it has none. -/
def authority (cs : List Char) : List Char :=
  match afterScheme (cleaned cs) with
  | '/' :: '/' :: rest => rest.takeWhile (!endsAuthority ·)
  | _ => []

/-- What is wrong with the brackets of an authority. -/
inductive BracketFault where
  | misplaced
  /-- The text between them names a version of addresses, but no address of it. -/
  | badFuture
  | version4
  | noAddress (text : List Char)
  deriving DecidableEq, Repr

/-- The wording of a fault. -/
def BracketFault.message : BracketFault → String
  | misplaced => "Invalid IPv6 URL"
  | badFuture => "IPvFuture address is invalid"
  | version4 => "An IPv4 address cannot be in brackets"
  | noAddress text =>
    String.ofList (Literal.quote text) ++ " does not appear to be an IPv4 or IPv6 address"

/-- Checks that a text between brackets is an address: of version 6, or of a version yet to come. -/
def checkBracketed (cs : List Char) : Except BracketFault Unit :=
  match cs with
  | 'v' :: rest =>
    let digits := rest.takeWhile fun c => (hexDigit? c).isSome
    match digits.isEmpty, rest.drop digits.length with
    | false, '.' :: _ :: _ => .ok ()
    | _, _ => .error .badFuture
  | _ =>
    if isIpv6 cs then .ok ()
    else .error (if isIpv4 cs then .version4 else .noAddress cs)

/-- Checks that the brackets of an authority are in their places. -/
def checkBrackets (auth : List Char) : Except BracketFault Unit :=
  match decide ('[' ∈ auth), decide (']' ∈ auth) with
  | false, false => .ok ()
  | true, true =>
    let hostPort := afterLast '@' auth
    match cutFirst '[' hostPort with
    | (before, some bracketed) =>
      let (host, portNumber) := cutFirst ']' bracketed
      let portNumber := portNumber.getD []
      if !before.isEmpty then .error .misplaced
      else if !portNumber.isEmpty && portNumber.head? != some ':' then .error .misplaced
      else checkBracketed host
    | (_, none) => checkBracketed (beforeFirst ':' hostPort)
  | _, _ => .error .misplaced

/-- Whether the brackets of an authority are in their places. -/
def hasSoundBrackets (auth : List Char) : Bool := (checkBrackets auth).isOk

/-- Whether an authority is well-formed and free of characters that look like marks. -/
def isSound (auth : List Char) : Bool := hasSoundBrackets auth && !auth.any isLookalike

/-- The host in an authority: behind the last at sign, in brackets or before the first colon. -/
def hostOf (auth : List Char) : List Char :=
  let hostPort := afterLast '@' auth
  match cutFirst '[' hostPort with
  | (_, some bracketed) => beforeFirst ']' bracketed
  | (host, none) => beforeFirst ':' host

/-- A host in lower case, as far as the scope of an address, which keeps its case. -/
def lowerHost (host : List Char) : List Char :=
  lowerChars (host.takeWhile (· ≠ '%')) ++ host.dropWhile (· ≠ '%')

/-- The host of a URL as it may be logged; empty when the URL has none or is malformed. -/
def loggedHost (url : String) : String :=
  let auth := authority url.toList
  if isSound auth then String.ofList (lowerHost (hostOf auth)) else ""

end Tocsin.Webhook
