import Tocsin.Decimal.Numeral
import Tocsin.Text.LowerCase
import Tocsin.Text.Utf8
import Tocsin.Webhook.Hostname
import Tocsin.Webhook.IpAddress

/-!
# URLs of requests

`Url.parse` reads the text of a URL and brings it into the normal form in which requests are made:
the scheme and the host in lower case, a host outside ASCII in its encoded form, no port number that
the scheme implies, no dot segments in the path, and every character escaped that may not stand
where it stands.  Escapes that are already there are kept.  `Url.text` writes the URL.
-/

set_option autoImplicit false

namespace Tocsin.Webhook

open Tocsin.Decimal Tocsin.Text

/-- A URL in normal form.  A host that is an address of version 6 stands without its brackets. -/
structure Url where
  scheme : List Char
  userinfo : List Char
  host : List Char
  portNumber : Option Int
  path : List Char
  query : Option (List Char)
  fragment : Option (List Char)
  deriving DecidableEq, Repr

/-- Why a text is no URL. -/
inductive UrlFault where
  | tooLong
  | control (c : Char) (position : Nat)
  | badIpv4 (host : List Char)
  | badIpv6 (host : List Char)
  | badHost (host : List Char)
  | badPort (portNumber : List Char)
  | pathAfterAuthority
  | pathLikeAuthority
  | pathLikeScheme
  | partTooLong (part : String)
  | controlInPart (part : String) (c : Char) (position : Nat)
  deriving DecidableEq, Repr

/-- The wording of a fault. -/
def UrlFault.message : UrlFault → String
  | tooLong => "URL too long"
  | control c position =>
    "Invalid non-printable ASCII character in URL, " ++ Literal.quoted (String.singleton c)
      ++ s!" at position {position}."
  | badIpv4 host => "Invalid IPv4 address: " ++ String.ofList (Literal.quote host)
  | badIpv6 host => "Invalid IPv6 address: " ++ String.ofList (Literal.quote host)
  | badHost host => "Invalid IDNA hostname: " ++ String.ofList (Literal.quote host)
  | badPort portNumber => "Invalid port: " ++ String.ofList (Literal.quote portNumber)
  | pathAfterAuthority => "For absolute URLs, path must be empty or begin with '/'"
  | pathLikeAuthority => "Relative URLs cannot have a path starting with '//'"
  | pathLikeScheme => "Relative URLs cannot have a path starting with ':'"
  | partTooLong part => "URL component '" ++ part ++ "' too long"
  | controlInPart part c position =>
    "Invalid non-printable ASCII character in URL " ++ part ++ " component, "
      ++ Literal.quoted (String.singleton c) ++ s!" at position {position}."

namespace Url

/-- The longest text of a URL, and of one of its parts. -/
def maxLength : Nat := 65536

/-- Whether a character is an ASCII character that cannot be printed. -/
def isControl (c : Char) : Bool := c.toNat < 0x20 || c.toNat == 0x7f

/-- The first control in a text and its position. -/
def firstControl? (cs : List Char) : Option (Char × Nat) :=
  (cs.find? isControl).map fun c => (c, cs.findIdx isControl)

/-! ## Escapes -/

/-- A byte as an escape. -/
def escapeByte (b : UInt8) : List Char := '%' :: (hexDigits 2 b.toNat).map Char.toUpper

/-- Escapes the characters of a text that are not allowed. -/
def escape (allowed : Char → Bool) (cs : List Char) : List Char :=
  cs.flatMap fun c => if allowed c then [c] else (Utf8.encodeChar c).flatMap escapeByte

/-- Whether a character is printable, in ASCII and none of the given ones. -/
def isPlainExcept (others : List Char) (c : Char) : Bool :=
  0x20 < c.toNat && c.toNat < 0x7f && !others.contains c

/-- What may stand in a fragment. -/
def inFragment : Char → Bool := isPlainExcept ['"', '<', '>', '\x60']

/-- What may stand in a query. -/
def inQuery : Char → Bool := isPlainExcept ['"', '#', '<', '>']

/-- What may stand in a path. -/
def inPath : Char → Bool := isPlainExcept ['"', '#', '<', '>', '?', '\x60', '\x7b', '\x7d']

/-- What may stand in the user information. -/
def inUserinfo : Char → Bool :=
  isPlainExcept ['"', '#', '<', '>', '?', '\x60', '\x7b', '\x7d', '/', ';', '=', '@', '[', '\\',
    ']', '^', '|']

/-- What may stand in a host. -/
def inHost (c : Char) : Bool :=
  isAsciiLetter c || isAsciiDigit c
    || ['-', '.', '_', '~', '!', '$', '&', Literal.apostrophe, '(', ')', '*', '+', ',', ';', '=',
        '"', '\x60', '\x7b', '\x7d', '%', '|', '\\'].contains c

/-- The bytes that a text with escapes stands for. -/
def unescapeBytes : List Char → List UInt8
  | '%' :: a :: b :: cs =>
    match hexDigit? a, hexDigit? b with
    | some m, some n => (m * 16 + n).toUInt8 :: unescapeBytes cs
    | _, _ => Utf8.encodeChar '%' ++ unescapeBytes (a :: b :: cs)
  | c :: cs => Utf8.encodeChar c ++ unescapeBytes cs
  | [] => []
termination_by cs => cs.length

/-- The text that a text with escapes stands for. -/
def unescape (cs : List Char) : List Char := Utf8.decodeLossy (unescapeBytes cs)

/-! ## Parts -/

/-- Cuts a scheme off, which may be empty; without a scheme nothing is cut off. -/
def cutScheme (cs : List Char) : List Char × List Char :=
  match cutFirst ':' cs with
  | ([], some rest) => ([], rest)
  | (c :: scheme, some rest) =>
    if isAsciiLetter c
        && scheme.all fun c => isAsciiLetter c || isAsciiDigit c || ['+', '.', '-'].contains c
    then (c :: scheme, rest) else ([], cs)
  | (_, none) => ([], cs)

/-- Cuts an authority off, empty when there is none. -/
def cutAuthority : List Char → List Char × List Char
  | '/' :: '/' :: rest =>
    let ends (c : Char) : Bool := c == '/' || c == '?' || c == '#'
    (rest.takeWhile (!ends ·), rest.dropWhile (!ends ·))
  | cs => ([], cs)

/-- Cuts a host off: an address in brackets, or all up to the first colon. -/
def cutHost (cs : List Char) : List Char × List Char :=
  match cs, beforeLast? ']' cs with
  | '[' :: _, some front => (front ++ [']'], cs.drop (front.length + 1))
  | _, _ => (cs.takeWhile (· ≠ ':'), cs.dropWhile (· ≠ ':'))

/-- The user information, the host and the port number of an authority. -/
def splitAuthority (authority : List Char) : List Char × List Char × List Char :=
  let hostPort := afterLast '@' authority
  let (host, rest) := cutHost hostPort
  let portNumber :=
    match rest with
    | ':' :: portNumber => portNumber
    | portNumber => portNumber
  ((beforeLast? '@' authority).getD [], host, portNumber)

/-- Whether a host looks like an address of version 4: four runs of digits between dots. -/
def looksLikeIpv4 (cs : List Char) : Bool :=
  let runs := splitAt '.' cs
  runs.length = 4 && runs.all fun run => !run.isEmpty && run.all isAsciiDigit

/-- A host in normal form. -/
def normalHost (host : List Char) : Except UrlFault (List Char) :=
  if host.isEmpty then .ok []
  else if looksLikeIpv4 host then
    if isIpv4 host then .ok host else .error (.badIpv4 host)
  else if host.head? = some '[' ∧ 1 < host.length ∧ host.getLast? = some ']' then
    let address := (host.drop 1).dropLast
    if isIpv6 address then .ok address else .error (.badIpv6 host)
  else if host.all fun c => c.toNat < 0x80 then .ok (escape inHost (lowerChars host))
  else
    match Hostname.encode (lowerChars host) with
    | .ok name => .ok name
    | .error _ => .error (.badHost host)

/-- The port number that a scheme implies. -/
def impliedPort? (scheme : List Char) : Option Int :=
  match String.ofList scheme with
  | "ftp" => some 21
  | "http" | "ws" => some 80
  | "https" | "wss" => some 443
  | _ => none

/-- A port number in normal form: none when it is left out or is the one that the scheme, as it is
written, implies. -/
def normalPort (scheme portNumber : List Char) : Except UrlFault (Option Int) :=
  if portNumber.isEmpty then .ok none
  else
    match readAnyInteger? portNumber with
    | none => .error (.badPort portNumber)
    | some n => .ok (if impliedPort? scheme = some n then none else some n)

/-- Takes the dot segments out of the segments of a path; `kept` are those in front, the last one
first. -/
def resolveDots (kept : List (List Char)) : List (List Char) → List (List Char)
  | [] => kept.reverse
  | ['.'] :: rest => resolveDots kept rest
  | ['.', '.'] :: rest => resolveDots (if kept = [[]] then kept else kept.drop 1) rest
  | segment :: rest => resolveDots (segment :: kept) rest

/-- A path without dot segments. -/
def withoutDots (path : List Char) : List Char :=
  let segments := splitAt '/' path
  if segments.contains ['.'] || segments.contains ['.', '.'] then
    joinWith ['/'] (resolveDots [] segments)
  else path

/-- Checks that a path can stand behind what stands in front of it. -/
def checkPath (hasScheme hasAuthority : Bool) (path : List Char) : Except UrlFault Unit :=
  if hasAuthority then
    if path.isEmpty || path.head? = some '/' then .ok () else .error .pathAfterAuthority
  else if hasScheme then .ok ()
  else if ['/', '/'].isPrefixOf path then .error .pathLikeAuthority
  else if path.head? = some ':' then .error .pathLikeScheme
  else .ok ()

/-! ## Reading and writing -/

/-- Reads a URL. -/
def parseChars (cs : List Char) : Except UrlFault Url := do
  if maxLength < cs.length then .error .tooLong
  match firstControl? cs with
  | some (c, position) => .error (.control c position)
  | none =>
    let (scheme, rest) := cutScheme cs
    let (authority, rest) := cutAuthority rest
    let (rest, fragment) := cutFirst '#' rest
    let (path, query) := cutFirst '?' rest
    let (userinfo, host, portNumber) := splitAuthority authority
    let userinfo := escape inUserinfo userinfo
    let host ← normalHost host
    let portNumber ← normalPort scheme portNumber
    let hasAuthority := !userinfo.isEmpty || !host.isEmpty || portNumber.isSome
    checkPath (!scheme.isEmpty) hasAuthority path
    let path := if !scheme.isEmpty || hasAuthority then withoutDots path else path
    return {
      scheme := lowerAscii scheme
      userinfo, host, portNumber
      path := escape inPath path
      query := query.map (escape inQuery)
      fragment := fragment.map (escape inFragment) }

/-- Reads a URL. -/
def parse (s : String) : Except UrlFault Url := parseChars s.toList

/-- The authority of a URL; `userinfo` says whether with the user information. -/
def authorityText (u : Url) (userinfo : Bool) : List Char :=
  (if userinfo && !u.userinfo.isEmpty then u.userinfo ++ ['@'] else [])
  ++ (if u.host.contains ':' then '[' :: u.host ++ [']'] else u.host)
  ++ (u.portNumber.map fun n => ':' :: decimalText n).getD []

/-- A part of a URL behind its mark. -/
def marked (mark : Char) (part : Option (List Char)) : List Char := (part.map (mark :: ·)).getD []

/-- The characters of a URL. -/
def chars (u : Url) : List Char :=
  let authority := u.authorityText true
  (if u.scheme.isEmpty then [] else u.scheme ++ [':'])
  ++ (if authority.isEmpty then [] else '/' :: '/' :: authority)
  ++ u.path ++ marked '?' u.query ++ marked '#' u.fragment

/-- The text of a URL. -/
def text (u : Url) : String := String.ofList u.chars

/-- Whether a URL names a place on its own. -/
def isAbsolute (u : Url) : Bool := !u.scheme.isEmpty && !u.host.isEmpty

/-- The host of a URL, decoded if it is encoded. -/
def decodeHost (u : Url) : Except HostFault (List Char) :=
  if Label.encodedMark.isPrefixOf u.host then Hostname.decode u.host else .ok u.host

/-- Checks that the parts of a URL are not too long. -/
def checkLengths (u : Url) : Except UrlFault Unit := do
  if maxLength < (u.authorityText true).length then .error (.partTooLong "authority")
  if maxLength < u.path.length then .error (.partTooLong "path")
  if maxLength < (u.query.getD []).length then .error (.partTooLong "query")
  if maxLength < (u.fragment.getD []).length then .error (.partTooLong "fragment")

/-- The URL that a request is made for: an absolute URL itself, and of any other one the path and
the query alone, behind one slash. -/
def target (u : Url) : Except UrlFault Url :=
  if u.isAbsolute then .ok u
  else do
    let path := if u.path.isEmpty then ['/'] else u.path
    let path := '/' :: path.dropWhile (· == '/')
    let v : Url := ⟨[], [], [], none, path, u.query, none⟩
    checkLengths v
    return v

end Url

end Tocsin.Webhook
