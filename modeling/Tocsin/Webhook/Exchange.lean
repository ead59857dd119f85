import Tocsin.Text.Charset
import Tocsin.Webhook.ContentCoding
import Tocsin.Webhook.ContentType
import Tocsin.Webhook.Cookie
import Tocsin.Webhook.Reference

/-!
# Exchanges with a webhook

A request goes to the normal form of a URL, and a reply comes back.  `Link.exchange` tells for every
URL which request is made, if one is, what comes of it, a response or a fault, and which cookies the
client keeps from then on.  Redirects are not followed, but a response that redirects to a place
which is none is faulty.  Whoever keeps cookies looks up those for every request, and finds none for
a URL without a scheme but a fault.

Faults are of two kinds.  A fault of transport is a failed attempt that a caller has to expect: the
URL is none, the network fails, the peer breaks the rules.  All other faults are errors of the
program that uses the library, such as a request through a client that is closed.
-/

set_option autoImplicit false

namespace Tocsin.Webhook

open Tocsin.Text

/-- A request; it posts a body of JSON. -/
structure Request where
  url : String
  body : String
  deriving DecidableEq, Repr

/-- The content type of all requests. -/
def Request.contentType : String := "application/json"

/-- What a webhook answers. -/
structure Response where
  status : Int
  headers : List (String × String)
  body : List UInt8
  deriving DecidableEq, Repr

/-- Why the text of a body cannot be read. -/
inductive TextFault where
  | contentType (fault : ContentType.Fault)
  | coding (fault : Coding.Fault)
  deriving DecidableEq, Repr

/-- The wording of a fault. -/
def TextFault.message : TextFault → String
  | contentType fault => fault.message
  | coding fault => fault.message

/-- What becomes of a request: it is answered, or an error with a name and a message is raised. -/
inductive Reply where
  | response (r : Response)
  | raised (kind message : String)
  deriving DecidableEq, Repr

/-- The kinds of errors that cannot be made of a message alone, and what is raised in their place.
-/
def Reply.wordless : List (String × String) :=
  [("UnicodeDecodeError", "function takes exactly 5 arguments (1 given)"),
   ("UnicodeEncodeError", "function takes exactly 5 arguments (1 given)"),
   ("UnicodeTranslateError", "function takes exactly 4 arguments (1 given)")]

/-- The reply where a peer raises an error of a kind with a message.  A missing key is worded as a
literal, the end of an iteration is no error that may leave a request, and some kinds have a second
name. -/
def Reply.raising (kind message : String) : Reply :=
  if kind = "KeyError" then .raised kind (Literal.quoted message)
  else if kind = "StopIteration" then .raised "RuntimeError" "coroutine raised StopIteration"
  else if kind ∈ ["IOError", "EnvironmentError"] then .raised "OSError" message
  else
    match wordless.lookup kind with
    | some refusal => .raised "TypeError" refusal
    | none => .raised kind message

/-- The other end of all requests. -/
inductive Link where
  /-- Each request takes the next reply; after them all are answered in the same way.  Replies arrive
  at a moment that is given in seconds since the start of 1970. -/
  | scripted (replies : List Reply) (now : Int)
  /-- A network without any host on it. -/
  | network
  deriving DecidableEq, Repr

/-- Characters outside ASCII in a text that has to be written in ASCII: the first run of them, and
where it starts. -/
structure NotAscii where
  position : Nat
  first : Char
  count : Nat
  deriving DecidableEq, Repr

/-- Why an exchange fails. -/
inductive Fault where
  | url (fault : UrlFault)
  | missingProtocol
  | unsupportedProtocol (scheme : List Char)
  | unreachable
  | location (fault : UrlFault)
  | nextUrl (fault : UrlFault)
  | raised (kind message : String)
  | closed
  | notAscii (fault : NotAscii)
  /-- The body of a reply cannot be decompressed. -/
  | coding (fault : Compression.Fault)
  /-- Cookies cannot be looked up for a URL without a scheme. -/
  | untyped (target : String)
  | host (fault : HostFault)
  | brackets (fault : BracketFault)
  deriving DecidableEq, Repr

namespace NotAscii

/-- The first run of characters outside ASCII in a text. -/
def find? (cs : List Char) : Option NotAscii :=
  let isAscii (c : Char) : Bool := c.toNat < 0x80
  match cs.dropWhile isAscii with
  | [] => none
  | c :: rest =>
    some ⟨(cs.takeWhile isAscii).length, c, 1 + (rest.takeWhile (!isAscii ·)).length⟩

/-- The wording of a fault. -/
def message (f : NotAscii) : String :=
  "'ascii' codec can't encode character"
    ++ (if f.count = 1 then
          " '" ++ String.ofList (Literal.escapeCode f.first.toNat) ++ s!"' in position {f.position}"
        else s!"s in position {f.position}-{f.position + f.count - 1}")
    ++ ": ordinal not in range(128)"

end NotAscii

namespace Fault

/-- The kinds of raised errors that are faults of transport. -/
def transportKinds : List String :=
  ["HTTPError", "RequestError", "TransportError", "TimeoutException", "ConnectTimeout",
   "ReadTimeout", "WriteTimeout", "PoolTimeout", "NetworkError", "ConnectError", "ReadError",
   "WriteError", "CloseError", "ProtocolError", "LocalProtocolError", "RemoteProtocolError",
   "ProxyError", "UnsupportedProtocol", "DecodingError", "TooManyRedirects", "HTTPStatusError",
   "InvalidURL"]

/-- The name of a fault of transport; none for the other faults. -/
def transportKind? : Fault → Option String
  | url _ | .nextUrl _ => some "InvalidURL"
  | missingProtocol | unsupportedProtocol _ => some "UnsupportedProtocol"
  | unreachable => some "ConnectError"
  | location _ => some "RemoteProtocolError"
  | coding _ => some "DecodingError"
  | raised kind _ => if kind ∈ transportKinds then some kind else none
  | closed | notAscii _ | untyped _ | host _ | brackets _ => none

/-- The wording of a fault. -/
def message : Fault → String
  | url fault => fault.message
  | missingProtocol => "Request URL is missing an 'http://' or 'https://' protocol."
  | unsupportedProtocol scheme =>
    "Request URL has an unsupported protocol '" ++ String.ofList scheme ++ "://'."
  | unreachable => "All connection attempts failed"
  | location fault => "Invalid URL in location header: " ++ fault.message ++ "."
  | .nextUrl fault => fault.message
  | raised _ message => message
  | closed => "Cannot send a request, as the client has been closed."
  | notAscii fault => fault.message
  | coding fault => "Error -3 while decompressing data: " ++ fault.message
  | untyped target => "unknown url type: " ++ Literal.quoted target
  | host fault => fault.message
  | brackets fault => fault.message

end Fault

namespace Response

/-- The values of a header, found in any letter case. -/
def headerValues (r : Response) (name : String) : List String :=
  (r.headers.filter fun h => lowerAscii h.1.toList = name.toList).map (·.2)

/-- The value of a header; several values are joined. -/
def header? (r : Response) (name : String) : Option String :=
  match r.headerValues name with
  | [] => none
  | found => some (", ".intercalate found)

/-- Whether the status announces another place. -/
def isRedirect (r : Response) : Bool := [301, 302, 303, 307, 308].contains r.status

/-- The charset of the body: the one that the content type gives, UTF-8 if it gives none that is
known. -/
def charset (r : Response) : Except ContentType.Fault Charset := do
  match r.header? "content-type" with
  | none => return .utf8
  | some contentType =>
    match ← ContentType.charsetName? contentType with
    | none => return .utf8
    | some name =>
      if name.toList.contains (Char.ofNat 0) then .error .nulInName
      else return (Charset.ofName? name).getD .utf8

/-- The text of the body.  For a body without bytes, nothing is asked of the content type. -/
def text (r : Response) : Except TextFault String :=
  if r.body.isEmpty then .ok ""
  else do
    let charset ← r.charset.mapError .contentType
    let text ← (charset.decode r.body).mapError .coding
    return String.ofList text

/-- The first header text outside ASCII. -/
def notAscii? (r : Response) : Option NotAscii :=
  (r.headers.flatMap fun h => [h.1, h.2]).findSome? fun s => NotAscii.find? s.toList

/-- The texts of a header in which cookies are offered. -/
def offered (r : Response) (header : Cookie.Header) : List (List Char) :=
  (r.headerValues header.name).map String.toList

/-- The response with its body as it was before it was compressed. -/
def decompressed (r : Response) : Except Compression.Fault Response :=
  (ContentCoding.undoAll ((r.headerValues "content-encoding").flatMap ContentCoding.ofHeader)
    r.body).map fun body => { r with body := body }

end Response

/-- Checks that the text of a URL starts with a scheme, so that cookies can be looked up for it. -/
def checkTyped (url : List Char) : Except Fault Unit :=
  let front := (beforeLast? '#' url).getD url
  let tag := if url.contains '#' then afterLast '#' url else []
  match front.takeWhile fun c => c ≠ '/' ∧ c ≠ ':', front.dropWhile fun c => c ≠ '/' ∧ c ≠ ':' with
  | _ :: _, ':' :: _ => .ok ()
  | _, _ =>
    .error (.untyped (String.ofList (front ++ if tag.isEmpty then [] else '#' :: tag)))

/-- Takes the host of a request for a place that has a scheme, but no host. -/
def fillHost (request place : Url) : Except Fault Url := do
  if place.scheme.isEmpty then return place
  let _ ← place.decodeHost.mapError .host
  if !place.host.isEmpty then return place
  let _ ← request.decodeHost.mapError .host
  place.checkLengths.mapError .nextUrl
  (Url.checkPath true true place.path).mapError .nextUrl
  return { place with host := request.host }

/-- Completes a place by the parts of a request. -/
def complete (request place : Url) : Except Fault Url := do
  if place.isAbsolute then return place
  let joined ← (Reference.resolve request.chars place.chars).mapError .brackets
  (Url.parseChars joined).mapError .nextUrl

/-- Takes the fragment of a request for a place that has none. -/
def fillFragment (request place : Url) : Except Fault Url := do
  let own := Url.unescape (place.fragment.getD [])
  let fragment := Url.unescape (request.fragment.getD [])
  if fragment.isEmpty || !own.isEmpty then return place
  match Url.firstControl? fragment with
  | some (c, position) => .error (.nextUrl (.controlInPart "fragment" c position))
  | none =>
    let next := { place with fragment := some (Url.escape Url.inFragment fragment) }
    next.checkLengths.mapError .nextUrl
    return next

/-- The URL that a reply to a request redirects to: a URL with a scheme but without a host takes the
host of the request, one without a scheme is completed by the request, and one without a fragment
takes that of the request. -/
def redirect (request : Url) (place : String) : Except Fault Url := do
  let u ← (Url.parse place).mapError .location
  let next ← fillHost request u >>= complete request >>= fillFragment request
  let _ ← next.decodeHost.mapError .host
  let _ ← request.decodeHost.mapError .host
  return next

/-- The URL of the request that is made for the text of a URL by a client with cookies. -/
def requestUrl (jar : Jar) (webhook : String) : Except Fault Url := do
  let u ← (Url.parse webhook >>= Url.target).mapError .url
  if !jar.isEmpty then checkTyped u.chars
  let _ ← u.decodeHost.mapError .host
  match NotAscii.find? (u.authorityText false) with
  | some fault => .error (.notAscii fault)
  | none => return u

/-- The schemes that a network knows. -/
def knownSchemes : List String := ["http", "https", "ws", "wss"]

/-- What a network without hosts says to a request. -/
def refusal (u : Url) : Fault :=
  if u.scheme.isEmpty then .missingProtocol
  else if String.ofList u.scheme ∈ knownSchemes then .unreachable
  else .unsupportedProtocol u.scheme

/-- Checks a response before its cookies are taken, and decompresses it. -/
def accept (request : Url) (r : Response) : Except Fault Response := do
  if let some fault := r.notAscii? then .error (.notAscii fault)
  let r ← r.decompressed.mapError .coding
  checkTyped request.chars
  return r

/-- Checks where a response redirects to, if it does. -/
def checkRedirect (jar : Jar) (request : Url) (r : Response) : Except Fault Unit := do
  if r.isRedirect then
    if let some place := r.header? "location" then
      let next ← redirect request place
      if !jar.isEmpty then checkTyped next.chars

/-- What comes of a reply to a request, and the cookies that are kept after it. -/
def receive (now : Int) (jar : Jar) (request : Url) : Reply → Jar × Except Fault Response
  | .raised kind message => (jar, .error (.raised kind message))
  | .response r =>
    match accept request r with
    | .error fault => (jar, .error fault)
    | .ok r =>
      let jar := jar.receive now request r.offered
      (jar, (checkRedirect jar request r).map fun () => r)

/-- The reply to all requests that have none of their own. -/
def Reply.usual : Reply := .response ⟨200, [], Utf8.encode "ok".toList⟩

/-- The reply to a request, given how many were made before. -/
def replyAt (replies : List Reply) (sent : Nat) : Reply := replies.getD sent .usual

/-- What an exchange comes to: the request, if one is made, the cookies that are kept after it, and
the response. -/
structure Exchanged where
  request : Option Request
  jar : Jar
  result : Except Fault Response

/-- Makes a request for the text of a URL, given how many were made before, whether the client is
closed, and which cookies it keeps. -/
def Link.exchange (link : Link) (sent : Nat) (isClosed : Bool) (jar : Jar)
    (webhook body : String) : Exchanged :=
  match requestUrl jar webhook with
  | .error fault => ⟨none, jar, .error fault⟩
  | .ok u =>
    if isClosed then ⟨none, jar, .error .closed⟩
    else
      match link with
      | .network => ⟨none, jar, .error (refusal u)⟩
      | .scripted replies now =>
        let (jar, result) := receive now jar u (replyAt replies sent)
        ⟨some ⟨u.text, body⟩, jar, result⟩

end Tocsin.Webhook
