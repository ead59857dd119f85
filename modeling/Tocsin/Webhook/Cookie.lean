import Tocsin.Webhook.ExpiryDate
import Tocsin.Webhook.HeaderWords
import Tocsin.Webhook.Url

/-!
# Cookies

A reply may offer cookies, and a client keeps those that it accepts in a jar.  An offer is a name
and attributes: where the cookie is valid, until when, and by which version of the rules.  An offer
that has ended already takes the cookie of the same name and place out of the jar.  The values of
cookies are of no interest here; what counts is which cookies there are.

Offers stand in two headers, an old one and a new one that was to take its place.  The new one has a
grammar of its own and no dates, and is read only beside the old one.
-/

set_option autoImplicit false

namespace Tocsin.Webhook

open Tocsin.Decimal Tocsin.Text

/-- A cookie: its name, and the domain and path where it is valid. -/
structure Cookie where
  domain : List Char
  path : List Char
  name : List Char
  deriving DecidableEq, Repr

/-- The cookies that a client keeps. -/
abbrev Jar := List Cookie

namespace Cookie

/-- The headers in which offers stand. -/
inductive Header where
  | setCookie
  | setCookie2
  deriving DecidableEq, Repr

/-- The name of a header. -/
def Header.name : Header → String
  | setCookie => "set-cookie"
  | setCookie2 => "set-cookie2"

/-- When a cookie ends. -/
inductive Expiry where
  /-- Seconds since the start of 1970. -/
  | at (second : Int)
  /-- A date that is left as it is written. -/
  | unread
  deriving DecidableEq, Repr

/-- The attributes of an offer that count. -/
structure Terms where
  version : Option (List Char)
  domain : Option (List Char)
  path : Option (List Char)
  /-- The ports, absent where the attribute has no value. -/
  ports : Option (Option (List Char))
  expiry : Option Expiry
  deriving DecidableEq, Repr

/-- Why an offer is dropped: it is bad itself, or it spoils all offers of a reply. -/
inductive Refusal where
  | bad
  | spoiling
  deriving DecidableEq, Repr

/-- An offer of a cookie. -/
structure Offer where
  name : List Char
  terms : Terms
  deriving DecidableEq, Repr

/-! ## Reading offers -/

/-- A text without a quotation mark at each end. -/
def stripQuotes (cs : List Char) : List Char :=
  let cs := if cs.head? = some '"' then cs.drop 1 else cs
  if cs.getLast? = some '"' then cs.dropLast else cs

/-- The attributes of an offer in the old header, those without a name left out; none if even the
first has none. -/
def attributes (text : List Char) : List HeaderWord :=
  let read (piece : List Char) : HeaderWord :=
    let (name, value) := cutFirst '=' (trim isSpacing piece)
    ⟨trim isSpacing name, value.map (trim isSpacing)⟩
  match (splitAt ';' text).map read with
  | first :: rest =>
    if first.name.isEmpty then [] else first :: rest.filter fun a => !a.name.isEmpty
  | [] => []

/-- The attributes of the offers in a header; a new header has one for every list of words. -/
def Header.attributes : Header → List Char → List (List HeaderWord)
  | setCookie, text => if (Cookie.attributes text).isEmpty then [] else [Cookie.attributes text]
  | setCookie2, text => HeaderWord.readLists [] text

/-- The version that is written in an attribute. -/
def Header.versionText : Header → List Char → List Char
  | setCookie => stripQuotes
  | setCookie2 => id

/-- The expiry that is written as a date; there is none where what is written is no date. -/
def Header.expiry? (now : Int) : Header → List Char → Option Expiry
  | setCookie, text =>
    match ExpiryDate.read now (stripQuotes text) with
    | .at second => some (.at second)
    | .unknown | .broken => none
  | setCookie2, _ => some .unread

/-- Takes up an attribute.  Of several attributes of one name the first counts, except that an age
replaces a date. -/
def Terms.take (header : Header) (now : Int) (t : Terms) (a : HeaderWord) : Except Refusal Terms :=
  match String.ofList (lowerAscii a.name), a.value with
  | "version", value =>
    if t.version.isSome then .ok t
    else
      match value with
      | some v => .ok { t with version := some (header.versionText v) }
      | none => .error .bad
  | "domain", value =>
    if t.domain.isSome then .ok t
    else
      match value with
      | some v => .ok { t with domain := some (lowerAscii v) }
      | none => .error .bad
  | "path", value =>
    if t.path.isSome then .ok t
    else
      match value with
      | some v => .ok { t with path := some v }
      | none => .error .bad
  | "port", value => .ok (if t.ports.isSome then t else { t with ports := some value })
  | "expires", value =>
    .ok { t with expiry := t.expiry.or (value.bind (header.expiry? now)) }
  | "max-age", value =>
    match value with
    | none => .error .spoiling
    | some v =>
      match readAnyInteger? v with
      | some age => .ok { t with expiry := some (.at (now + age)) }
      | none => .error .bad
  | _, _ => .ok t

/-- Whether an attribute has a date that spoils all offers of the header. -/
def Header.hasBrokenDate (header : Header) (now : Int) (a : HeaderWord) : Bool :=
  header == setCookie && lowerAscii a.name == "expires".toList
    && a.value.any fun v => ExpiryDate.read now (stripQuotes v) == .broken

/-- The terms of an offer without any attribute. -/
def Terms.none : Terms := ⟨.none, .none, .none, .none, .none⟩

/-- The terms that attributes set. -/
def terms (header : Header) (now : Int) (as : List HeaderWord) : Except Refusal Terms :=
  as.foldlM (Terms.take header now) Terms.none

/-- The offers in the texts of a header, or nothing if one of them spoils all. -/
def offers (header : Header) (now : Int) (texts : List (List Char)) : Option (List Offer) :=
  let all := texts.flatMap header.attributes
  if all.any fun as => (as.drop 1).any (header.hasBrokenDate now) then none
  else
    all.foldr
      (fun as rest =>
        match as, rest with
        | first :: others, some rest =>
          match terms header now others with
          | .ok t => some (⟨first.name, t⟩ :: rest)
          | .error .bad => some rest
          | .error .spoiling => none
        | _, rest => rest)
      (some [])

/-! ## Where a cookie is valid -/

/-- Whether a host ends with a dot and digits. -/
def endsNumeric (host : List Char) : Bool :=
  let back := host.reverse
  let rest := back.dropWhile isAsciiDigit
  rest.length < back.length && rest.head? = some '.'

/-- The host that a request names, in lower case and without a port number. -/
def requestHost (u : Url) : List Char :=
  let authority := u.authorityText true
  let back := authority.reverse
  let rest := back.dropWhile isAsciiDigit
  lowerAscii <|
    if rest.length < back.length ∧ rest.head? = some ':' then (rest.drop 1).reverse else authority

/-- The domain of a host, which is local if it has no dot. -/
def hostDomain (host : List Char) : List Char :=
  if !host.contains '.' && !endsNumeric host then host ++ ".local".toList else host

/-- The port number that a request names, 80 if it names none. -/
def requestPort (u : Url) : List Char :=
  match cutFirst ':' (Url.unescape (u.authorityText true)) with
  | (_, some portText) => if (readAnyInteger? portText).isSome then portText else ['8', '0']
  | (_, none) => ['8', '0']

/-- What may stand in the path of a cookie. -/
def inPath (c : Char) : Bool :=
  isAsciiLetter c || isAsciiDigit c || "_.-~%/;:@&=+$,!*()".toList.contains c
    || c == Literal.apostrophe

/-- Writes the escapes of a path in upper case. -/
def upperEscapes : List Char → List Char
  | '%' :: a :: b :: cs =>
    if (hexDigit? a).isSome ∧ (hexDigit? b).isSome then
      '%' :: a.toUpper :: b.toUpper :: upperEscapes cs
    else '%' :: upperEscapes (a :: b :: cs)
  | c :: cs => c :: upperEscapes cs
  | [] => []
termination_by cs => cs.length

/-- The path of a cookie in normal form. -/
def normalPath (path : List Char) : List Char := upperEscapes (Url.escape inPath path)

/-- The path that a request names. -/
def requestPath (u : Url) : List Char :=
  let path := normalPath u.path
  if path.head? = some '/' then path else '/' :: path

/-- The path of a cookie that names none: that of the request up to its last slash, which belongs to
it unless the version is zero. -/
def impliedPath (version : Option Int) (u : Url) : List Char :=
  let path := requestPath u
  let front := (beforeLast? '/' path).getD path
  let front := if version = some 0 then front else front ++ ['/']
  if front.isEmpty then ['/'] else front

/-- The cookie that an offer is about. -/
def Offer.cookie (o : Offer) (version : Option Int) (u : Url) : Cookie where
  domain :=
    match o.terms.domain with
    | none => hostDomain (requestHost u)
    | some d => if d.head? = some '.' then d else '.' :: d
  path :=
    match o.terms.path with
    | none | some [] => impliedPath version u
    | some path => normalPath path
  name := o.name

/-- Whether a domain that an offer names may be set by a request. -/
def domainFits (version : Int) (u : Url) (domain : List Char) : Bool :=
  let host := hostDomain (requestHost u)
  let plain := if domain.head? = some '.' then domain.drop 1 else domain
  let isLocal := ".local".toList.isSuffixOf host
  (plain.contains '.' || isLocal)
    && (version != 0
      || domain.isSuffixOf host || (plain ++ ".local".toList).isSuffixOf host
      || host.head? = some '.' || domain.isSuffixOf ('.' :: host))

/-- Whether the ports that an offer names allow that of the request. -/
def portFits (u : Url) (ports : List Char) : Bool :=
  let listed := splitAt ',' (ports.filter (!isSpacing ·))
  let before := listed.takeWhile (· ≠ requestPort u)
  before.length < listed.length
    && (listed.take (before.length + 1)).all fun p => (readAnyInteger? p).isSome

/-- The least number of seconds that is too large to be kept as a date. -/
def dateLimit : Int := (Nat.pow 2 1024 - Nat.pow 2 970 : Nat)

/-! ## The jar -/

/-- What an offer does to the jar. -/
inductive Effect where
  | keep (cookie : Cookie)
  | remove (cookie : Cookie)
  | ignore
  | spoil
  deriving DecidableEq, Repr

/-- The version of an offer that names none. -/
def Header.impliedVersion : Header → Option Int
  | setCookie => some 0
  | setCookie2 => none

/-- The version by whose rules an offer is taken; an offer of version 1 in the old header is taken
by the rules of version 0. -/
def Header.rules : Header → Option Int → Option Int
  | setCookie, version => if version = some 1 then some 0 else version
  | setCookie2, version => version

/-- What an offer in reply to a request does. -/
def Offer.effect (header : Header) (now : Int) (u : Url) (o : Offer) : Effect :=
  match o.terms.version.mapM readAnyInteger? with
  | none => .ignore
  | some named =>
    let written := named.or header.impliedVersion
    let cookie := o.cookie written u
    let isKept :=
      (header.rules written).any fun version =>
        version ≤ 0
          && o.terms.domain.all (fun _ => domainFits version u cookie.domain)
          && (o.terms.ports.getD none).all (portFits u)
    match o.terms.expiry with
    | none => if isKept then .keep cookie else .ignore
    | some .unread => .spoil
    | some (.at second) =>
      if second ≤ now then .remove cookie
      else if dateLimit ≤ second then .spoil
      else if isKept then .keep cookie
      else .ignore

/-- The cookies that the offers of a header take out of a jar, and those that they put in. -/
structure Changes where
  removed : List Cookie
  kept : List Cookie
  deriving DecidableEq, Repr

/-- No cookies. -/
def Changes.none : Changes := ⟨[], []⟩

/-- Takes up what offers do, up to one that spoils all.  None is put in if all are spoilt. -/
def Changes.ofEffects (effects : List Effect) : Changes :=
  let valid := effects.takeWhile (· ≠ .spoil)
  let removed := valid.filterMap fun e =>
    match e with
    | .remove c => some c
    | _ => Option.none
  let kept := valid.filterMap fun e =>
    match e with
    | .keep c => some c
    | _ => Option.none
  ⟨removed, if valid.length < effects.length then [] else kept⟩

/-- What the texts of a header change, in reply to a request. -/
def Header.changes (header : Header) (now : Int) (u : Url) (texts : List (List Char)) : Changes :=
  match offers header now texts with
  | some offers => .ofEffects (offers.map (·.effect header now u))
  | none => .none

end Cookie

namespace Jar

/-- Puts a cookie in, unless it is there. -/
def keep (jar : Jar) (c : Cookie) : Jar := if jar.contains c then jar else jar ++ [c]

/-- Cookies are taken out of a jar before any is put in. -/
def apply (jar : Jar) (changes : List Cookie.Changes) : Jar :=
  let left := (changes.flatMap (·.removed)).foldl List.erase jar
  (changes.flatMap (·.kept)).foldl keep left

/-- The jar after a reply to a request, given the texts of both headers; `now` is the present in
seconds since the start of 1970.  Without the old header nothing is taken up. -/
def receive (now : Int) (jar : Jar) (u : Url) (offered : Cookie.Header → List (List Char)) : Jar :=
  match offered .setCookie with
  | [] => jar
  | texts =>
    jar.apply [Cookie.Header.setCookie2.changes now u (offered .setCookie2),
      Cookie.Header.setCookie.changes now u texts]

end Jar

end Tocsin.Webhook
