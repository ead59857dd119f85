import Tocsin.Webhook.Exchange

/-!
# Proxies of the clients

A client that is made without a link of its own asks the variables of the process which proxies it
has to go through: `http_proxy`, `https_proxy` and `all_proxy`, in any letter case, and `no_proxy`,
a list of hosts that are reached directly.  `Proxy.check` tells whether a client can be made: every
proxy must be the URL of a kind of proxy that is known and supported, every host must be readable,
and a file of certificates that is named must exist, which none does.
-/

set_option autoImplicit false

namespace Tocsin.Webhook.Proxy

open Tocsin.Text

/-- Why no client can be made. -/
inductive Fault where
  | url (fault : UrlFault)
  /-- A proxy has a scheme that proxies do not have. -/
  | unknownScheme (u : Url)
  /-- The file of certificates does not exist. -/
  | noCertificates
  /-- A proxy needs support that is not there. -/
  | unsupported
  | host (fault : HostFault)
  | notAscii (fault : NotAscii)
  deriving DecidableEq, Repr

/-- A URL without the password in it. -/
def masked (u : Url) : Url :=
  match cutFirst ':' u.userinfo with
  | (user, some _) => { u with userinfo := user ++ ":[secure]".toList }
  | _ => u

/-- The wording of a fault. -/
def Fault.message : Fault → String
  | url fault => fault.message
  | unknownScheme u =>
    "Unknown scheme for proxy URL URL(" ++ Literal.quoted (masked u).text ++ ")"
  | noCertificates => "[Errno 2] No such file or directory"
  | unsupported =>
    "Using SOCKS proxy, but the 'socksio' package is not installed. Make sure to install httpx "
      ++ "using \x60pip install httpx[socks]\x60."
  | host fault => fault.message
  | notAscii fault => fault.message

/-- What the name of a variable of a proxy ends with. -/
def nameEnd : List Char := "_proxy".toList

/-- What the variable of a proxy is for, in lower case; none if the variable is of another kind. -/
def purpose? (name : String) : Option String :=
  let cs := name.toList
  let front := cs.take (cs.length - nameEnd.length)
  if lowerAscii (cs.drop front.length) = nameEnd then
    some (String.ofList (lowerChars front))
  else none

/-- The values of the variables for a purpose, those in lower case behind the others.  A server that
runs the program for a request may have set the variable for `http` from it, so that it does not
count unless it is written in lower case. -/
def valuesFor (vars : List (String × String)) (purpose : String) : List String :=
  let found := vars.filter fun v => purpose? v.1 = some purpose
  let isLower (v : String × String) : Bool := nameEnd.isSuffixOf v.1.toList
  let others :=
    if purpose = "http" ∧ vars.any (·.1 = "REQUEST_METHOD") then []
    else found.filter fun v => v.2 ≠ "" ∧ !isLower v
  (others ++ found.filter isLower).map (·.2)

/-- The value of the variable for a purpose, empty when there is none. -/
def valueFor (vars : List (String × String)) (purpose : String) : String :=
  (valuesFor vars purpose).getLast?.getD ""

/-- A place for which something is settled: it is reached through a proxy, or directly. -/
structure Route where
  place : List Char
  proxy : Option (List Char)
  deriving DecidableEq, Repr

/-- The mark between a scheme and an authority. -/
def schemeMark : List Char := "://".toList

/-- Whether a text stands somewhere in another one. -/
def occursIn (part : List Char) : List Char → Bool
  | [] => part.isEmpty
  | c :: cs => part.isPrefixOf (c :: cs) || occursIn part cs

/-- The place that an entry of the list of direct hosts names. -/
def directPlace (entry : List Char) : List Char :=
  let address := beforeFirst '/' entry
  if occursIn schemeMark entry then entry
  else if isIpv4 address then "all://".toList ++ entry
  else if isIpv6 address then "all://[".toList ++ entry ++ [']']
  else if lowerChars entry = "localhost".toList then "all://".toList ++ entry
  else "all://*".toList ++ entry

/-- The routes through proxies. -/
def proxied (vars : List (String × String)) : List Route :=
  ["http", "https", "all"].filterMap fun scheme =>
    match (valueFor vars scheme).toList with
    | [] => none
    | value =>
      some ⟨scheme.toList ++ schemeMark,
        some (if occursIn schemeMark value then value else "http://".toList ++ value)⟩

/-- The entries of the list of direct hosts. -/
def directEntries (vars : List (String × String)) : List (List Char) :=
  ((splitAt ',' (valueFor vars "no").toList).map (trim isSpacing)).filter (!·.isEmpty)

/-- Puts a route in the place of the one for the same place, or at the end. -/
def putRoute (routes : List Route) (r : Route) : List Route :=
  if routes.any (·.place = r.place) then
    routes.map fun old => if old.place = r.place then r else old
  else routes ++ [r]

/-- All routes; none if every host is reached directly. -/
def routes (vars : List (String × String)) : List Route :=
  let entries := directEntries vars
  if entries.contains ['*'] then []
  else
    (entries.map fun entry => Route.mk (directPlace entry) none).foldl putRoute
      (proxied vars)

/-- The schemes of proxies that are supported. -/
def supported : List String := ["http", "https"]

/-- The schemes of proxies that are known, but not supported. -/
def unsupportedSchemes : List String := ["socks5", "socks5h"]

/-- Reads the URL of a proxy. -/
def read (proxy : List Char) : Except Fault Url := do
  let u ← (Url.parseChars proxy).mapError .url
  let scheme := String.ofList u.scheme
  if scheme ∉ supported ∧ scheme ∉ unsupportedSchemes then .error (.unknownScheme u)
  if u.userinfo ≠ [] ∧ u.userinfo ≠ [':'] then u.checkLengths.mapError .url
  return u

/-- Checks a place, and the proxy for it. -/
def checkRoute (place : List Char) (proxy : Option Url) : Except Fault Unit := do
  let u ← (Url.parseChars place).mapError .url
  let _ ← u.decodeHost.mapError .host
  match proxy with
  | none => return
  | some p =>
    if String.ofList p.scheme ∈ unsupportedSchemes then .error .unsupported
    match NotAscii.find? p.host with
    | some fault => .error (.notAscii fault)
    | none => return

/-- Checks that a client can be made: all proxies are read, the certificates are looked for, and
every route is checked, in this order. -/
def check (vars : List (String × String)) : Except Fault Unit := do
  let settled ← (routes vars).mapM fun r => do
    return (r.place, ← r.proxy.mapM read)
  if (vars.lookup "SSL_CERT_FILE").getD "" ≠ "" then .error .noCertificates
  settled.forM fun (place, proxy) => checkRoute place proxy

end Tocsin.Webhook.Proxy
