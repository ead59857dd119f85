import Tocsin.Webhook.Host
import Tocsin.Webhook.Url

/-!
# References

A reference is the text of a URL that may lack parts, and is completed by those of another URL, its
base: the scheme, the authority, and the path, relative to the directory that the base is in.  Only
some schemes know references of this kind; with any other, or where the schemes differ, the
reference stands as it is.  `Reference.resolve` gives the text of the completed URL.
-/

set_option autoImplicit false

namespace Tocsin.Webhook

open Tocsin.Text

/-- A URL in parts; a part that is absent is empty. -/
structure Reference where
  scheme : List Char
  authority : List Char
  path : List Char
  query : List Char
  fragment : List Char
  deriving DecidableEq, Repr

namespace Reference

/-- The schemes whose URLs may be relative to another one. -/
def relativeSchemes : List String :=
  ["", "ftp", "http", "gopher", "nntp", "imap", "wais", "file", "https", "shttp", "mms",
   "prospero", "rtsp", "rtsps", "rtspu", "sftp", "svn", "svn+ssh", "ws", "wss"]

/-- The schemes whose URLs always have an authority, which may be empty. -/
def authoritySchemes : List String :=
  relativeSchemes ++ ["telnet", "snews", "rsync", "nfs", "git", "git+ssh"]

/-- The schemes whose paths end with parameters behind a semicolon. -/
def parameterSchemes : List String :=
  ["", "ftp", "hdl", "prospero", "http", "imap", "https", "shttp", "rtsp", "rtsps", "rtspu", "sip",
   "sips", "mms", "sftp", "tel"]

/-- Whether a scheme is one of a list. -/
def isOneOf (schemes : List String) (scheme : List Char) : Bool :=
  schemes.contains (String.ofList scheme)

/-- Takes a URL apart; a scheme that is absent is the given one. -/
def split (scheme cs : List Char) : Except BracketFault Reference := do
  let (scheme, rest) :=
    match Url.cutScheme cs with
    | ([], _) => (scheme, cs)
    | (own, rest) => (lowerAscii own, rest)
  let (authority, rest) := Url.cutAuthority rest
  checkBrackets authority
  let (rest, fragment) := cutFirst '#' rest
  let (path, query) := cutFirst '?' rest
  return ⟨scheme, authority, path, query.getD [], fragment.getD []⟩

/-- A path without its parameters, and the parameters, which stand behind the first semicolon of the
last segment. -/
def splitParameters (scheme path : List Char) : List Char × List Char :=
  if isOneOf parameterSchemes scheme then
    let last := afterLast '/' path
    match cutFirst ';' last with
    | (front, some parameters) => (path.take (path.length - last.length) ++ front, parameters)
    | (_, none) => (path, [])
  else (path, [])

/-- The text of a URL in parts, given the parameters of its path. -/
def text (r : Reference) (parameters : List Char) : List Char :=
  let mark (c : Char) (part : List Char) : List Char := if part.isEmpty then [] else c :: part
  let path := r.path ++ mark ';' parameters
  let needsAuthority := !r.authority.isEmpty
    || (!r.scheme.isEmpty && isOneOf authoritySchemes r.scheme) || ['/', '/'].isPrefixOf path
  let body :=
    if needsAuthority then
      let path := if !path.isEmpty && path.head? != some '/' then '/' :: path else path
      '/' :: '/' :: r.authority ++ path
    else path
  (if r.scheme.isEmpty then [] else r.scheme ++ [':']) ++ body ++ mark '?' r.query
    ++ mark '#' r.fragment

/-- Takes the dot segments out of a path; a segment of two dots takes the one before it along. -/
def dropDots (kept : List (List Char)) : List (List Char) → List (List Char)
  | [] => kept.reverse
  | ['.'] :: rest => dropDots kept rest
  | ['.', '.'] :: rest => dropDots (kept.drop 1) rest
  | segment :: rest => dropDots (segment :: kept) rest

/-- The segments of a path relative to another path, without empty ones inside. -/
def joinedSegments (base path : List Char) : List (List Char) :=
  if path.head? = some '/' then splitAt '/' path
  else
    let directory := splitAt '/' base
    let directory := if directory.getLast? = some [] then directory else directory.dropLast
    match directory ++ splitAt '/' path with
    | first :: rest => first :: rest.dropLast.filter (!·.isEmpty) ++ rest.getLast?.toList
    | [] => []

/-- A path relative to another path. -/
def joinPaths (base path : List Char) : List Char :=
  let segments := joinedSegments base path
  let endsInDots := segments.getLast? = some ['.'] ∨ segments.getLast? = some ['.', '.']
  let resolved := dropDots [] segments ++ if endsInDots then [[]] else []
  let joined := joinWith ['/'] resolved
  if joined.isEmpty then ['/'] else joined

/-- The text of a URL relative to the text of another one. -/
def resolve (base reference : List Char) : Except BracketFault (List Char) := do
  if base.isEmpty then return reference
  if reference.isEmpty then return base
  let b ← split [] base
  let r ← split b.scheme reference
  if r.scheme ≠ b.scheme ∨ !isOneOf relativeSchemes r.scheme then return reference
  let (path, parameters) := splitParameters r.scheme r.path
  if isOneOf authoritySchemes r.scheme ∧ !r.authority.isEmpty then
    return text { r with path := path } parameters
  let authority := if isOneOf authoritySchemes r.scheme then b.authority else r.authority
  let (basePath, baseParameters) := splitParameters b.scheme b.path
  if path.isEmpty && parameters.isEmpty then
    let query := if r.query.isEmpty then b.query else r.query
    return text ⟨r.scheme, authority, basePath, query, r.fragment⟩ baseParameters
  return text ⟨r.scheme, authority, joinPaths basePath path, r.query, r.fragment⟩ parameters

end Reference

end Tocsin.Webhook
