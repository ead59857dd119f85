import Tocsin.Compression.Container
import Tocsin.Text.Blank
import Tocsin.Text.Cut
import Tocsin.Text.Digit

/-!
# Content codings

The body of a reply may be compressed, and even more than once; a header lists the codings in the
order in which they were applied.  Codings that are not known are taken for none.
-/

set_option autoImplicit false

namespace Tocsin.Webhook

open Tocsin.Text

/-- A way to write the body of a reply. -/
inductive ContentCoding where
  | gzip
  | deflate
  | identity
  deriving DecidableEq, Repr

namespace ContentCoding

/-- The coding with a name. -/
def ofName? (name : List Char) : Option ContentCoding :=
  match String.ofList (lowerAscii (trim isSpacing name)) with
  | "gzip" => some gzip
  | "deflate" => some deflate
  | "identity" => some identity
  | _ => none

/-- The known codings of a list of names between commas. -/
def ofHeader (value : String) : List ContentCoding :=
  (splitAt ',' value.toList).filterMap ofName?

/-- Undoes a coding. -/
def undo (body : List UInt8) : ContentCoding → Except Compression.Fault (List UInt8)
  | gzip => Compression.openLong body
  | deflate => Compression.openShortOrBare body
  | identity => .ok body

/-- Undoes codings, the last one first. -/
def undoAll (codings : List ContentCoding) (body : List UInt8) :
    Except Compression.Fault (List UInt8) :=
  codings.reverse.foldlM undo body

end ContentCoding

end Tocsin.Webhook
