import Tocsin.Webhook.Label

/-!
# Host names outside ASCII

A host name is cut into labels at its dots, of which there are four kinds; each label is encoded on
its own, and the encoded labels are joined by plain dots.  A dot at the end is kept.
-/

set_option autoImplicit false

namespace Tocsin.Webhook

open Tocsin.Text

/-- Why a text is no host name. -/
inductive HostFault where
  | tooLong
  | empty
  | label (fault : LabelFault)
  deriving DecidableEq, Repr

/-- The wording of a fault. -/
def HostFault.message : HostFault → String
  | tooLong => "Domain too long"
  | empty => "Empty domain"
  | label fault => fault.message

namespace Hostname

/-- The longest host name that does not end with a dot, in characters. -/
def maxLength : Nat := 253

/-- A full stop of one of the four kinds as the plain one; other characters are unchanged. -/
def plainDot (c : Char) : Char :=
  if c.toNat = 0x3002 ∨ c.toNat = 0xff0e ∨ c.toNat = 0xff61 then '.' else c

/-- The labels of a host name, and whether a dot follows the last one. -/
def labels (host : List Char) : Except HostFault (List (List Char) × Bool) :=
  if maxLength + 1 < host.length then .error .tooLong
  else
    match splitAt '.' (host.map plainDot) with
    | [[]] => .error .empty
    | pieces =>
      if pieces.getLast? = some [] then .ok (pieces.dropLast, true) else .ok (pieces, false)

/-- Labels joined by dots. -/
def join (labels : List (List Char)) (dot : Bool) : List Char :=
  joinWith ['.'] labels ++ if dot then ['.'] else []

/-- The host name in ASCII that stands for a text. -/
def encode (host : List Char) : Except HostFault (List Char) := do
  let (pieces, dot) ← labels host
  let encoded ← (pieces.mapM Label.encode).mapError .label
  let name := join encoded dot
  if (if dot then maxLength + 1 else maxLength) < name.length then .error .tooLong
  return name

/-- The text that a host name in ASCII stands for. -/
def decode (host : List Char) : Except HostFault (List Char) := do
  let (pieces, dot) ← labels host
  let decoded ← (pieces.mapM Label.decode).mapError .label
  return join decoded dot

end Hostname

end Tocsin.Webhook
