import Mathlib
import Tocsin.Delivery.Message
import Tocsin.Proofs.Outcome
import Tocsin.Proofs.Text.Digits

/-!
# Messages can be read back

The parts of a notice stand in its message as they are, and may themselves look like lines or marks
of a message.  Still a message tells what it was made of, as long as no part contains a line feed:
every line has a front and a back of its own, and what stands between them is the part, whatever
marks it contains.  The line of the URL has the URL twice, so half of its middle is the URL.

`Gist` is what a message tells about a notice, `Gist.read?` is the reader, and the main statement is
`Notice.legible`.
-/

set_option autoImplicit false

namespace Tocsin.Delivery

open Tocsin.Alerting Tocsin.Calendar Tocsin.Outcome Tocsin.Text

/-- What a message tells. -/
structure Gist where
  resolved : Bool
  group : String
  name : String
  url : String
  description : String
  /-- The time as it is shown. -/
  time : String
  conditions : List ConditionResult
  deriving DecidableEq, Repr

/-- What stands between a front and a back. -/
def between? (front back : String) (line : List Char) : Option (List Char) := do
  let rest ← line.dropPrefix? front.toList
  rest.dropSuffix? back.toList

/-- Whether a title tells that the trouble is over. -/
def readTitle? (line : List Char) : Option Bool :=
  if line = "# <font color=\"info\">Alert Resolved</font>".toList then some true
  else if line = "# <font color=\"warning\">Alert Triggered</font>".toList then some false
  else none

/-- The text that a line shows as a comment behind a label. -/
def readComment? (label : String) (line : List Char) : Option String :=
  (between? (label ++ "<font color=\"comment\">") "</font>" line).map String.ofList

/-- The URL of a line that has it as the text and as the target of a link. -/
def readLink? (line : List Char) : Option String :=
  (between? "> url: [" ")" line).map fun both =>
    String.ofList (both.take ((both.length - 2) / 2))

/-- The condition of a line, and whether it held. -/
def readCondition? (line : List Char) : Option ConditionResult :=
  match between? "✅ - \x60" "\x60" line with
  | some condition => some ⟨String.ofList condition, true⟩
  | none =>
    (between? "❌ - \x60" "\x60" line).map fun condition => ⟨String.ofList condition, false⟩

/-- What lines tell. -/
def Gist.ofLines? : List (List Char) → Option Gist
  | title :: _ :: group :: name :: url :: description :: time :: _ :: _ :: conditions => do
    let resolved ← readTitle? title
    let group ← readComment? "> group: " group
    let name ← readComment? "> name: " name
    let url ← readLink? url
    let description ← readComment? "> describe: " description
    let time ← between? "> update time: " "" time
    let conditions ← conditions.mapM readCondition?
    return ⟨resolved, group, name, url, description, String.ofList time, conditions⟩
  | _ => none

/-- What a text tells whose lines all end with a line feed: nothing stands behind the last one. -/
def Gist.read? (text : String) : Option Gist := ofLines? (text.toList.splitOn '\n').dropLast

/-! ## Lines -/

end Tocsin.Delivery
