import Tocsin.Config.Display

/-!
# Issues

An issue says what is wrong with one value of a configuration and where that value stands.  The
cause is an `Issue.Kind`; the code, the wording and the context of an issue are functions of it.
-/

set_option autoImplicit false

namespace Tocsin.Config

/-- One step of the way from a configuration to a value in it. -/
inductive Step where
  | key (name : String)
  | index (position : Nat)
  deriving DecidableEq, Repr

namespace Issue

/-- What is wrong with a value. -/
inductive Kind where
  /-- A required field is absent. -/
  | missing
  /-- A text is expected. -/
  | stringType
  /-- A byte string that stands for a text is not well-formed. -/
  | stringUnicode
  /-- A text or a number that means neither true nor false. -/
  | boolParsing
  /-- A truth value is expected. -/
  | boolType
  /-- An integer is expected. -/
  | intType
  /-- A text is no integer numeral. -/
  | intParsing
  /-- A numeral or a double is too large to be read as an integer. -/
  | intTooLarge
  /-- A double has a fraction where an integer is expected. -/
  | intFromFloat
  /-- A double is infinite or not a number where an integer is expected. -/
  | finiteNumber
  /-- A number is expected. -/
  | floatType
  /-- A text is no decimal numeral. -/
  | floatParsing
  /-- An integer lies below its least value. -/
  | belowMinimum (minimum : Int)
  /-- A sequence is expected. -/
  | tupleType
  /-- A mapping or a record of the named type is expected. -/
  | modelType (title : String)
  /-- Only one text is allowed. -/
  | literal (expected : String)
  /-- A field of a finished record cannot be replaced. -/
  | frozen
  deriving DecidableEq, Repr

/-- The code of a cause. -/
def Kind.code : Kind → String
  | missing => "missing"
  | stringType => "string_type"
  | stringUnicode => "string_unicode"
  | boolParsing => "bool_parsing"
  | boolType => "bool_type"
  | intType => "int_type"
  | intParsing => "int_parsing"
  | intTooLarge => "int_parsing_size"
  | intFromFloat => "int_from_float"
  | finiteNumber => "finite_number"
  | floatType => "float_type"
  | floatParsing => "float_parsing"
  | belowMinimum _ => "greater_than_equal"
  | tupleType => "tuple_type"
  | modelType _ => "model_type"
  | literal _ => "literal_error"
  | frozen => "frozen_instance"

/-- The wording of a cause. -/
def Kind.message : Kind → String
  | missing => "Field required"
  | stringType => "Input should be a valid string"
  | stringUnicode =>
    "Input should be a valid string, unable to parse raw data as a unicode string"
  | boolParsing => "Input should be a valid boolean, unable to interpret input"
  | boolType => "Input should be a valid boolean"
  | intType => "Input should be a valid integer"
  | intParsing => "Input should be a valid integer, unable to parse string as an integer"
  | intTooLarge => "Unable to parse input string as an integer, exceeded maximum size"
  | intFromFloat => "Input should be a valid integer, got a number with a fractional part"
  | finiteNumber => "Input should be a finite number"
  | floatType => "Input should be a valid number"
  | floatParsing => "Input should be a valid number, unable to parse string as a number"
  | belowMinimum minimum =>
    "Input should be greater than or equal to " ++ Display.int minimum
  | tupleType => "Input should be a valid tuple"
  | modelType title => "Input should be a valid dictionary or instance of " ++ title
  | literal expected => "Input should be " ++ Display.text expected
  | frozen => "Instance is frozen"

/-- The particulars of a cause, by name. -/
def Kind.context : Kind → List (String × Value)
  | belowMinimum minimum => [("ge", .int minimum)]
  | modelType title => [("class_name", .text title)]
  | literal expected => [("expected", .text (Display.text expected))]
  | _ => []

end Issue

/-- Something wrong with a value of a configuration. -/
structure Issue where
  kind : Issue.Kind
  /-- The way to the value. -/
  loc : List Step
  /-- The value; where a field is missing, the mapping that lacks it. -/
  input : Value

/-- The same issue seen from one step further out. -/
def Issue.under (step : Step) (i : Issue) : Issue := { i with loc := step :: i.loc }

/-- An issue as a value: its code, its place, its wording, the value at fault and, if there are any,
the particulars of its cause. -/
def Issue.toValue (i : Issue) : Value :=
  let particulars := i.kind.context
  .dict (Mapping.ofTexts
    ([("type", .text i.kind.code),
      ("loc", .list (i.loc.map fun
        | .key name => .text name
        | .index position => .int position)),
      ("msg", .text i.kind.message), ("input", i.input)]
    ++ if particulars.isEmpty then []
       else [("ctx", .dict (Mapping.ofTexts particulars))]))

/-- The outcome of reading: a result, or every issue that was found. -/
abbrev Checked (α : Type) := Except (List Issue) α

namespace Checked

/-- Fails with one issue at the value itself. -/
def fail {α : Type} (kind : Issue.Kind) (input : Value) : Checked α := .error [⟨kind, [], input⟩]

/-- Places the issues of an outcome one step further in. -/
def under {α : Type} (step : Step) : Checked α → Checked α
  | .ok a => .ok a
  | .error issues => .error (issues.map (·.under step))

/-- Both outcomes, or the issues of both in order. -/
def both {α β : Type} : Checked α → Checked β → Checked (α × β)
  | .ok a, .ok b => .ok (a, b)
  | .ok _, .error issues => .error issues
  | .error issues, .ok _ => .error issues
  | .error first, .error second => .error (first ++ second)

end Checked

end Tocsin.Config
