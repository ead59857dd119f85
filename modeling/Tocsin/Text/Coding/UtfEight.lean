import Tocsin.Text.Coding.Reading
import Tocsin.Text.Utf8

/-!
# UTF-8 piece by piece

The pieces are the units of UTF-8; one that stands for nothing says what is wrong with it.
-/

set_option autoImplicit false

namespace Tocsin.Text.Coding

/-- Reads UTF-8. -/
def readUtf8 : List UInt8 → Reading
  | [] => []
  | b :: bytes =>
    match Utf8.announced b with
    | none => .illFormed (bytes.length + 1) 1 "invalid start byte" :: readUtf8 bytes
    | some (code, ranges) =>
      let (answer, fit) := Utf8.follow code ranges bytes
      let reason :=
        if fit < bytes.length then "invalid continuation byte" else "unexpected end of data"
      (match answer with
      | some n => .char (Char.ofNat n)
      | none => .illFormed (bytes.length + 1) (fit + 1) reason) :: readUtf8 (bytes.drop fit)
termination_by bytes => bytes.length
decreasing_by all_goals (simp only [List.length_cons, List.length_drop]; omega)

end Tocsin.Text.Coding
