import Tocsin.Text.Coding.Designated
import Tocsin.Text.Coding.Escaped
import Tocsin.Text.Coding.Name
import Tocsin.Text.Coding.Sextets
import Tocsin.Text.Coding.Traditional
import Tocsin.Text.Coding.Units
import Tocsin.Text.Coding.UtfEight
import Tocsin.Text.Punycode

/-!
# Charsets

A charset tells how the bytes of a text are to be read.  `Charset.ofName?` finds one by any of its
names.  `Charset.decode` reads bytes and puts the replacement character where they stand for
nothing; `Charset.decodeStrict` reads bytes that stand for characters throughout.  Some charsets
have a name only, and reading with them is a fault.
-/

set_option autoImplicit false

namespace Tocsin.Text

open Coding

/-- The ways in which bytes are read. -/
inductive Coding.Form where
  | ascii
  | latin
  /-- One byte a character, with the characters of the second half or of all bytes. -/
  | table (characters : String)
  | utf8
  /-- UTF-8 with a byte order mark in front, which is no part of the text. -/
  | markedUtf8
  /-- Units of so many bytes, two or four, with the first byte first or last; without an order, it
  is announced by a byte order mark. -/
  | units (width : Nat) (bigEndian : Option Bool)
  | sextets
  /-- The full or the small form of escape sequences. -/
  | escaped (full : Bool)
  | punycode
  | chinese (set : ChineseSet)
  /-- Seven bits, with Chinese between marks. -/
  | tilde
  | traditional (set : TraditionalSet)
  | korean (set : KoreanSet)
  /-- Japanese with the highest bits of all bytes. -/
  | packed (set : JapaneseSet)
  /-- Japanese with second bytes of almost all values. -/
  | shifted (set : JapaneseSet)
  | designating (charset : Designating)
  /-- The ASCII form of host names. -/
  | hostName
  /-- None. -/
  | unusable (fault : Fault)
  deriving DecidableEq, Repr

/-- A charset: its main name, and how it reads bytes. -/
structure Charset where
  name : String
  form : Form
  deriving DecidableEq, Repr

/-- The form of the charset with a main name. -/
def Coding.Form.ofName? (name : String) : Option Form :=
  match name with
  | "ascii" => some .ascii
  | "latin_1" => some .latin
  | "utf_7" => some .sextets
  | "utf_8" => some .utf8
  | "utf_8_sig" => some .markedUtf8
  | "utf_16" => some (.units 2 none)
  | "utf_16_le" => some (.units 2 (some false))
  | "utf_16_be" => some (.units 2 (some true))
  | "utf_32" => some (.units 4 none)
  | "utf_32_le" => some (.units 4 (some false))
  | "utf_32_be" => some (.units 4 (some true))
  | "unicode_escape" => some (.escaped true)
  | "raw_unicode_escape" => some (.escaped false)
  | "punycode" => some .punycode
  | "idna" => some .hostName
  | "gb2312" => some (.chinese .gb2312)
  | "gbk" => some (.chinese .gbk)
  | "gb18030" => some (.chinese .gb18030)
  | "hz" => some .tilde
  | "big5" => some (.traditional .basic)
  | "cp950" => some (.traditional .makers)
  | "big5hkscs" => some (.traditional .hongKong)
  | "euc_kr" => some (.korean .spelled)
  | "cp949" => some (.korean .unified)
  | "johab" => some (.korean .composed)
  | "euc_jp" => some (.packed .basic)
  | "euc_jisx0213" => some (.packed (.extended .first))
  | "euc_jis_2004" => some (.packed (.extended .second))
  | "shift_jis" => some (.shifted .basic)
  | "cp932" => some (.shifted .makers)
  | "shift_jisx0213" => some (.shifted (.extended .first))
  | "shift_jis_2004" => some (.shifted (.extended .second))
  | "iso2022_jp" => some (.designating .japanese)
  | "iso2022_jp_1" => some (.designating .japaneseSupplemented)
  | "iso2022_jp_2" => some (.designating .japaneseAbroad)
  | "iso2022_jp_3" => some (.designating (.japaneseExtended .first))
  | "iso2022_jp_2004" => some (.designating (.japaneseExtended .second))
  | "iso2022_jp_ext" => some (.designating .japaneseHalfWidth)
  | "iso2022_kr" => some (.designating .korean)
  | "undefined" => some (.unusable .undefined)
  | "rot_13" => some (.unusable .fromText)
  | "base64_codec" | "bz2_codec" | "hex_codec" | "quopri_codec" | "uu_codec" | "zlib_codec" =>
    some (.unusable .toBytes)
  | _ => (singleByteTables.lookup name).map .table

namespace Charset

/-- UTF-8. -/
def utf8 : Charset := ⟨"utf_8", .utf8⟩

/-- The charset with a name. -/
def ofName? (name : String) : Option Charset :=
  (Form.ofName? (mainName name)).map fun form => ⟨mainName name, form⟩

/-- The name of a charset in the wording of faults.  Units without a mark have their last byte
first, and so has the name. -/
def label (charset : Charset) (bytes : List UInt8) : String :=
  match charset.form with
  | .table _ => "charmap"
  | .utf8 | .markedUtf8 => "utf-8"
  | .units width order =>
    let bigEndian := (order.or (announcedOrder? width bytes)).getD false
    s!"utf-{8 * width}-" ++ if bigEndian then "be" else "le"
  | .sextets => "utf7"
  | .escaped true => "unicodeescape"
  | .escaped false => "rawunicodeescape"
  | .punycode | .hostName => "ascii"
  | _ => charset.name

/-- The character of a byte, given the characters of the second half or of all bytes. -/
def tableChar? (characters : List Char) (b : UInt8) : Option Char :=
  let place := if characters.length = 256 then b.toNat else b.toNat - 0x80
  if characters.length ≠ 256 ∧ b.toNat < 0x80 then some (Char.ofNat b.toNat)
  else (characters[place]?).filter (· ≠ replacement)

/-- The mark that may stand in front of UTF-8. -/
def utf8Mark : List UInt8 := [0xef, 0xbb, 0xbf]

/-- What bytes are read as.  Punycode and host names, which are no sequence of pieces, are read as
ASCII. -/
def read (charset : Charset) (bytes : List UInt8) : Reading :=
  match charset.form with
  | .ascii | .punycode | .hostName => readSingles ascii? "ordinal not in range(128)" bytes
  | .latin => .ofText (bytes.map Coding.latin)
  | .table characters =>
    readSingles (tableChar? characters.toList) "character maps to <undefined>" bytes
  | .utf8 => readUtf8 bytes
  | .markedUtf8 => readUtf8 (if utf8Mark.isPrefixOf bytes then bytes.drop 3 else bytes)
  | .units width (some bigEndian) => readUnits width bigEndian bytes
  | .units width none => readMarkedUnits width bytes
  | .sextets => readSextets none bytes
  | .escaped full => readEscaped full bytes
  | .chinese set => readAll set.front () bytes
  | .tilde => readAll tildeFront false bytes
  | .traditional set => readAll set.front () bytes
  | .korean set => readAll set.front () bytes
  | .packed set => readAll set.packedFront () bytes
  | .shifted set => readAll set.shiftedFront () bytes
  | .designating charset => readAll charset.front .start bytes
  | .unusable fault => [.stop fault]

/-- The bytes in front of the last hyphen, and those behind it. -/
def cutAtHyphen (bytes : List UInt8) : List UInt8 × List UInt8 :=
  let back := (bytes.reverse.takeWhile (· ≠ 0x2d)).reverse
  (bytes.take (bytes.length - back.length - 1), back)

/-- The text of bytes in Punycode.  A forgiving reader takes what can be told, but the digits must
be in ASCII. -/
def decodePunycode (charset : Charset) (forgiving : Bool) (bytes : List UInt8) :
    Except Fault (List Char) := do
  let (front, back) := cutAtHyphen bytes
  let strict (part : List UInt8) := (charset.read part).strict (charset.label part) part
  let basic ← if forgiving then (charset.read front).forgiving else strict front
  (Punycode.decodeParts forgiving basic (← strict back)).mapError .digits

/-- The text of bytes.  The start of a mark in front of UTF-8, with nothing behind it, is no text.
-/
def decode (charset : Charset) (bytes : List UInt8) : Except Fault (List Char) :=
  match charset.form with
  | .markedUtf8 => if bytes.isPrefixOf utf8Mark then .ok [] else (charset.read bytes).forgiving
  | .punycode => decodePunycode charset true bytes
  | .hostName => .error .unforgiving
  | _ => (charset.read bytes).forgiving

/-- The text of bytes that stand for characters throughout. -/
def decodeStrict (charset : Charset) (bytes : List UInt8) : Except Fault (List Char) :=
  match charset.form with
  | .punycode => decodePunycode charset false bytes
  | _ => (charset.read bytes).strict (charset.label bytes) bytes

/-- Whether a charset turns bytes into texts, or would if it were of use at all. -/
def isForTexts (charset : Charset) : Bool :=
  match charset.form with
  | .unusable .fromText | .unusable .toBytes => false
  | _ => true

/-- The charset for bytes that may do without a mark: units then have their last byte first. -/
def forBytes (charset : Charset) (bytes : List UInt8) : Charset :=
  match charset.form with
  | .units width none =>
    if (announcedOrder? width bytes).isSome then charset
    else { charset with form := .units width (some false) }
  | _ => charset

end Charset

end Tocsin.Text
