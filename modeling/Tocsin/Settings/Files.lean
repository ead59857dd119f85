import Tocsin.Config.Value
import Tocsin.Text.Charset
import Tocsin.Text.Cut

/-!
# Files of variables

Arguments may tell which files of variables are read, and in which charset.  There is one file at
most, in the working directory, and any other path leads to none.  The file is kept in UTF-8;
`textIn` tells what it says when it is read in another charset.
-/

set_option autoImplicit false

namespace Tocsin.Settings

open Tocsin.Config Tocsin.Text

/-- Why files of variables cannot be read. -/
inductive FileFault where
  /-- What should give their paths is of a kind that has no items. -/
  | noItems (kind : String)
  /-- A path is of another kind. -/
  | notAPath (kind : String)
  /-- A path is given in bytes. -/
  | pathInBytes
  /-- The charset is of a kind that is no name. -/
  | notAName (kind : String)
  /-- There is a NUL in the name of the charset. -/
  | nulInName
  /-- No charset has the name. -/
  | unknownCharset (name : String)
  /-- What has the name is no way to write texts. -/
  | notForTexts (name : String)
  /-- The bytes of a file are none of the charset. -/
  | unreadable (fault : Coding.Fault)
  deriving DecidableEq, Repr

/-- The wording of a fault. -/
def FileFault.message : FileFault → String
  | noItems kind => "'" ++ kind ++ "' object is not iterable"
  | notAPath kind => "expected str, bytes or os.PathLike object, not " ++ kind
  | pathInBytes =>
    "argument should be a str object or an os.PathLike object returning str, not <class 'bytes'>"
  | notAName kind => "open() argument 'encoding' must be str or None, not " ++ kind
  | nulInName => "embedded null character"
  | unknownCharset name => "unknown encoding: " ++ name
  | notForTexts name =>
    "'" ++ name ++ "' is not a text encoding; use codecs.open() to handle arbitrary codecs"
  | unreadable fault => fault.message

namespace Files

/-- The paths that a value gives: a text is one, null is none, and of a mapping the keys are. -/
def paths (v : Value) : Except FileFault (List Value) :=
  match v, v.items? with
  | .null, _ => .ok []
  | .text path, _ => .ok [.text path]
  | .dict entries, _ => .ok (entries.map (·.1))
  | .bytes bytes, _ => .ok (bytes.map fun b => .int b.toNat)
  | _, some items => .ok items
  | _, none => .error (.noItems v.typeName)

/-- Whether a path leads to the file in the working directory. -/
def isHere (path : String) : Bool :=
  let parts := splitAt '/' path.toList
  parts.head? != some [] && parts.filter (fun p => p != [] && p != ['.']) == [".env".toList]

/-- Whether a value is a path to the file in the working directory. -/
def leadsHere : Value → Except FileFault Bool
  | .text path => .ok (isHere path)
  | .bytes _ => .error .pathInBytes
  | v => .error (.notAPath v.typeName)

/-- What a file says in a charset.  The name `locale` stands for the charset in which it is kept. -/
def textIn (charset : Value) (file : String) : Except FileFault String :=
  match charset with
  | .text name =>
    if name = "" ∨ name = "locale" then .ok file
    else if name.toList.contains (Char.ofNat 0) then .error .nulInName
    else
      match Charset.ofName? name with
      | none => .error (.unknownCharset name)
      | some found =>
        if found.isForTexts then
          ((found.decodeStrict file.toUTF8.toList).map String.ofList).mapError .unreadable
        else .error (.notForTexts name)
  | v => if v.isTruthy then .error (.notAName v.typeName) else .ok file

end Files

end Tocsin.Settings
