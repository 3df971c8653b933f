import Gatehouse.Json.Basic
import Gatehouse.Text.Quoted

/-!
# Writing JSON

Three written forms: compact with all text raw, compact in ASCII, and spaced in ASCII. A fourth
form shows a value inside a message.
-/

namespace Gatehouse.Json

structure Style where
  comma : List Char
  colon : List Char
  /-- Everything beyond ASCII is written as escaped UTF-16 units. -/
  ascii : Bool

def compact : Style := ⟨[','], [':'], false⟩

def compactAscii : Style := ⟨[','], [':'], true⟩

def spacedAscii : Style := ⟨[',', ' '], [':', ' '], true⟩

/-! ## Texts -/

def unitEscape (n : Nat) : List Char :=
  '\\' :: 'u' :: Quoted.hex 4 n

def escapeChar (ascii : Bool) (c : Char) : List Char :=
  let n := c.toNat
  if c = '"' then ['\\', '"']
  else if c = '\\' then ['\\', '\\']
  else if n = 0x08 then ['\\', 'b']
  else if n = 0x09 then ['\\', 't']
  else if n = 0x0A then ['\\', 'n']
  else if n = 0x0C then ['\\', 'f']
  else if n = 0x0D then ['\\', 'r']
  else if n < 0x20 then unitEscape n
  else if !ascii || n < 0x7F then [c]
  else if n < 0x10000 then unitEscape n
  else
    unitEscape (0xD800 + (n - 0x10000) / 1024) ++ unitEscape (0xDC00 + (n - 0x10000) % 1024)

def writeText (ascii : Bool) (s : String) : List Char :=
  '"' :: s.toList.flatMap (escapeChar ascii) ++ ['"']

/-- A lone surrogate can only be written as an escape. -/
def escapeCode (ascii : Bool) (n : Nat) : List Char :=
  if RawText.isHigh n || RawText.isLow n then unitEscape n else escapeChar ascii (Char.ofNat n)

def writeCodes (ascii : Bool) (codes : List Nat) : List Char :=
  '"' :: codes.flatMap (escapeCode ascii) ++ ['"']

def writeRaw (ascii : Bool) : RawText → List Char
  | .whole s => writeText ascii s
  | .torn codes => writeCodes ascii codes

/-! ## Values -/

def writeReal : Binary64 → List Char
  | .nan => "NaN".toList
  | .infinite negative => if negative then "-Infinity".toList else "Infinity".toList
  | x => x.text.toList

def writeInteger (n : Int) : List Char :=
  if n < 0 then '-' :: (toString n.natAbs).toList else (toString n.natAbs).toList

mutual

def writeValue (style : Style) : Json → List Char
  | null => "null".toList
  | bool b => if b then "true".toList else "false".toList
  | integer n => writeInteger n
  | real x => writeReal x
  | text s => writeText style.ascii s
  | torn codes => writeCodes style.ascii codes
  | array items => '[' :: writeItems style items ++ [']']
  | object fields => '\x7b' :: writeFields style fields ++ ['\x7d']
  | tornObject fields => '\x7b' :: writeRawFields style fields ++ ['\x7d']

def writeItems (style : Style) : List Json → List Char
  | [] => []
  | [v] => writeValue style v
  | v :: rest => writeValue style v ++ style.comma ++ writeItems style rest

def writeFields (style : Style) : List (String × Json) → List Char
  | [] => []
  | [(name, v)] => writeText style.ascii name ++ style.colon ++ writeValue style v
  | (name, v) :: rest =>
    writeText style.ascii name ++ style.colon ++ writeValue style v ++ style.comma ++
      writeFields style rest

def writeRawFields (style : Style) : List (RawText × Json) → List Char
  | [] => []
  | [(name, v)] => writeRaw style.ascii name ++ style.colon ++ writeValue style v
  | (name, v) :: rest =>
    writeRaw style.ascii name ++ style.colon ++ writeValue style v ++ style.comma ++
      writeRawFields style rest

end

def write (style : Style) (v : Json) : String :=
  String.ofList (writeValue style v)

/-! ## Values inside messages -/

mutual

def display : Json → String
  | null => "None"
  | bool b => if b then "True" else "False"
  | integer n => toString n
  | real x => x.text
  | text s => Quoted.quoted s
  | torn codes => RawText.quoted (.torn codes)
  | array items => "[" ++ ", ".intercalate (displayItems items) ++ "]"
  | object fields => "\x7b" ++ ", ".intercalate (displayFields fields) ++ "\x7d"
  | tornObject fields => "\x7b" ++ ", ".intercalate (displayRawFields fields) ++ "\x7d"

def displayItems : List Json → List String
  | [] => []
  | v :: rest => display v :: displayItems rest

def displayFields : List (String × Json) → List String
  | [] => []
  | (name, v) :: rest => (Quoted.quoted name ++ ": " ++ display v) :: displayFields rest

def displayRawFields : List (RawText × Json) → List String
  | [] => []
  | (name, v) :: rest => (name.quoted ++ ": " ++ display v) :: displayRawFields rest

end

/-- A text as it is, anything else as it is displayed. -/
def plain : Json → String
  | text s => s
  | v => display v

end Gatehouse.Json
