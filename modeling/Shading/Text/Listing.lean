import Shading.Text.Basic
import Shading.Text.Hidden

/-!
# Listings

A listing spells out a value on one line: texts between double quotes, sequences in brackets, maps
and the fields of a record in braces. In a quoted text the quote, the backslash and four controls
have escapes of two characters. Every other control, every blank but the space, and every character
that does not show by itself is written by its code in hexadecimal.
-/

namespace Shading.Text

def isControl (c : Char) : Bool :=
  c.toNat < 0x20 || (0x7F ≤ c.toNat && c.toNat ≤ 0x9F)

/-- Characters that would not be seen, or not as themselves. -/
def mustEscape (c : Char) : Bool :=
  isControl c || isBlank c || (0x80 ≤ c.toNat && isHidden c)

/-- What stands for a character in a quoted text. -/
def escape : Char → List Char
  | '"' => ['\\', '"']
  | '\\' => ['\\', '\\']
  | '\n' => ['\\', 'n']
  | '\r' => ['\\', 'r']
  | '\t' => ['\\', 't']
  | '\x00' => ['\\', '0']
  | ' ' => [' ']
  | c =>
    if mustEscape c then
      ['\\', 'u', '\x7b'] ++ Nat.toDigits 16 c.toNat ++ ['\x7d']
    else [c]

/-- A text in quotes, from which it can be read back. -/
def quote (text : String) : String :=
  String.ofList ('"' :: text.toList.flatMap escape ++ ['"'])

def sequence (items : List String) : String :=
  "[" ++ String.intercalate ", " items ++ "]"

def mapping (entries : List (String × String)) : String :=
  "\x7b" ++ String.intercalate ", " (entries.map fun (key, value) ↦ key ++ ": " ++ value) ++ "\x7d"

/-- A record without fields is not written. -/
def record (name : String) (fields : List (String × String)) : String :=
  name ++ " \x7b " ++
    String.intercalate ", " (fields.map fun (field, value) ↦ field ++ ": " ++ value) ++ " \x7d"

end Shading.Text
