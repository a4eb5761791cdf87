import Shading.Text.Basic
import Shading.Uniform.Descriptor

/-!
# Uniform declarations

A statement declares a uniform when it begins with the word `uniform` and a blank. Exactly two
words must follow: a type, and a name with an optional length in brackets. The name is read first,
so a missing length is reported whatever the type is; every other fault reports the whole
statement.
-/

namespace Shading.Uniform

/-- Why a declaration cannot be taken into a table. -/
inductive DeclarationError
  | inconsistent (name : String)
  | unsized (name : String)
  | malformed (statement : String)
  deriving DecidableEq

def DeclarationError.message : DeclarationError → String
  | .inconsistent name => "inconsistent declarations of uniform " ++ name
  | .unsized name => "array declaration without size is not supported (uniform " ++ name ++ ")"
  | .malformed statement => "malformed uniform declaration: " ++ statement

/-- One more than the longest array: lengths have sixty-four bits. -/
def lengthLimit : Nat := UInt64.size

/-- Decimal digits, most significant first; at least one. -/
def readDigits (text : List Char) : Option Nat :=
  if text ≠ [] ∧ text.all Char.isDigit then some (Nat.ofDigitChars 10 text 0) else none

/-- Digits in base ten behind at most one sign, for a number that fits in a word. -/
def readLength (text : List Char) : Option Nat := do
  let n ← readDigits (match text with
    | '+' :: digits => digits
    | digits => digits)
  if 0 < n ∧ n < lengthLimit then some n else none

/-- The length in front of the closing bracket. -/
def readBrackets (statement name suffix : List Char) : Except DeclarationError Nat :=
  if suffix.getLast? = some ']' then
    match suffix.dropLast with
    | [] => .error (.unsized (String.ofList name))
    | digits =>
      match readLength digits with
      | some n => .ok n
      | none => .error (.malformed (String.ofList statement))
  else .error (.malformed (String.ofList statement))

/-- A name with a length in brackets is an array, and without them a single element. -/
def readName (statement word : List Char) : Except DeclarationError (List Char × Nat) :=
  let name := word.takeWhile (· != '[')
  match word.dropWhile (· != '[') with
  | [] => .ok (name, 1)
  | _ :: suffix =>
    if name = [] then .error (.malformed (String.ofList statement))
    else (readBrackets statement name suffix).map (name, ·)

/-- Integer families are the four that are named, and every sampler. -/
def baseTypeOf (family : List Char) : BaseType :=
  if family ∈ ["int".toList, "ivec".toList, "bool".toList, "bvec".toList] ∨
      Text.mentions "sampler".toList family then .int
  else .float

def matrixFamily : List Char := "mat".toList

/-- A type whose name ends in its width. -/
def readSized (family : List Char) (digit : Nat) : Option (Kind × BaseType × Width) := do
  let width ← Width.ofNat? digit
  if family = matrixFamily ∧ width ≠ .one then some (.matrix, baseTypeOf family, width)
  else if matrixFamily <+: family then none
  else some (.vector, baseTypeOf family, width)

/-- A final digit is the width; a type without one is a scalar. -/
def readType (word : List Char) : Option (Kind × BaseType × Width) :=
  match word.getLast? with
  | some c =>
    if c.isDigit then readSized word.dropLast (c.toNat - '0'.toNat)
    else some (.scalar, baseTypeOf word, .one)
  | none => some (.scalar, baseTypeOf word, .one)

def keyword : List Char := "uniform".toList

/-- What stands behind the keyword; the blank that must follow it still leads. -/
def afterKeyword (statement : List Char) : Option (List Char) :=
  match keyword.isPrefixOf? statement with
  | some (c :: rest) => if Text.isBlank c then some (c :: rest) else none
  | _ => none

/-- A declaration is a type and a name, no more. -/
def readDeclaration (statement rest : List Char) :
    Except DeclarationError (String × Descriptor) :=
  match Text.words rest with
  | [type, name] => do
    let (name, arrayLength) ← readName statement name
    match readType type with
    | some (kind, baseType, width) =>
      .ok (String.ofList name, { kind, baseType, width, arrayLength })
    | none => .error (.malformed (String.ofList statement))
  | _ => .error (.malformed (String.ofList statement))

end Shading.Uniform
