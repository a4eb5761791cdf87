import Shading.Text.Basic
import Shading.Uniform.Declaration
import Shading.Uniform.Table

/-!
# The declarations in a source text

Line comments and preprocessor lines are taken out line by line. The rest is cut at semicolons
into trimmed statements, and those that declare a uniform enter the table in order. A name may be
declared again with the same descriptor. The first faulty statement ends the reading, and the
table keeps what was declared before it.
-/

namespace Shading.Uniform

/-- The part of a line before the first two slashes in a row. -/
def beforeComment : List Char → List Char
  | [] => []
  | '/' :: '/' :: _ => []
  | c :: rest => c :: beforeComment rest

/-- A preprocessor line counts as an empty one. -/
def codeOfLine (line : List Char) : List Char :=
  let code := beforeComment line
  if (Text.trimStart code).head? = some '#' then [] else code

/-- The code of all lines, with a line feed between two of them. -/
def codeOf (source : List Char) : List Char :=
  ['\n'].intercalate ((Text.lines source).map codeOfLine)

/-- The code cut at semicolons, each statement without the blanks around it. -/
def statements (source : List Char) : List (List Char) :=
  ((codeOf source).splitOn ';').map Text.trim

/-- Other statements leave the table alone. -/
def declare (statement : List Char) (table : Table) : Except DeclarationError Table :=
  match afterKeyword statement with
  | none => .ok table
  | some rest => do
    let (name, descriptor) ← readDeclaration statement rest
    match table[name]? with
    | some known => if known = descriptor then .ok table else .error (.inconsistent name)
    | none => .ok (table.insert name descriptor)

/-- Declares one statement after the other, up to the first that is at fault. -/
def declareAll : List (List Char) → Table → Except DeclarationError Unit × Table
  | [], table => (.ok (), table)
  | statement :: rest, table =>
    match declare statement table with
    | .ok table => declareAll rest table
    | .error e => (.error e, table)

/-- The entries that were made before a fault stay in the table. -/
def parseInto (source : String) (table : Table) : Except DeclarationError Unit × Table :=
  declareAll (statements source.toList) table

/-- The table of a source by itself. -/
def parse (source : String) : Except DeclarationError Table :=
  match parseInto source ∅ with
  | (.ok (), table) => .ok table
  | (.error e, _) => .error e

@[simp] theorem declareAll_nil (table : Table) : declareAll [] table = (.ok (), table) := rfl

/-- A fault in the first part keeps the second from being looked at. -/
theorem declareAll_append (first second : List (List Char)) (table : Table) :
    declareAll (first ++ second) table =
      match declareAll first table with
      | (.ok (), table) => declareAll second table
      | (.error e, table) => (.error e, table) := by
  induction first generalizing table with
  | nil => rfl
  | cons statement rest ih =>
    simp only [List.cons_append, declareAll]
    cases declare statement table with
    | ok table => exact ih table
    | error e => rfl

end Shading.Uniform
