/-!
# Words, lines and parts of a text

The blanks are the characters with the Unicode property `White_Space`. Trimming takes them off
both ends of a text; the words of a text are its longest runs without a blank.

A line ends with a line feed or at the end of the text. A carriage return right before a line feed
belongs to the ending; one at the very end of the text belongs to the line. A text that ends with
a line feed has no further, empty line.
-/

namespace Shading.Text

/-- The white space of Unicode. -/
def isBlank (c : Char) : Bool :=
  let n := c.toNat
  (0x9 ≤ n && n ≤ 0xD) || n == 0x20 || n == 0x85 || n == 0xA0 || n == 0x1680 ||
    (0x2000 ≤ n && n ≤ 0x200A) || n == 0x2028 || n == 0x2029 || n == 0x202F || n == 0x205F ||
    n == 0x3000

def trimStart (text : List Char) : List Char :=
  text.dropWhile isBlank

def trimEnd (text : List Char) : List Char :=
  (text.reverse.dropWhile isBlank).reverse

def trim (text : List Char) : List Char :=
  trimEnd (trimStart text)

/-- The longest parts without a blank. -/
def words (text : List Char) : List (List Char) :=
  (text.splitOnP isBlank).filter fun word ↦ !word.isEmpty

@[simp] theorem words_nil : words [] = [] := rfl

/-- One return at the end belongs to the ending of the line. -/
def dropReturn (line : List Char) : List Char :=
  if line.getLast? = some '\r' then line.dropLast else line

@[simp] theorem dropReturn_nil : dropReturn [] = [] := rfl

@[simp] theorem dropReturn_append_return (line : List Char) :
    dropReturn (line ++ ['\r']) = line := by
  simp [dropReturn]

/-- Every piece but the last was ended by a line feed. -/
def linesOfPieces : List (List Char) → List (List Char)
  | [] => []
  | [last] => if last = [] then [] else [last]
  | piece :: rest => dropReturn piece :: linesOfPieces rest

/-- A text that ends in a line feed has no line behind it. -/
def lines (text : List Char) : List (List Char) :=
  linesOfPieces (text.splitOn '\n')

@[simp] theorem lines_nil : lines [] = [] := rfl

/-- A text mentions another if it holds it as a contiguous part. -/
def mentions (part : List Char) : List Char → Bool
  | [] => part.isEmpty
  | c :: rest => part.isPrefixOf (c :: rest) || mentions part rest

theorem mentions_iff {part text : List Char} : mentions part text = true ↔ part <:+: text := by
  induction text with
  | nil => simp [mentions]
  | cons c rest ih =>
    rw [mentions, Bool.or_eq_true, ih, List.isPrefixOf_iff_prefix, List.infix_cons_iff]

end Shading.Text
