import Shading.Text.Basic
import Shading.Uniform.Data

/-!
# Cells and marked sources

What the devices of this library have in common. A cell is a component as such a device stores it:
it remembers whether it was written as an integer or as a floating point number, and can be read as
either. No such device judges a source by its meaning. A source compiles unless it mentions one
marker, and links unless it mentions another.
-/

namespace Shading

open Shading.Uniform

/-- A component as it is stored; either type of component fits. -/
inductive Cell
  | int (component : Int32)
  | float (component : Binary32)
  deriving DecidableEq

namespace Cell

def zero : Cell := int 0

/-- Reading a floating point number as an integer truncates it. -/
def toInt32 : Cell → Int32
  | int component => component
  | float component => component.toInt32

def toBinary32 : Cell → Binary32
  | int component => Binary32.ofInt32 component
  | float component => component

@[simp] theorem toInt32_zero : zero.toInt32 = 0 := rfl

@[simp] theorem toBinary32_zero : zero.toBinary32 = Binary32.zero := by decide +kernel

def ofData : Data → List Cell
  | .ints components => components.map int
  | .floats components => components.map float

/-- Consecutive chunks of a positive length; the last may be shorter. -/
def chunks (length : Nat) (cells : List Cell) : List (List Cell) :=
  match cells with
  | [] => []
  | cell :: rest => (cell :: rest.take (length - 1)) :: chunks length (rest.drop (length - 1))
termination_by cells.length
decreasing_by
  rw [List.length_drop, List.length_cons]
  omega

/-- Cutting into chunks loses no cell. -/
@[simp] theorem flatten_chunks (length : Nat) (cells : List Cell) :
    (chunks length cells).flatten = cells := by
  fun_induction chunks length cells with
  | case1 => rfl
  | case2 cell rest ih =>
    rw [List.flatten_cons, ih, List.cons_append, List.take_append_drop]

/-- The transpose of a square matrix that stands row by row, or column by column. -/
def transpose (side : Nat) (cells : List Cell) : List Cell :=
  (List.range (side * side)).map fun i ↦ cells.getD (i % side * side + i / side) zero

@[simp] theorem length_transpose (side : Nat) (cells : List Cell) :
    (transpose side cells).length = side * side := by
  rw [transpose, List.length_map, List.length_range]

/-- A buffer of a given length that starts out as zeros and receives what cells there are. -/
def fill (length : Nat) (cells : List Cell) : List Cell :=
  cells.take length ++ List.replicate (length - cells.length) zero

/-- A buffer has the size that was asked for, however much was stored. -/
@[simp] theorem length_fill (length : Nat) (cells : List Cell) :
    (fill length cells).length = length := by
  rw [fill, List.length_append, List.length_take, List.length_replicate]
  omega

end Cell

/-- The marker that keeps a source from being compiled. -/
def refusesToCompile (source : List Char) : Bool :=
  Text.mentions "COMPILE_ERROR".toList source

/-- The marker that keeps a program from being linked. -/
def refusesToLink (source : List Char) : Bool :=
  Text.mentions "LINK_ERROR".toList source

end Shading
