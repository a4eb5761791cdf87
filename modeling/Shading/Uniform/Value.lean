import Shading.Uniform.Data

/-!
# Uniform values

A value as it is read back. The components come element by element; the elements of a matrix
uniform come column by column and are turned into rows. A single component stands alone unless it
belongs to a matrix uniform.
-/

namespace Shading.Uniform

/-- What a read returns. -/
inductive Value
  | int (component : Int32)
  | float (component : Binary32)
  | ints (components : List Int32)
  | floats (components : List Binary32)
  | matrices (rows : List (List (List Binary32)))
  deriving DecidableEq

/-- The rows of a square matrix whose columns stand one after another. -/
def rowsOfColumns (side : Nat) (columns : List Binary32) : List (List Binary32) :=
  (List.range side).map fun row ↦
    (List.range side).map fun column ↦ columns.getD (column * side + row) .zero

namespace Value

/-- A single component is no list. -/
def ofInts : List Int32 → Value
  | [component] => int component
  | components => ints components

def ofFloats : List Binary32 → Value
  | [component] => float component
  | components => floats components

/-- Elements of a matrix become matrices, given by their rows. -/
def ofFloatElements (d : Descriptor) (elements : List (List Binary32)) : Value :=
  match d.kind with
  | .matrix => matrices (elements.map (rowsOfColumns d.width.toNat))
  | .scalar | .vector => ofFloats elements.flatten

end Value

end Shading.Uniform
