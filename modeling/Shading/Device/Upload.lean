import Shading.Uniform.Data

/-!
# Uploads

An upload carries the components of consecutive elements of a uniform. Its method is chosen by the
shape of an element: vectors of integers or of floating point numbers, where a scalar counts as a
vector of one component, and square matrices.
-/

namespace Shading

open Shading.Uniform

/-- Components for the method of one width; matrices may be sent by rows. -/
inductive Upload
  | ints (width : Width) (components : List Int32)
  | floats (width : Width) (components : List Binary32)
  | matrices (side : Width) (transpose : Bool) (components : List Binary32)
  deriving DecidableEq

namespace Upload

/-- The name of the method that takes the components. -/
def method : Upload → String
  | ints width _ => "uniform" ++ toString width.toNat ++ "iv"
  | floats width _ => "uniform" ++ toString width.toNat ++ "fv"
  | matrices side _ _ => "uniform_matrix" ++ toString side.toNat ++ "fv"

/-- The components of one element. -/
def elementLen : Upload → Nat
  | ints width _ => width.toNat
  | floats width _ => width.toNat
  | matrices side _ _ => side.toNat * side.toNat

def data : Upload → Data
  | ints _ components => .ints components
  | floats _ components => .floats components
  | matrices _ _ components => .floats components

/-- Matrices are given row by row and so are transposed on the way. A matrix of one component has no
method. -/
def ofData (d : Descriptor) (data : Data) : Option Upload :=
  match d.kind, data with
  | .matrix, .floats components =>
    if d.width = .one then none else some (matrices d.width true components)
  | _, .ints components => some (ints d.width components)
  | _, .floats components => some (floats d.width components)

end Upload

end Shading
