import Shading.Binary32
import Shading.Uniform.Descriptor

/-!
# Uniform data

Data is what a value comes down to: a sequence of components of one base type. A host value is a
component, or any nesting of lists of components, or data made beforehand; its components are its
leaves read from left to right, and a truth value counts as one or zero.
-/

namespace Shading.Uniform

/-- Components of one type, in a row. -/
inductive Data
  | ints (components : List Int32)
  | floats (components : List Binary32)
  deriving DecidableEq

namespace Data

def length : Data → Nat
  | ints components => components.length
  | floats components => components.length

def isEmpty (data : Data) : Bool :=
  data.length == 0

/-- Integers widen to floating point numbers; the other way is refused. -/
def coerce (target : BaseType) (data : Data) : Option Data :=
  match target, data with
  | .float, ints components => some (floats (components.map Binary32.ofInt32))
  | .float, floats components => some (floats components)
  | .int, ints components => some (ints components)
  | .int, floats _ => none

/-- A conversion keeps the number of components. -/
theorem length_of_coerce {target : BaseType} {data wide : Data}
    (h : data.coerce target = some wide) : wide.length = data.length := by
  cases target <;> cases data <;> simp [coerce] at h <;> subst h <;> simp [length]

end Data

/-- Components that are nested to any depth, not all to the same. -/
inductive Nested (α : Type)
  | leaf (component : α)
  | node (parts : List (Nested α))

namespace Nested

mutual

/-- Pushes the components behind what has been pushed before, from left to right. -/
def flattenInto {α : Type} : Nested α → Array α → Array α
  | leaf component, out => out.push component
  | node parts, out => flattenPartsInto parts out

def flattenPartsInto {α : Type} : List (Nested α) → Array α → Array α
  | [], out => out
  | part :: rest, out => flattenPartsInto rest (flattenInto part out)

end

/-- The components of all parts, without the nesting. -/
def flatten {α : Type} (value : Nested α) : List α :=
  (value.flattenInto #[]).toList

end Nested

/-- What a caller can pass to a write: nested components, or components in a row. -/
inductive HostValue
  | ints (value : Nested Int32)
  | floats (value : Nested Binary32)
  | bools (value : Nested Bool)
  | data (value : Data)

def HostValue.toData : HostValue → Data
  | ints value => .ints value.flatten
  | floats value => .floats value.flatten
  | bools value => .ints (value.flatten.map fun flag ↦ if flag then 1 else 0)
  | data value => value

end Shading.Uniform
