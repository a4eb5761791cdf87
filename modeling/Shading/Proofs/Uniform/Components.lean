import Shading.Uniform.Data

/-!
# Components

A host value is flattened in one pass that pushes its components, part by part, behind those that
were pushed before. What comes out are its leaves from left to right: how they are nested is lost,
and so is every part that has none. A uniform stores the components in its own type, and to be
coerced to that type is to become what is stored.
-/

namespace Shading.Uniform

namespace Nested

variable {α : Type}

mutual

def leaves : Nested α → List α
  | leaf component => [component]
  | node parts => leavesOfParts parts

def leavesOfParts : List (Nested α) → List α
  | [] => []
  | part :: rest => leaves part ++ leavesOfParts rest

end

mutual

/-- Components go behind whatever was pushed before. -/
theorem toList_flattenInto (value : Nested α) (out : Array α) :
    (value.flattenInto out).toList = out.toList ++ value.leaves := by
  cases value with
  | leaf component => rw [flattenInto, Array.toList_push, leaves]
  | node parts => rw [flattenInto, leaves, toList_flattenPartsInto parts out]

theorem toList_flattenPartsInto (parts : List (Nested α)) (out : Array α) :
    (flattenPartsInto parts out).toList = out.toList ++ leavesOfParts parts := by
  cases parts with
  | nil => rw [flattenPartsInto, leavesOfParts, List.append_nil]
  | cons part rest =>
    rw [flattenPartsInto, toList_flattenPartsInto rest, toList_flattenInto part, leavesOfParts,
      List.append_assoc]

end

theorem flatten_eq_leaves (value : Nested α) : value.flatten = value.leaves := by
  rw [flatten, toList_flattenInto, List.nil_append]

mutual

def leafCount : Nested α → Nat
  | leaf _ => 1
  | node parts => leafCountOfParts parts

def leafCountOfParts : List (Nested α) → Nat
  | [] => 0
  | part :: rest => leafCount part + leafCountOfParts rest

end

mutual

theorem length_leaves (value : Nested α) : value.leaves.length = value.leafCount := by
  cases value with
  | leaf component => rw [leaves, leafCount, List.length_singleton]
  | node parts => rw [leaves, leafCount, length_leavesOfParts parts]

theorem length_leavesOfParts (parts : List (Nested α)) :
    (leavesOfParts parts).length = leafCountOfParts parts := by
  cases parts with
  | nil => rw [leavesOfParts, leafCountOfParts, List.length_nil]
  | cons part rest =>
    rw [leavesOfParts, leafCountOfParts, List.length_append, length_leaves part,
      length_leavesOfParts rest]

end

end Nested

namespace HostValue

/-- The leaves from left to right, with one for true and zero for false. -/
def components : HostValue → Data
  | ints value => .ints value.leaves
  | floats value => .floats value.leaves
  | bools value => .ints (value.leaves.map fun flag ↦ if flag then 1 else 0)
  | data value => value

def leafCount : HostValue → Nat
  | ints value => value.leafCount
  | floats value => value.leafCount
  | bools value => value.leafCount
  | data value => value.length

theorem toData_eq_components (value : HostValue) : value.toData = value.components := by
  cases value with
  | ints value | floats value | bools value =>
    rw [toData, components, Nested.flatten_eq_leaves]
  | data value => rfl

theorem toData_eq_of_components_eq {value value' : HostValue}
    (h : value.components = value'.components) : value.toData = value'.toData := by
  rw [toData_eq_components, toData_eq_components, h]

theorem length_components (value : HostValue) : value.components.length = value.leafCount := by
  cases value with
  | ints value | floats value => exact value.length_leaves
  | bools value => exact (List.length_map _).trans value.length_leaves
  | data value => rfl

end HostValue

/-- The components as a uniform stores them: integers are converted if it stores floating point
numbers. -/
def Data.stored (d : Descriptor) : Data → Data
  | .ints components =>
    match d.storageType with
    | .float => .floats (components.map Binary32.ofInt32)
    | .int => .ints components
  | .floats components => .floats components

theorem Data.eq_stored_of_coerce {d : Descriptor} {data wide : Data}
    (h : data.coerce d.storageType = some wide) : wide = data.stored d := by
  cases data with
  | ints components =>
    cases hstorage : d.storageType <;>
      simp only [coerce, hstorage, Option.some.injEq] at h <;>
      simp only [stored, hstorage, h]
  | floats components =>
    cases hstorage : d.storageType with
    | int =>
      rw [hstorage] at h
      cases h
    | float =>
      rw [hstorage] at h
      exact (Option.some.inj h).symm

end Shading.Uniform
