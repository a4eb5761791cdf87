import Shading.Text.Listing

/-!
# Uniform descriptors

A descriptor says how the values of a uniform are laid out: whether an element is a scalar, a
vector or a square matrix, of which base type and width, and how many elements there are. A
uniform that is no array has one element.
-/

namespace Shading.Uniform

/-- The shape of an element. -/
inductive Kind
  | scalar
  | vector
  | matrix
  deriving DecidableEq

def Kind.listing : Kind → String
  | .scalar => "Scalar"
  | .vector => "Vector"
  | .matrix => "Matrix"

/-- The type of a component, as it is declared. -/
inductive BaseType
  | int
  | float
  deriving DecidableEq

namespace BaseType

def name : BaseType → String
  | int => "int"
  | float => "float"

def listing : BaseType → String
  | int => "Int"
  | float => "Float"

end BaseType

/-- The components of a vector, or the side of a matrix. -/
inductive Width
  | one
  | two
  | three
  | four
  deriving DecidableEq

namespace Width

def toNat : Width → Nat
  | one => 1
  | two => 2
  | three => 3
  | four => 4

def ofNat? : Nat → Option Width
  | 1 => some one
  | 2 => some two
  | 3 => some three
  | 4 => some four
  | _ => none

@[simp] theorem ofNat?_toNat (w : Width) : ofNat? w.toNat = some w := by
  cases w <;> rfl

theorem toNat_pos (w : Width) : 0 < w.toNat := by
  cases w <;> decide

theorem toNat_le (w : Width) : w.toNat ≤ 4 := by
  cases w <;> decide

/-- A number is a width if it is that of one. -/
theorem ofNat?_eq_some_iff {n : Nat} {w : Width} : ofNat? n = some w ↔ n = w.toNat := by
  constructor
  · intro h
    match n with
    | 1 | 2 | 3 | 4 => cases h; rfl
    | 0 | _ + 5 => simp [ofNat?] at h
  · rintro rfl
    exact ofNat?_toNat w

/-- Widths from the smallest on. -/
def ascending (widths : List Width) : List Width :=
  widths.mergeSort fun a b ↦ a.toNat ≤ b.toNat

def listing : Width → String
  | one => "One"
  | two => "Two"
  | three => "Three"
  | four => "Four"

end Width

structure Descriptor where
  kind : Kind
  baseType : BaseType
  width : Width
  arrayLength : Nat
  deriving DecidableEq

namespace Descriptor

/-- Square matrices have as many components as their side times itself. -/
def elementLen (d : Descriptor) : Nat :=
  match d.kind with
  | .matrix => d.width.toNat * d.width.toNat
  | .scalar | .vector => d.width.toNat

/-- The number of components of all elements, however large. -/
def componentCount (d : Descriptor) : Nat :=
  d.elementLen * d.arrayLength

/-- The number of components as a word of sixty-four bits, which wraps around. -/
def len (d : Descriptor) : Nat :=
  d.componentCount % UInt64.size

/-- The components can be counted in a word. -/
def Fits (d : Descriptor) : Prop :=
  d.componentCount < UInt64.size

instance (d : Descriptor) : Decidable d.Fits :=
  inferInstanceAs (Decidable (_ < _))

/-- Matrices are stored as floating point numbers whatever their base type. -/
def storageType (d : Descriptor) : BaseType :=
  match d.kind with
  | .matrix => .float
  | .scalar | .vector => d.baseType

/-- No element is empty, so that elements can be told apart. -/
theorem elementLen_pos (d : Descriptor) : 0 < d.elementLen := by
  have := d.width.toNat_pos
  cases d with
  | mk kind => cases kind <;> simp [elementLen, *]

/-- The largest element is a matrix of side four. -/
theorem elementLen_le (d : Descriptor) : d.elementLen ≤ 16 := by
  have hside := d.width.toNat_le
  unfold elementLen
  cases d.kind with
  | matrix => exact Nat.mul_le_mul hside hside
  | scalar | vector => exact Nat.le_trans hside (by decide)

/-- What fits is counted rightly. -/
theorem Fits.len_eq {d : Descriptor} (h : d.Fits) : d.len = d.componentCount :=
  Nat.mod_eq_of_lt h

/-- An array would have to be very long for its components not to be counted. -/
theorem fits_of_arrayLength_lt {d : Descriptor} (h : d.arrayLength < UInt64.size / 16) :
    d.Fits := by
  calc d.componentCount ≤ 16 * d.arrayLength := Nat.mul_le_mul_right _ d.elementLen_le
    _ < 16 * (UInt64.size / 16) := Nat.mul_lt_mul_of_pos_left h (by decide)
    _ = UInt64.size := by decide

/-- The name of the type of one element. -/
def typeName (d : Descriptor) : String :=
  match d.kind, d.baseType with
  | .scalar, base => base.name
  | .vector, .int => "ivec" ++ toString d.width.toNat
  | .vector, .float => "vec" ++ toString d.width.toNat
  | .matrix, _ => "mat" ++ toString d.width.toNat

/-- A single element needs no length. -/
def arraySuffix (d : Descriptor) : String :=
  if 1 < d.arrayLength then "[" ++ toString d.arrayLength ++ "]" else ""

/-- The type as a declaration would have it. -/
def display (d : Descriptor) : String :=
  d.typeName ++ d.arraySuffix

def listing (d : Descriptor) : String :=
  Text.record "UniformDescriptor"
    [("kind", d.kind.listing), ("base_type", d.baseType.listing), ("width", d.width.listing),
      ("array_length", toString d.arrayLength)]

end Descriptor

end Shading.Uniform
