/-!
# Single precision numbers

A number is held as the thirty-two bits of its binary interchange form: a sign, eight bits of
exponent and twenty-three of fraction. Only the two conversions with integers are computed here,
in exact integer arithmetic: an integer rounds to the nearest number, a tie to the even one, and a
number truncates toward zero into the range of the integers.
-/

namespace Shading

structure Binary32 where
  bits : UInt32
  deriving DecidableEq, Inhabited

namespace Binary32

/-- The positive zero, whose bits are all clear. -/
def zero : Binary32 := ⟨0⟩

def isNegative (x : Binary32) : Bool :=
  0x80000000 ≤ x.bits

/-- The eight bits behind the sign, with their bias. -/
def exponent (x : Binary32) : Nat :=
  (x.bits.toNat >>> 23) % 0x100

/-- The low twenty-three bits. -/
def fraction (x : Binary32) : Nat :=
  x.bits.toNat % 0x800000

/-- All bits of the exponent are set and some of the fraction. -/
def isNaN (x : Binary32) : Bool :=
  x.exponent == 255 && x.fraction != 0

/-- The quotient by a power of two, to the nearest integer and to the even one on a tie. -/
def roundShift (m shift : Nat) : Nat :=
  let quotient := m >>> shift
  let unit := 1 <<< shift
  let twice := 2 * (m % unit)
  if twice < unit ∨ (twice = unit ∧ quotient % 2 = 0) then quotient else quotient + 1

/-- The bits of a natural number of at most thirty-two bits. The leading bit of the significand is
not stored but adds one to the exponent, as does a carry out of it. -/
def magnitudeBits (m : Nat) : Nat :=
  if m = 0 then 0
  else
    let e := m.log2
    let significand := if e ≤ 23 then m <<< (23 - e) else roundShift m (e - 23)
    ((e + 126) <<< 23) + significand

/-- The nearest number, or of two nearest the one whose fraction is even. -/
def ofInt32 (i : Int32) : Binary32 :=
  let m := magnitudeBits i.toInt.natAbs
  ⟨UInt32.ofNat (if i.toInt < 0 then 0x80000000 + m else m)⟩

/-- The integer part of the absolute value. -/
def truncated (x : Binary32) : Nat :=
  if x.exponent < 127 then 0
  else
    let significand := 0x800000 + x.fraction
    if x.exponent ≤ 150 then significand >>> (150 - x.exponent)
    else significand <<< (x.exponent - 150)

/-- What is out of range goes to the nearest end of it, and what is no number to zero. -/
def toInt32 (x : Binary32) : Int32 :=
  if x.isNaN then 0
  else if x.isNegative then
    if 0x80000000 ≤ x.truncated then Int32.minValue else Int32.ofInt (-(x.truncated : Int))
  else
    if 0x80000000 ≤ x.truncated then Int32.maxValue else Int32.ofInt x.truncated

example : ofInt32 1 = ⟨0x3F800000⟩ ∧ ofInt32 (-2) = ⟨0xC0000000⟩ := by decide +kernel

example : ofInt32 16777217 = ⟨0x4B800000⟩ ∧ ofInt32 16777219 = ⟨0x4B800002⟩ := by decide +kernel

example : ofInt32 Int32.maxValue = ⟨0x4F000000⟩ ∧ ofInt32 Int32.minValue = ⟨0xCF000000⟩ := by
  decide +kernel

example : toInt32 ⟨0xBFC00000⟩ = -1 ∧ toInt32 ⟨0x7F800000⟩ = Int32.maxValue := by decide +kernel

end Binary32

end Shading
