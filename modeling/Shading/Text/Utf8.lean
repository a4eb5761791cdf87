/-!
# UTF-8 with replacement

Every list of octets reads as a text. A well-formed sequence reads as its character. Elsewhere the
longest prefix that could still have begun a well-formed sequence, or a single octet if there is
none, reads as one replacement character, and reading goes on behind it.
-/

namespace Shading.Text

/-- What stands for octets that are no character. -/
def replacement : Char := '\uFFFD'

/-- What may follow a lead octet: its payload bits, and the range of each octet behind it. -/
def continuation (lead : UInt8) : Option (Nat × List (UInt8 × UInt8)) :=
  if 0xC2 ≤ lead ∧ lead ≤ 0xDF then some (lead.toNat - 0xC0, [(0x80, 0xBF)])
  else if lead = 0xE0 then some (0x0, [(0xA0, 0xBF), (0x80, 0xBF)])
  else if lead = 0xED then some (0xD, [(0x80, 0x9F), (0x80, 0xBF)])
  else if 0xE1 ≤ lead ∧ lead ≤ 0xEF then
    some (lead.toNat - 0xE0, [(0x80, 0xBF), (0x80, 0xBF)])
  else if lead = 0xF0 then some (0x0, [(0x90, 0xBF), (0x80, 0xBF), (0x80, 0xBF)])
  else if 0xF1 ≤ lead ∧ lead ≤ 0xF3 then
    some (lead.toNat - 0xF0, [(0x80, 0xBF), (0x80, 0xBF), (0x80, 0xBF)])
  else if lead = 0xF4 then some (0x4, [(0x80, 0x8F), (0x80, 0xBF), (0x80, 0xBF)])
  else none

/-- Six payload bits from each octet in range; stops before the first that is not. -/
def readContinuation (bits : Nat) :
    List (UInt8 × UInt8) → List UInt8 → Option Nat × List UInt8
  | [], octets => (some bits, octets)
  | _ :: _, [] => (none, [])
  | (low, high) :: ranges, octet :: octets =>
    if low ≤ octet ∧ octet ≤ high then
      readContinuation (bits * 64 + (octet.toNat - 0x80)) ranges octets
    else (none, octet :: octets)

/-- Continuations are read from the front, and none twice. -/
theorem length_readContinuation_le (bits : Nat) (ranges : List (UInt8 × UInt8))
    (octets : List UInt8) : (readContinuation bits ranges octets).2.length ≤ octets.length := by
  fun_induction readContinuation bits ranges octets with
  | case1 => exact Nat.le_refl _
  | case2 => exact Nat.le_refl _
  | case3 bits low high ranges octet octets h ih => exact Nat.le_succ_of_le ih
  | case4 => exact Nat.le_refl _

/-- The first character, and the octets behind it. -/
def decodeFirst (lead : UInt8) (octets : List UInt8) : Char × List UInt8 :=
  if lead < 0x80 then (Char.ofNat lead.toNat, octets)
  else
    match continuation lead with
    | none => (replacement, octets)
    | some (bits, ranges) =>
      match readContinuation bits ranges octets with
      | (some code, rest) => (Char.ofNat code, rest)
      | (none, rest) => (replacement, rest)

theorem length_decodeFirst_le (lead : UInt8) (octets : List UInt8) :
    (decodeFirst lead octets).2.length ≤ octets.length := by
  unfold decodeFirst
  split
  · exact Nat.le_refl _
  · split
    · exact Nat.le_refl _
    · rename_i bits ranges _
      have h := length_readContinuation_le bits ranges octets
      split
      · rename_i rest heq
        rwa [heq] at h
      · rename_i rest heq
        rwa [heq] at h

/-- Every octet string is decoded; what is ill-formed is replaced, prefix by prefix. -/
def decode : List UInt8 → List Char
  | [] => []
  | lead :: octets =>
    (decodeFirst lead octets).1 :: decode (decodeFirst lead octets).2
termination_by octets => octets.length
decreasing_by
  exact Nat.lt_succ_of_le (length_decodeFirst_le lead octets)

def encode (text : List Char) : List UInt8 :=
  text.flatMap String.utf8EncodeChar

@[simp] theorem decode_nil : decode [] = [] := by
  simp [decode]

/-- Characters are encoded one by one. -/
@[simp] theorem encode_append (s t : List Char) : encode (s ++ t) = encode s ++ encode t := by
  simp [encode]

end Shading.Text
