import Shading.Text.Utf8

/-!
# Reading what was encoded

The octets of a text read as that text. The lead octet of a character tells how many octets follow
it and carries the highest bits, and each octet behind it carries six more. The narrower ranges
behind four of the lead octets leave out only what encodes no character or has a shorter encoding.
-/

namespace Shading.Text

section Octets

variable {bits payload : Nat} {low high : UInt8} {ranges : List (UInt8 × UInt8)}
  {octets : List UInt8}

theorem readContinuation_cons (hpayload : payload < 64) (hlow : low.toNat ≤ payload + 128)
    (hhigh : payload + 128 ≤ high.toNat) :
    readContinuation bits ((low, high) :: ranges) (UInt8.ofNat (payload + 128) :: octets) =
      readContinuation (bits * 64 + payload) ranges octets := by
  have hoctet : (UInt8.ofNat (payload + 128)).toNat = payload + 128 :=
    UInt8.toNat_ofNat_of_lt' (show _ < 256 by omega)
  have hrange : low ≤ UInt8.ofNat (payload + 128) ∧ UInt8.ofNat (payload + 128) ≤ high := by
    rw [UInt8.le_iff_toNat_le, UInt8.le_iff_toNat_le, hoctet]
    exact ⟨hlow, hhigh⟩
  rw [readContinuation, if_pos hrange, hoctet, Nat.add_sub_cancel]

theorem readContinuation_tail (hpayload : payload < 64) :
    readContinuation bits ((0x80, 0xBF) :: ranges) (UInt8.ofNat (payload + 128) :: octets) =
      readContinuation (bits * 64 + payload) ranges octets :=
  readContinuation_cons hpayload (Nat.le_add_left 128 payload)
    (Nat.le_of_lt_succ (Nat.add_lt_add_right hpayload 128))

theorem decodeFirst_of_continuation {lead : UInt8} {code : Nat} {rest : List UInt8}
    (hlead : ¬lead < 0x80) (hcontinuation : continuation lead = some (bits, ranges))
    (hread : readContinuation bits ranges octets = (some code, rest)) :
    decodeFirst lead octets = (Char.ofNat code, rest) := by
  rw [decodeFirst, if_neg hlead, hcontinuation]
  simp only [hread]

end Octets

theorem continuation_two {bits : Nat} (hlow : 2 ≤ bits) (hhigh : bits < 32) :
    continuation (UInt8.ofNat (bits + 192)) = some (bits, [(0x80, 0xBF)]) := by
  have hlead : (UInt8.ofNat (bits + 192)).toNat = bits + 192 :=
    UInt8.toNat_ofNat_of_lt' (show _ < 256 by omega)
  have hrange : 0xC2 ≤ UInt8.ofNat (bits + 192) ∧ UInt8.ofNat (bits + 192) ≤ 0xDF := by
    rw [UInt8.le_iff_toNat_le, UInt8.le_iff_toNat_le, hlead]
    exact ⟨Nat.add_le_add_right hlow 192, Nat.le_of_lt_succ (Nat.add_lt_add_right hhigh 192)⟩
  rw [continuation, if_pos hrange, hlead, Nat.add_sub_cancel]

/-- The octets that may follow the lead octet of a character in three octets. -/
def secondOfThree (bits : Nat) : UInt8 × UInt8 :=
  if bits = 0 then (0xA0, 0xBF) else if bits = 13 then (0x80, 0x9F) else (0x80, 0xBF)

theorem continuation_three :
    ∀ bits < 16, continuation (UInt8.ofNat (bits + 224)) =
      some (bits, [secondOfThree bits, (0x80, 0xBF)]) := by
  decide

/-- The octets that may follow the lead octet of a character in four octets. -/
def secondOfFour (bits : Nat) : UInt8 × UInt8 :=
  if bits = 0 then (0x90, 0xBF) else if bits = 4 then (0x80, 0x8F) else (0x80, 0xBF)

theorem continuation_four :
    ∀ bits < 5, continuation (UInt8.ofNat (bits + 240)) =
      some (bits, [secondOfFour bits, (0x80, 0xBF), (0x80, 0xBF)]) := by
  decide

theorem not_ofNat_lt {n : Nat} (hlow : 128 ≤ n) (hhigh : n < 256) : ¬UInt8.ofNat n < 0x80 := by
  rw [UInt8.lt_iff_toNat_lt, UInt8.toNat_ofNat_of_lt' hhigh]
  exact Nat.not_lt.2 hlow

section Characters

variable {code : Nat} (rest : List UInt8)

theorem decodeFirst_one (h : code ≤ 127) :
    decodeFirst (UInt8.ofNat code) rest = (Char.ofNat code, rest) := by
  have hcode : (UInt8.ofNat code).toNat = code := UInt8.toNat_ofNat_of_lt' (show _ < 256 by omega)
  have hlead : UInt8.ofNat code < 0x80 := by
    rw [UInt8.lt_iff_toNat_lt, hcode]
    exact Nat.lt_succ_of_le h
  rw [decodeFirst, if_pos hlead, hcode]

theorem decodeFirst_two (hlow : 127 < code) (hhigh : code ≤ 2047) :
    decodeFirst (UInt8.ofNat (code / 64 % 32 + 192)) (UInt8.ofNat (code % 64 + 128) :: rest) =
      (Char.ofNat code, rest) := by
  have hbits : code / 64 % 32 = code / 64 := by omega
  have hcode : code / 64 * 64 + code % 64 = code := Nat.div_add_mod' code 64
  rw [hbits]
  refine decodeFirst_of_continuation (not_ofNat_lt (by omega) (by omega))
    (continuation_two (by omega) (by omega)) ?_
  rw [readContinuation_tail (by omega), hcode]
  rfl

theorem decodeFirst_three (hlow : 2047 < code) (hhigh : code ≤ 65535)
    (hvalid : code < 0xD800 ∨ 0xDFFF < code) :
    decodeFirst (UInt8.ofNat (code / 4096 % 16 + 224))
        (UInt8.ofNat (code / 64 % 64 + 128) :: UInt8.ofNat (code % 64 + 128) :: rest) =
      (Char.ofNat code, rest) := by
  have hbits : code / 4096 % 16 = code / 4096 := by omega
  have hcode : (code / 4096 * 64 + code / 64 % 64) * 64 + code % 64 = code := by omega
  have hsecond : (secondOfThree (code / 4096)).1.toNat ≤ code / 64 % 64 + 128 ∧
      code / 64 % 64 + 128 ≤ (secondOfThree (code / 4096)).2.toNat := by
    unfold secondOfThree
    split
    · change 160 ≤ _ ∧ _ ≤ 191
      omega
    · split
      · change 128 ≤ _ ∧ _ ≤ 159
        omega
      · change 128 ≤ _ ∧ _ ≤ 191
        omega
  rw [hbits]
  refine decodeFirst_of_continuation (not_ofNat_lt (by omega) (by omega))
    (continuation_three _ (by omega)) ?_
  rw [readContinuation_cons (by omega) hsecond.1 hsecond.2,
    readContinuation_tail (by omega), hcode]
  rfl

theorem decodeFirst_four (hlow : 65535 < code) (hhigh : code < 0x110000) :
    decodeFirst (UInt8.ofNat (code / 262144 % 8 + 240))
        (UInt8.ofNat (code / 4096 % 64 + 128) :: UInt8.ofNat (code / 64 % 64 + 128) ::
          UInt8.ofNat (code % 64 + 128) :: rest) =
      (Char.ofNat code, rest) := by
  have hbits : code / 262144 % 8 = code / 262144 := by omega
  have hcode : ((code / 262144 * 64 + code / 4096 % 64) * 64 + code / 64 % 64) * 64 + code % 64 =
      code := by omega
  have hsecond : (secondOfFour (code / 262144)).1.toNat ≤ code / 4096 % 64 + 128 ∧
      code / 4096 % 64 + 128 ≤ (secondOfFour (code / 262144)).2.toNat := by
    unfold secondOfFour
    split
    · change 144 ≤ _ ∧ _ ≤ 191
      omega
    · split
      · change 128 ≤ _ ∧ _ ≤ 143
        omega
      · change 128 ≤ _ ∧ _ ≤ 191
        omega
  rw [hbits]
  refine decodeFirst_of_continuation (not_ofNat_lt (by omega) (by omega))
    (continuation_four _ (by omega)) ?_
  rw [readContinuation_cons (by omega) hsecond.1 hsecond.2,
    readContinuation_tail (by omega), readContinuation_tail (by omega), hcode]
  rfl

end Characters

theorem decode_cons_of_decodeFirst {lead : UInt8} {octets rest : List UInt8} {c : Char}
    (h : decodeFirst lead octets = (c, rest)) : decode (lead :: octets) = c :: decode rest := by
  rw [decode, h]

/-- What follows a character does not matter to how it is read. -/
theorem decode_utf8EncodeChar_append (c : Char) (rest : List UInt8) :
    decode (String.utf8EncodeChar c ++ rest) = c :: decode rest := by
  obtain ⟨code, hcode, hvalid⟩ : ∃ code, c.val.toNat = code ∧
      (code < 0xD800 ∨ 0xDFFF < code ∧ code < 0x110000) := ⟨_, rfl, c.valid⟩
  have hc : Char.ofNat code = c := by
    rw [← hcode]
    exact c.ofNat_toNat
  rw [String.utf8EncodeChar, hcode, ← hc]
  split
  · rename_i hone
    exact decode_cons_of_decodeFirst (decodeFirst_one rest hone)
  · rename_i hone
    split
    · rename_i htwo
      exact decode_cons_of_decodeFirst (decodeFirst_two rest (Nat.lt_of_not_le hone) htwo)
    · rename_i htwo
      split
      · rename_i hthree
        exact decode_cons_of_decodeFirst
          (decodeFirst_three rest (Nat.lt_of_not_le htwo) hthree (hvalid.imp_right And.left))
      · rename_i hthree
        exact decode_cons_of_decodeFirst
          (decodeFirst_four rest (Nat.lt_of_not_le hthree) (by omega))

theorem decode_encode_append (text : List Char) (rest : List UInt8) :
    decode (encode text ++ rest) = text ++ decode rest := by
  induction text with
  | nil => rfl
  | cons c text ih =>
    have hencode : encode (c :: text) = String.utf8EncodeChar c ++ encode text :=
      List.flatMap_cons
    rw [hencode, List.append_assoc, decode_utf8EncodeChar_append, ih, List.cons_append]

/-- The octets of a text are well formed and read as the text. -/
theorem decode_encode (text : List Char) : decode (encode text) = text := by
  have h := decode_encode_append text []
  rwa [List.append_nil, decode_nil, List.append_nil] at h

end Shading.Text
