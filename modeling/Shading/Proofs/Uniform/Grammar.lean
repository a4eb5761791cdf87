import Shading.Proofs.Text.Words
import Shading.Proofs.Uniform.Union

/-!
# The grammar of a declaration

What may stand behind the keyword is said here without reading it: two words, a type and a name,
and for either the forms that it may have. A declaration is accepted exactly if it has these forms,
and they determine what is declared. A length that is left out is a fault of its own, which is
found whatever the type is; every other fault is the fault of the whole statement.
-/

namespace Shading.Uniform

open Text

/-- Decimal digits, most significant first; zeros may lead. -/
inductive Numeral : List Char → Nat → Prop
  | digit {k : Nat} (hk : k < 10) : Numeral [k.digitChar] k
  | snoc {text : List Char} {n k : Nat} (h : Numeral text n) (hk : k < 10) :
      Numeral (text ++ [k.digitChar]) (10 * n + k)

/-- What may stand in brackets: a numeral, perhaps behind a plus sign, of a number that is not
zero and fits in 64 bits. -/
def IsLength (text : List Char) (n : Nat) : Prop :=
  (1 ≤ n ∧ n < UInt64.size) ∧ ∃ digits, Numeral digits n ∧ (text = digits ∨ text = '+' :: digits)

theorem exists_digitChar {c : Char} (h : c.isDigit = true) : ∃ k < 10, c = k.digitChar := by
  obtain ⟨hlow, hhigh⟩ := Char.isDigit_iff_toNat.1 h
  have hlow' : 48 ≤ c.toNat := hlow
  have hhigh' : c.toNat ≤ 57 := hhigh
  have hk : c.toNat - 48 < 10 := by omega
  refine ⟨c.toNat - 48, hk, ?_⟩
  apply Char.toNat_inj.1
  rw [Nat.toNat_digitChar_of_lt_ten hk]
  omega

theorem isDigit_digitChar {k : Nat} (hk : k < 10) : k.digitChar.isDigit = true := by
  rw [Nat.isDigit_digitChar, decide_eq_true hk]

theorem Numeral.ne_nil {text : List Char} {n : Nat} (h : Numeral text n) : text ≠ [] := by
  cases h <;> simp

theorem Numeral.isDigit {text : List Char} {n : Nat} (h : Numeral text n) :
    ∀ c ∈ text, c.isDigit = true := by
  induction h with
  | digit hk =>
    intro c hc
    rw [List.mem_singleton.1 hc]
    exact isDigit_digitChar hk
  | snoc h hk ih =>
    intro c hc
    rcases List.mem_append.1 hc with hc | hc
    · exact ih c hc
    · rw [List.mem_singleton.1 hc]
      exact isDigit_digitChar hk

theorem Numeral.ofDigitChars_eq {text : List Char} {n : Nat} (h : Numeral text n) :
    Nat.ofDigitChars 10 text 0 = n := by
  induction h with
  | digit hk =>
    rw [Nat.ofDigitChars_cons_digitChar_of_lt_ten hk, Nat.ofDigitChars_nil, Nat.mul_zero,
      Nat.zero_add]
  | snoc h hk ih =>
    rw [Nat.ofDigitChars_append, ih, Nat.ofDigitChars_cons_digitChar_of_lt_ten hk,
      Nat.ofDigitChars_nil]

theorem numeral_ofDigitChars {text : List Char} (hne : text ≠ [])
    (h : ∀ c ∈ text, c.isDigit = true) : Numeral text (Nat.ofDigitChars 10 text 0) := by
  induction text using List.reverseRecOn with
  | nil => exact absurd rfl hne
  | append_singleton init c ih =>
    obtain ⟨k, hk, rfl⟩ := exists_digitChar (h c (by simp))
    rw [Nat.ofDigitChars_append, Nat.ofDigitChars_cons_digitChar_of_lt_ten hk,
      Nat.ofDigitChars_nil]
    by_cases hinit : init = []
    · rw [hinit, Nat.ofDigitChars_nil, Nat.mul_zero, Nat.zero_add]
      exact .digit hk
    · exact .snoc (ih hinit fun c hc ↦ h c (List.mem_append_left _ hc)) hk

theorem readDigits_eq_some_iff {text : List Char} {n : Nat} :
    readDigits text = some n ↔ Numeral text n := by
  constructor
  · intro h
    unfold readDigits at h
    split at h
    · rename_i hdigits
      rw [← Option.some.inj h]
      exact numeral_ofDigitChars hdigits.1 (List.all_eq_true.1 hdigits.2)
    · cases h
  · intro h
    rw [readDigits, if_pos ⟨h.ne_nil, List.all_eq_true.2 h.isDigit⟩, h.ofDigitChars_eq]

/-- No numeral has a sign of its own. -/
theorem numeral_unsigned_iff {text : List Char} {n : Nat} :
    Numeral (match text with | '+' :: digits => digits | digits => digits) n ↔
      ∃ digits, Numeral digits n ∧ (text = digits ∨ text = '+' :: digits) := by
  split
  · rename_i digits
    constructor
    · exact fun h ↦ ⟨digits, h, .inr rfl⟩
    · rintro ⟨digits', h, rfl | heq⟩
      · exact absurd (h.isDigit '+' List.mem_cons_self) (by decide)
      · rwa [(List.cons.inj heq).2]
  · rename_i hplus
    constructor
    · exact fun h ↦ ⟨text, h, .inl rfl⟩
    · rintro ⟨digits, h, rfl | rfl⟩
      · exact h
      · exact absurd rfl (hplus digits)

theorem readLength_eq_some_iff {text : List Char} {n : Nat} :
    readLength text = some n ↔ IsLength text n := by
  have hbounds : ∀ m, (if 0 < m ∧ m < lengthLimit then some m else none) = some n ↔
      m = n ∧ 1 ≤ n ∧ n < UInt64.size := by
    intro m
    constructor
    · intro h
      split at h
      · rename_i hm
        obtain rfl := Option.some.inj h
        exact ⟨rfl, hm⟩
      · cases h
    · rintro ⟨rfl, hn⟩
      exact if_pos hn
  unfold readLength
  refine Option.bind_eq_some_iff.trans ?_
  simp only [readDigits_eq_some_iff, hbounds]
  constructor
  · rintro ⟨m, hdigits, rfl, hn⟩
    exact ⟨hn, numeral_unsigned_iff.1 hdigits⟩
  · rintro ⟨hn, hdigits⟩
    exact ⟨n, numeral_unsigned_iff.2 hdigits, rfl, hn⟩

/-- A name, or the name of an array with its length in brackets. -/
inductive NameWord : List Char → List Char → Nat → Prop
  | plain {name : List Char} (hbare : '[' ∉ name) : NameWord name name 1
  | sized {name text : List Char} {n : Nat} (hname : name ≠ []) (hbare : '[' ∉ name)
      (hlength : IsLength text n) : NameWord (name ++ '[' :: (text ++ [']'])) name n

/-- The name of an array whose length is left out. -/
structure UnsizedWord (word name : List Char) : Prop where
  ne_nil : name ≠ []
  bare : '[' ∉ name
  eq_append : word = name ++ "[]".toList

section
variable {statement word name suffix : List Char} {n : Nat}

theorem readBrackets_eq_ok_iff :
    readBrackets statement name suffix = .ok n ↔
      ∃ text, suffix = text ++ [']'] ∧ IsLength text n := by
  unfold readBrackets
  constructor
  · intro h
    split at h
    · rename_i hlast
      obtain ⟨text, rfl⟩ := List.getLast?_eq_some_iff.1 hlast
      rw [List.dropLast_concat] at h
      split at h
      · cases h
      · split at h
        · rename_i hread
          rw [← Except.ok.inj h]
          exact ⟨text, rfl, readLength_eq_some_iff.1 hread⟩
        · cases h
    · cases h
  · rintro ⟨text, rfl, hlength⟩
    have hread := readLength_eq_some_iff.2 hlength
    rw [if_pos List.getLast?_concat, List.dropLast_concat]
    split
    · cases hread
    · rw [hread]

theorem readBrackets_eq_error {e : DeclarationError}
    (h : readBrackets statement name suffix = .error e) :
    suffix = [']'] ∧ e = .unsized (String.ofList name) ∨
      e = .malformed (String.ofList statement) := by
  unfold readBrackets at h
  split at h
  · rename_i hlast
    obtain ⟨text, rfl⟩ := List.getLast?_eq_some_iff.1 hlast
    rw [List.dropLast_concat] at h
    split at h
    · exact .inl ⟨rfl, (Except.error.inj h).symm⟩
    · split at h
      · cases h
      · exact .inr (Except.error.inj h).symm
  · exact .inr (Except.error.inj h).symm

theorem readName_of_not_mem (h : '[' ∉ word) : readName statement word = .ok (word, 1) := by
  have hbare := bne_bracket_of_not_mem h
  rw [readName, List.takeWhile_eq_self_iff.2 hbare, List.dropWhile_eq_nil_iff.2 hbare]

theorem readName_append_bracket (h : '[' ∉ name) :
    readName statement (name ++ '[' :: suffix) =
      if name = [] then .error (.malformed (String.ofList statement))
      else (readBrackets statement name suffix).map (name, ·) := by
  have hbare := bne_bracket_of_not_mem h
  rw [readName, List.takeWhile_append_of_pos hbare, List.dropWhile_append_of_pos hbare]
  simp

theorem readName_eq_ok_iff : readName statement word = .ok (name, n) ↔ NameWord word name n := by
  constructor
  · intro h
    by_cases hmem : '[' ∈ word
    · obtain ⟨first, suffix, rfl, hbare⟩ := List.eq_append_cons_of_mem hmem
      rw [readName_append_bracket hbare] at h
      split at h
      · cases h
      · rename_i hname
        cases hread : readBrackets statement first suffix with
        | error e =>
          rw [hread] at h
          cases h
        | ok m =>
          rw [hread] at h
          obtain ⟨rfl, rfl⟩ := Prod.mk.inj (Except.ok.inj h)
          obtain ⟨text, rfl, hlength⟩ := readBrackets_eq_ok_iff.1 hread
          exact .sized hname hbare hlength
    · rw [readName_of_not_mem hmem] at h
      obtain ⟨rfl, rfl⟩ := Prod.mk.inj (Except.ok.inj h)
      exact .plain hmem
  · rintro (hbare | ⟨hname, hbare, hlength⟩)
    · exact readName_of_not_mem hbare
    · rw [readName_append_bracket hbare, if_neg hname,
        readBrackets_eq_ok_iff.2 ⟨_, rfl, hlength⟩]
      rfl

/-- A word that is no name lacks the length of its array, or it fails the whole statement. -/
theorem readName_eq_error {e : DeclarationError} (h : readName statement word = .error e) :
    (∃ name, UnsizedWord word name ∧ e = .unsized (String.ofList name)) ∨
      e = .malformed (String.ofList statement) := by
  by_cases hmem : '[' ∈ word
  · obtain ⟨name, suffix, rfl, hbare⟩ := List.eq_append_cons_of_mem hmem
    rw [readName_append_bracket hbare] at h
    split at h
    · exact .inr (Except.error.inj h).symm
    · rename_i hname
      cases hread : readBrackets statement name suffix with
      | error e' =>
        rw [hread] at h
        obtain rfl := Except.error.inj h
        rcases readBrackets_eq_error hread with ⟨rfl, rfl⟩ | rfl
        · exact .inl ⟨name, ⟨hname, hbare, rfl⟩, rfl⟩
        · exact .inr rfl
      | ok n =>
        rw [hread] at h
        cases h
  · rw [readName_of_not_mem hmem] at h
    cases h

theorem readName_unsized (h : UnsizedWord word name) :
    readName statement word = .error (.unsized (String.ofList name)) := by
  rw [h.eq_append]
  refine (readName_append_bracket h.bare).trans ?_
  rw [if_neg h.ne_nil]
  rfl

end

/-! ## Types -/

/-- A type is a family of types and a width; a scalar is a family of its own. -/
inductive TypeWord : List Char → List Char → Kind → Width → Prop
  | scalar {word : List Char} (hlast : ∀ c, word.getLast? = some c → c.isDigit = false) :
      TypeWord word word .scalar .one
  | matrix {width : Width} (hside : width ≠ .one) :
      TypeWord ("mat".toList ++ [width.toNat.digitChar]) "mat".toList .matrix width
  | vector {family : List Char} {width : Width} (hfamily : ¬"mat".toList <+: family) :
      TypeWord (family ++ [width.toNat.digitChar]) family .vector width

def IsIntegral (family : List Char) : Prop :=
  family ∈ ["int".toList, "ivec".toList, "bool".toList, "bvec".toList] ∨
    "sampler".toList <:+: family

theorem baseTypeOf_eq_iff {family : List Char} {base : BaseType} :
    baseTypeOf family = base ↔ (base = .int ↔ IsIntegral family) := by
  have hint : IsIntegral family ↔
      family ∈ ["int".toList, "ivec".toList, "bool".toList, "bvec".toList] ∨
        mentions "sampler".toList family = true := or_congr_right mentions_iff.symm
  unfold baseTypeOf
  by_cases h : IsIntegral family
  · rw [if_pos (hint.1 h)]
    cases base <;> simp [h]
  · rw [if_neg (mt hint.2 h)]
    cases base <;> simp [h]

theorem readSized_eq_some_iff {family : List Char} {k : Nat} {kind : Kind} {base : BaseType}
    {width : Width} :
    readSized family k = some (kind, base, width) ↔
      k = width.toNat ∧ baseTypeOf family = base ∧
        (family = matrixFamily ∧ width ≠ .one ∧ kind = .matrix ∨
          ¬matrixFamily <+: family ∧ kind = .vector) := by
  unfold readSized
  refine Option.bind_eq_some_iff.trans ?_
  simp only [Width.ofNat?_eq_some_iff]
  constructor
  · rintro ⟨w, rfl, h⟩
    split at h
    · rename_i hmatrix
      cases h
      exact ⟨rfl, rfl, .inl ⟨hmatrix.1, hmatrix.2, rfl⟩⟩
    · split at h
      · cases h
      · rename_i hfamily
        cases h
        exact ⟨rfl, rfl, .inr ⟨hfamily, rfl⟩⟩
  · rintro ⟨rfl, rfl, ⟨rfl, hside, rfl⟩ | ⟨hfamily, rfl⟩⟩
    · exact ⟨width, rfl, if_pos ⟨rfl, hside⟩⟩
    · have hvector : ¬(family = matrixFamily ∧ width ≠ .one) := by
        rintro ⟨rfl, -⟩
        exact hfamily List.prefix_rfl
      exact ⟨width, rfl, by rw [if_neg hvector, if_neg hfamily]⟩

theorem readType_append_digit {k : Nat} (hk : k < 10) (family : List Char) :
    readType (family ++ [k.digitChar]) = readSized family k := by
  have hvalue : k.digitChar.toNat - '0'.toNat = k := Nat.toNat_digitChar_sub_48_of_lt_ten hk
  rw [readType, List.getLast?_concat]
  simp only [isDigit_digitChar hk, if_true, List.dropLast_concat, hvalue]

theorem readType_of_not_digit {word : List Char}
    (h : ∀ c, word.getLast? = some c → c.isDigit = false) :
    readType word = some (.scalar, baseTypeOf word, .one) := by
  unfold readType
  split
  · rename_i c hlast
    rw [h c hlast]
    rfl
  · rfl

theorem exists_last_digit_or (word : List Char) :
    (∃ family k, k < 10 ∧ word = family ++ [k.digitChar]) ∨
      ∀ c, word.getLast? = some c → c.isDigit = false := by
  rcases List.eq_nil_or_concat word with rfl | ⟨family, c, rfl⟩
  · exact .inr fun c h ↦ nomatch h
  · rw [List.concat_eq_append]
    cases hc : c.isDigit with
    | true =>
      obtain ⟨k, hk, rfl⟩ := exists_digitChar hc
      exact .inl ⟨family, k, hk, rfl⟩
    | false =>
      refine .inr fun d hd ↦ ?_
      rw [List.getLast?_concat] at hd
      rwa [← Option.some.inj hd]

/-- The width is cut off as a single character, whatever the family is written in. -/
theorem readType_eq_some_iff {word : List Char} {kind : Kind} {base : BaseType} {width : Width} :
    readType word = some (kind, base, width) ↔
      ∃ family, TypeWord word family kind width ∧ (base = .int ↔ IsIntegral family) := by
  have hwidth : width.toNat < 10 := by cases width <;> decide
  constructor
  · intro h
    rcases exists_last_digit_or word with ⟨family, k, hk, rfl⟩ | hlast
    · rw [readType_append_digit hk, readSized_eq_some_iff] at h
      obtain ⟨rfl, hbase, ⟨rfl, hside, rfl⟩ | ⟨hfamily, rfl⟩⟩ := h
      · exact ⟨_, .matrix hside, baseTypeOf_eq_iff.1 hbase⟩
      · exact ⟨family, .vector hfamily, baseTypeOf_eq_iff.1 hbase⟩
    · rw [readType_of_not_digit hlast] at h
      cases h
      exact ⟨word, .scalar hlast, baseTypeOf_eq_iff.1 rfl⟩
  · rintro ⟨family, hword, hbase⟩
    rw [← baseTypeOf_eq_iff] at hbase
    cases hword with
    | scalar hlast => rw [readType_of_not_digit hlast, hbase]
    | matrix hside =>
      rw [readType_append_digit hwidth, readSized_eq_some_iff]
      exact ⟨rfl, hbase, .inl ⟨rfl, hside, rfl⟩⟩
    | vector hfamily =>
      rw [readType_append_digit hwidth, readSized_eq_some_iff]
      exact ⟨rfl, hbase, .inr ⟨hfamily, rfl⟩⟩

/-! ## Declarations -/

/-- A type and a name, and what they declare. -/
def Grammatical (rest name : List Char) (d : Descriptor) : Prop :=
  ∃ type word family, IsPair rest type word ∧ NameWord word name d.arrayLength ∧
    TypeWord type family d.kind d.width ∧ (d.baseType = .int ↔ IsIntegral family)

/-- A type, which may be none at all, and the name of an array without a length. -/
def Unsized (rest name : List Char) : Prop :=
  ∃ type word, IsPair rest type word ∧ UnsizedWord word name

theorem readDeclaration_eq_ok_iff {statement rest : List Char} {name : String} {d : Descriptor} :
    readDeclaration statement rest = .ok (name, d) ↔ Grammatical rest name.toList d := by
  constructor
  · intro h
    obtain ⟨type, word, hwords, hname, htype⟩ := readDeclaration_ok h
    obtain ⟨family, hfamily, hbase⟩ := readType_eq_some_iff.1 htype
    exact ⟨type, word, family, words_eq_pair_iff.1 hwords, readName_eq_ok_iff.1 hname, hfamily,
      hbase⟩
  · rintro ⟨type, word, family, hpair, hname, hfamily, hbase⟩
    have htype := readType_eq_some_iff.2 ⟨family, hfamily, hbase⟩
    rw [readDeclaration, words_eq_pair_iff.2 hpair]
    simp only [readName_eq_ok_iff.2 hname, htype, bind, Except.bind, String.ofList_toList]

theorem readDeclaration_unsized {statement rest name : List Char} (h : Unsized rest name) :
    readDeclaration statement rest = .error (.unsized (String.ofList name)) := by
  obtain ⟨type, word, hpair, hword⟩ := h
  rw [readDeclaration, words_eq_pair_iff.2 hpair]
  simp only [readName_unsized hword, bind, Except.bind]

theorem readDeclaration_eq_error {statement rest : List Char} {e : DeclarationError}
    (h : readDeclaration statement rest = .error e) :
    (∃ name, Unsized rest name ∧ e = .unsized (String.ofList name)) ∨
      e = .malformed (String.ofList statement) := by
  unfold readDeclaration at h
  split at h
  · rename_i type word hwords
    cases hname : readName statement word with
    | error e' =>
      rw [hname] at h
      obtain rfl := Except.error.inj h
      rcases readName_eq_error hname with ⟨name, hword, rfl⟩ | rfl
      · exact .inl ⟨name, ⟨type, word, words_eq_pair_iff.1 hwords, hword⟩, rfl⟩
      · exact .inr rfl
    | ok entry =>
      simp only [hname, bind, Except.bind] at h
      split at h
      · cases h
      · exact .inr (Except.error.inj h).symm
  · exact .inr (Except.error.inj h).symm

theorem readDeclaration_eq_unsized_iff {statement rest : List Char} {name : String} :
    readDeclaration statement rest = .error (.unsized name) ↔ Unsized rest name.toList := by
  constructor
  · intro h
    rcases readDeclaration_eq_error h with ⟨name', hname, heq⟩ | heq
    · obtain rfl := DeclarationError.unsized.inj heq
      rwa [String.toList_ofList]
    · cases heq
  · intro h
    rw [readDeclaration_unsized h, String.ofList_toList]

theorem readDeclaration_cons_blank {c : Char} (hc : isBlank c = true) (statement rest : List Char) :
    readDeclaration statement (c :: rest) = readDeclaration statement rest := by
  rw [readDeclaration, words_cons_blank hc]
  rfl

theorem declare_empty {c : Char} (hc : isBlank c = true) (rest : List Char) :
    declare (keyword ++ c :: rest) ∅ =
      (readDeclaration (keyword ++ c :: rest) rest).map fun (name, d) ↦
        (∅ : Table).insert name d := by
  simp only [declare, afterKeyword_append hc, readDeclaration_cons_blank hc]
  cases readDeclaration (keyword ++ c :: rest) rest with
  | error e => rfl
  | ok entry =>
    have hnew : (∅ : Table)[entry.1]? = none := Table.getElem?_empty entry.1
    simp only [bind, Except.bind, hnew]
    rfl

/-- A statement that begins with the keyword and a blank is accepted exactly if the grammar admits
what stands behind them, and declares what the grammar says. Otherwise it lacks the length of an
array, or it is refused as a whole. -/
theorem accepted_iff_grammatical {c : Char} (hc : isBlank c = true) (rest : List Char) :
    let statement := "uniform".toList ++ c :: rest
    (∀ table, declare statement ∅ = .ok table ↔
        ∃ name d, Grammatical rest name.toList d ∧ table = (∅ : Table).insert name d) ∧
      (∀ name, declare statement ∅ = .error (.unsized name) ↔ Unsized rest name.toList) ∧
      ∀ e, declare statement ∅ = .error e →
        (∃ name, e = .unsized name) ∨ e = .malformed (String.ofList statement) := by
  intro statement
  have hdeclare : declare statement ∅ =
      (readDeclaration statement rest).map fun (name, d) ↦ (∅ : Table).insert name d :=
    declare_empty hc rest
  have herror : ∀ e, declare statement ∅ = .error e ↔
      readDeclaration statement rest = .error e := by
    intro e
    rw [hdeclare]
    cases readDeclaration statement rest <;> simp [Except.map]
  refine ⟨fun table ↦ ⟨fun h ↦ ?_, ?_⟩, fun name ↦ ?_, fun e h ↦ ?_⟩
  · rw [hdeclare] at h
    cases hread : readDeclaration statement rest with
    | error e =>
      rw [hread] at h
      cases h
    | ok entry =>
      rw [hread] at h
      exact ⟨entry.1, entry.2, readDeclaration_eq_ok_iff.1 hread, (Except.ok.inj h).symm⟩
  · rintro ⟨name, d, hgrammatical, rfl⟩
    rw [hdeclare, readDeclaration_eq_ok_iff.2 hgrammatical]
    rfl
  · rw [herror, readDeclaration_eq_unsized_iff]
  · rcases readDeclaration_eq_error ((herror e).1 h) with ⟨name, -, he⟩ | he
    · exact .inl ⟨_, he⟩
    · exact .inr he

/-- The blanks, the sign, the zeros and the letters are such as few would write. -/
theorem accepted_iff_grammatical_signed :
    let rest := " bvec3\u2003名[+007]".toList
    let d : Descriptor := ⟨.vector, .int, .three, 7⟩
    isBlank '\u3000' = true ∧ Grammatical rest "名".toList d ∧
      declare ("uniform".toList ++ '\u3000' :: rest) ∅ = .ok ((∅ : Table).insert "名" d) := by
  intro rest d
  have hblank : isBlank '\u3000' = true := by decide
  have hseven : Numeral "007".toList 7 :=
    .snoc (.snoc (.digit (by decide : 0 < 10)) (by decide : 0 < 10)) (by decide : 7 < 10)
  have hlength : IsLength "+007".toList 7 := ⟨by decide, "007".toList, hseven, .inr rfl⟩
  have hpair : IsPair rest "bvec3".toList "名[+007]".toList :=
    ⟨⟨by simp, by simp [isBlank]⟩, ⟨by simp, by simp [isBlank]⟩, [' '], ['\u2003'], [], rfl,
      by simp, by simp [isBlank]⟩
  have hbare : '[' ∉ "名".toList := by decide
  have hname : NameWord "名[+007]".toList "名".toList 7 := .sized (by simp) hbare hlength
  have htype :
      TypeWord ("bvec".toList ++ [Width.three.toNat.digitChar]) "bvec".toList .vector .three :=
    .vector (by decide)
  have hgrammatical : Grammatical rest "名".toList d :=
    ⟨_, _, _, hpair, hname, htype, by simp [d, IsIntegral]⟩
  obtain ⟨haccepted, -⟩ := accepted_iff_grammatical hblank rest
  exact ⟨hblank, hgrammatical, (haccepted _).2 ⟨"名", d, hgrammatical, rfl⟩⟩

end Shading.Uniform
