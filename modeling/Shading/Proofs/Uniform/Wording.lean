import Shading.Proofs.Uniform.Grammar

/-!
# Statements with the same words

A statement is read word by word, and the blanks between its words show up nowhere but in the text
of a fault. Two pieces of code whose statements have the same words can therefore be read into the
same tables, and one of them can be read just if the other can.
-/

namespace Shading.Uniform

open Text

theorem head?_trim {text : List Char} {c : Char} (h : (trim text).head? = some c) :
    isBlank c = false := by
  obtain ⟨rest, hrest⟩ := isPrefix_trim text
  have hhead : (trimStart text).head? = some c := by
    rw [← hrest, List.head?_append, h]
    rfl
  have hstop := List.head?_dropWhile_not isBlank text
  rw [← trimStart, hhead] at hstop
  exact hstop

theorem getLast?_trim {text : List Char} {c : Char} (h : (trim text).getLast? = some c) :
    isBlank c = false := by
  rw [trim, trimEnd, List.getLast?_reverse] at h
  have hstop := List.head?_dropWhile_not isBlank (trimStart text).reverse
  rw [h] at hstop
  exact hstop

/-- The keyword has no blank in it. -/
theorem isWord_keyword : IsWord keyword := by
  have hsolid : keyword.all (fun c ↦ isBlank c == false) = true := by decide
  exact ⟨by decide, fun c hc ↦ eq_of_beq (List.all_eq_true.1 hsolid c hc)⟩

/-- The keyword is the first word. -/
theorem words_of_afterKeyword {statement rest : List Char}
    (h : afterKeyword statement = some rest) : words statement = keyword :: words rest := by
  have hsplit := eq_append_of_afterKeyword h
  obtain ⟨c, tail, hstatement, hc⟩ := declares_iff.1 (Option.isSome_iff_exists.2 ⟨rest, h⟩)
  obtain rfl : rest = c :: tail := List.append_cancel_left (hsplit.symm.trans hstatement)
  rw [hsplit]
  refine words_word_append isWord_keyword ?_
  rintro d ⟨⟩
  exact hc

section

variable {piece : List Char}

/-- Something other than blanks follows the keyword of a trimmed statement. -/
theorem words_ne_nil_of_afterKeyword {rest : List Char}
    (h : afterKeyword (trim piece) = some rest) : words rest ≠ [] := by
  intro hnone
  have hblank := blank_of_words_eq_nil hnone
  have hsplit := eq_append_of_afterKeyword h
  rcases List.eq_nil_or_concat rest with rfl | ⟨init, c, rfl⟩
  · -- without a blank behind it, it would be no keyword
    rw [hsplit] at h
    exact absurd h (by decide)
  · have hlast : (trim piece).getLast? = some c := by
      rw [hsplit, List.concat_eq_append, ← List.append_assoc, List.getLast?_concat]
    have hsolid := getLast?_trim hlast
    rw [hblank c (by simp)] at hsolid
    cases hsolid

theorem afterKeyword_trim_of_words {word : List Char} {others : List (List Char)}
    (h : words piece = keyword :: word :: others) :
    ∃ rest, afterKeyword (trim piece) = some rest ∧ words rest = word :: others := by
  rw [← words_trim] at h
  obtain ⟨before, after, hsplit, hbefore, hafter, hothers⟩ := exists_first_word h
  have hnothing : before = [] := by
    cases before with
    | nil => rfl
    | cons b before =>
      have hsolid := head?_trim (c := b) (by rw [hsplit]; rfl)
      rw [hbefore b List.mem_cons_self] at hsolid
      cases hsolid
  rw [hnothing, List.nil_append] at hsplit
  cases after with
  | nil => cases hothers
  | cons c after =>
    exact ⟨c :: after, by rw [hsplit, afterKeyword_append (hafter c rfl)], hothers⟩

/-- Whether a piece declares something shows in its words. -/
theorem declares_trim_iff :
    declares (trim piece) = true ↔ ∃ word others, words piece = keyword :: word :: others := by
  constructor
  · intro h
    obtain ⟨rest, hrest⟩ := Option.isSome_iff_exists.1 h
    obtain ⟨word, others, hwords⟩ :=
      List.exists_cons_of_ne_nil (words_ne_nil_of_afterKeyword hrest)
    exact ⟨word, others, by rw [← words_trim, words_of_afterKeyword hrest, hwords]⟩
  · rintro ⟨word, others, h⟩
    obtain ⟨rest, hrest, -⟩ := afterKeyword_trim_of_words h
    exact Option.isSome_iff_exists.2 ⟨rest, hrest⟩

/-- What it declares shows in them, too. -/
theorem declares_trim_entry_iff {name : String} {d : Descriptor} :
    Declares (trim piece) name d ↔ ∃ type word, words piece = [keyword, type, word] ∧
      NameWord word name.toList d.arrayLength ∧
        readType type = some (d.kind, d.baseType, d.width) := by
  constructor
  · rintro ⟨rest, hrest, hread⟩
    obtain ⟨type, word, hwords, hname, htype⟩ := readDeclaration_ok hread
    refine ⟨type, word, ?_, readName_eq_ok_iff.1 hname, htype⟩
    rw [← words_trim, words_of_afterKeyword hrest, hwords]
  · rintro ⟨type, word, h, hname, htype⟩
    obtain ⟨rest, hrest, hwords⟩ := afterKeyword_trim_of_words h
    refine ⟨rest, hrest, ?_⟩
    rw [readDeclaration, hwords]
    simp only [readName_eq_ok_iff.2 hname, htype, bind, Except.bind, String.ofList_toList]

end

/-- Both statements declare the same, or both are at fault, or neither is a declaration. -/
structure Agree (statement statement' : List Char) : Prop where
  declares : declares statement = declares statement'
  entries : ∀ name d, Declares statement name d ↔ Declares statement' name d

/-- Pieces of the same words declare the same. -/
theorem agree_trim {piece piece' : List Char} (h : words piece = words piece') :
    Agree (trim piece) (trim piece') where
  declares := by
    rw [Bool.eq_iff_iff, declares_trim_iff, declares_trim_iff, h]
  entries name d := by
    rw [declares_trim_entry_iff, declares_trim_entry_iff, h]

theorem Agree.declare_eq_ok {statement statement' : List Char} (h : Agree statement statement')
    {table table' : Table} (hdeclare : declare statement table = .ok table') :
    declare statement' table = .ok table' := by
  rcases declare_cases hdeclare with
    ⟨hkeyword, rfl⟩ | ⟨rest, name, d, hkeyword, hread, hentry⟩
  · have hnone : Uniform.declares statement = false := by
      rw [Uniform.declares, hkeyword]
      rfl
    exact declare_of_not_declares (h.declares ▸ hnone) _
  · rw [declare_of_declares ((h.entries name d).1 ⟨rest, hkeyword, hread⟩)]
    rcases hentry with ⟨hknown, rfl⟩ | ⟨hnew, rfl⟩
    · simp only [hknown, if_true]
    · simp only [hnew]

/-- Statements that agree one by one are read alike. -/
theorem declareAll_of_agree {statements statements' : List (List Char)}
    (h : List.Forall₂ Agree statements statements') {table table' : Table}
    (hread : declareAll statements table = (.ok (), table')) :
    declareAll statements' table = (.ok (), table') := by
  induction h generalizing table with
  | nil => exact hread
  | @cons statement _ _ _ hfirst _ ih =>
    rw [declareAll] at hread ⊢
    cases hdeclare : declare statement table with
    | ok next =>
      rw [hdeclare] at hread
      rw [hfirst.declare_eq_ok hdeclare]
      exact ih hread
    | error e =>
      rw [hdeclare] at hread
      cases hread

/-- The words of each statement. -/
def phrases (code : List Char) : List (List (List Char)) :=
  (code.splitOn ';').map words

theorem phrases_append (first second : List Char) :
    phrases (first ++ ';' :: second) = phrases first ++ phrases second := by
  rw [phrases, List.splitOn_append_cons_self, List.map_append]
  rfl

/-- Code that has no end is a part of the first statement behind it. -/
theorem phrases_append_of_not_mem {last : List Char} (h : ';' ∉ last) {c : Char}
    (hc : isBlank c = true) (code : List Char) :
    phrases (last ++ c :: code) = (phrases code).modifyHead (words last ++ ·) := by
  have hnot : ';' ∉ last ++ [c] := by
    simp [h, Ne.symm (ne_semicolon_of_isBlank hc)]
  obtain ⟨piece, rest, hsplit⟩ := List.exists_cons_of_ne_nil (List.splitOn_ne_nil ';' code)
  rw [List.append_cons, phrases, splitOn_append_of_not_mem hnot, phrases, hsplit]
  simp only [List.modifyHead_cons, List.map_cons, List.append_assoc, List.singleton_append,
    words_append_blank hc]

/-- Blanks do not show in the words. -/
theorem phrases_cons_blank {c : Char} (hc : isBlank c = true) (code : List Char) :
    phrases (c :: code) = phrases code := by
  have h := phrases_append_of_not_mem List.not_mem_nil hc code
  obtain ⟨first, rest, hphrases⟩ := List.exists_cons_of_ne_nil
    (show phrases code ≠ [] by simp [phrases, List.splitOn_ne_nil])
  rw [hphrases] at h ⊢
  simpa using h

theorem phrases_append_congr {c : Char} (hc : isBlank c = true) {code code' : List Char}
    (h : phrases code = phrases code') (before : List Char) :
    phrases (before ++ c :: code) = phrases (before ++ c :: code') := by
  rcases not_mem_or_exists_last ';' before with hnone | ⟨first, last, rfl, hlast⟩
  · rw [phrases_append_of_not_mem hnone hc, phrases_append_of_not_mem hnone hc, h]
  · rw [List.append_assoc, List.append_assoc, List.cons_append, List.cons_append, phrases_append,
      phrases_append, phrases_append_of_not_mem hlast hc, phrases_append_of_not_mem hlast hc, h]

theorem forall₂_agree_cut {code code' : List Char} (h : phrases code = phrases code') :
    List.Forall₂ Agree (cut code) (cut code') := by
  rw [phrases, phrases, ← List.forall₂_eq_eq_eq, List.forall₂_map_left_iff,
    List.forall₂_map_right_iff] at h
  rw [cut, cut, List.forall₂_map_left_iff, List.forall₂_map_right_iff]
  exact h.imp fun _ _ hwords ↦ agree_trim hwords

/-- Code with the same words in its statements is read into the same tables. -/
theorem declareAll_cut_congr {code code' : List Char} (h : phrases code = phrases code')
    (table table' : Table) :
    declareAll (cut code) table = (.ok (), table') ↔
      declareAll (cut code') table = (.ok (), table') :=
  ⟨declareAll_of_agree (forall₂_agree_cut h), declareAll_of_agree (forall₂_agree_cut h.symm)⟩

end Shading.Uniform
