import Mathlib.Data.List.Infix
import Shading.Text.Basic

/-!
# Pieces of a text

Splitting, trimming and taking words apart give contiguous parts of a text: what is absent from a
text is absent from its pieces. A text without separators is its only piece, and a text without
blanks its only word.
-/

namespace Shading.Text

variable {p : Char → Bool} {text piece : List Char}

/-- The first piece opens the text, and no other piece goes beyond it. -/
theorem exists_splitOnP_eq_cons (p : Char → Bool) (text : List Char) :
    ∃ first rest, text.splitOnP p = first :: rest ∧ first <+: text ∧
      ∀ piece ∈ rest, piece <:+: text := by
  induction text with
  | nil => exact ⟨[], [], rfl, List.nil_prefix, by simp⟩
  | cons c text ih =>
    obtain ⟨first, rest, hsplit, hfirst, hrest⟩ := ih
    rw [List.splitOnP_cons_eq_if_modifyHead, hsplit]
    cases p c with
    | true =>
      refine ⟨[], first :: rest, rfl, List.nil_prefix, ?_⟩
      intro piece hmem
      rcases List.mem_cons.1 hmem with rfl | hmem
      · exact List.infix_cons hfirst.isInfix
      · exact List.infix_cons (hrest piece hmem)
    | false =>
      refine ⟨c :: first, rest, rfl, (List.prefix_cons_inj c).2 hfirst, ?_⟩
      exact fun piece hmem ↦ List.infix_cons (hrest piece hmem)

theorem infix_of_mem_splitOnP (h : piece ∈ text.splitOnP p) : piece <:+: text := by
  obtain ⟨first, rest, hsplit, hfirst, hrest⟩ := exists_splitOnP_eq_cons p text
  rw [hsplit] at h
  rcases List.mem_cons.1 h with rfl | h
  · exact hfirst.isInfix
  · exact hrest piece h

theorem not_of_mem_splitOnP (h : piece ∈ text.splitOnP p) {c : Char} (hc : c ∈ piece) :
    p c = false := by
  induction text generalizing piece with
  | nil =>
    rw [List.splitOnP_nil, List.mem_singleton] at h
    rw [h] at hc
    cases hc
  | cons d text ih =>
    rw [List.splitOnP_cons_eq_if_modifyHead] at h
    obtain ⟨first, rest, hsplit, -⟩ := exists_splitOnP_eq_cons p text
    rw [hsplit] at h ih
    split at h
    · rcases List.mem_cons.1 h with rfl | h
      · cases hc
      · exact ih h hc
    · rename_i hd
      rcases List.mem_cons.1 h with rfl | h
      · rcases List.mem_cons.1 hc with rfl | hc
        · exact eq_false_of_ne_true hd
        · exact ih List.mem_cons_self hc
      · exact ih (List.mem_cons_of_mem _ h) hc

theorem isPrefix_trim (text : List Char) : trim text <+: trimStart text := by
  rw [trim, trimEnd, ← List.reverse_suffix, List.reverse_reverse]
  exact List.dropWhile_suffix _

theorem isInfix_trim (text : List Char) : trim text <:+: text :=
  (isPrefix_trim text).isInfix.trans (List.dropWhile_suffix _).isInfix

theorem infix_of_mem_words (h : piece ∈ words text) : piece <:+: text :=
  infix_of_mem_splitOnP (List.mem_filter.1 h).1

theorem ne_nil_of_mem_words (h : piece ∈ words text) : piece ≠ [] := by
  have hfull := (List.mem_filter.1 h).2
  rintro rfl
  cases hfull

theorem isBlank_of_mem_words (h : piece ∈ words text) {c : Char} (hc : c ∈ piece) :
    isBlank c = false :=
  not_of_mem_splitOnP (List.mem_filter.1 h).1 hc

theorem words_of_solid (hne : text ≠ []) (h : ∀ c ∈ text, isBlank c = false) :
    words text = [text] := by
  rw [words, List.splitOnP_eq_singleton h]
  simp [hne]

end Shading.Text
