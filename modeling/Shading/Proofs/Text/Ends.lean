import Shading.Proofs.Text.Lines
import Shading.Proofs.Text.Pieces

/-!
# Blanks at the ends

Trimming stops at the first and at the last character that is not blank, so what is put together
is trimmed at its outer ends only. The words of a text do not depend on the blanks around it.
-/

namespace Shading.Text

theorem blank_or_exists_solid (text : List Char) :
    (∀ c ∈ text, isBlank c = true) ∨ ∃ c ∈ text, isBlank c = false := by
  by_contra hneither
  rw [not_or] at hneither
  refine hneither.1 fun c hc ↦ ?_
  by_contra hsolid
  exact hneither.2 ⟨c, hc, eq_false_of_ne_true hsolid⟩

theorem exists_last_solid {text : List Char} (h : ∃ c ∈ text, isBlank c = false) :
    ∃ init c rest, text = init ++ c :: rest ∧ isBlank c = false ∧
      ∀ x ∈ rest, isBlank x = true := by
  induction text with
  | nil =>
    obtain ⟨c, hc, -⟩ := h
    cases hc
  | cons d text ih =>
    rcases blank_or_exists_solid text with hblank | hlater
    · obtain ⟨c, hc, hsolid⟩ := h
      rcases List.mem_cons.1 hc with rfl | hc
      · exact ⟨[], c, text, rfl, hsolid, hblank⟩
      · rw [hblank c hc] at hsolid
        cases hsolid
    · obtain ⟨init, c, rest, rfl, hc, hrest⟩ := ih hlater
      exact ⟨d :: init, c, rest, rfl, hc, hrest⟩

theorem trimEnd_append_of_blank {rest : List Char} (h : ∀ x ∈ rest, isBlank x = true)
    (text : List Char) : trimEnd (text ++ rest) = trimEnd text := by
  have hrest : ∀ x ∈ rest.reverse, isBlank x = true :=
    fun x hx ↦ h x (List.mem_reverse.1 hx)
  rw [trimEnd, List.reverse_append, List.dropWhile_append_of_pos hrest]
  rfl

theorem trimEnd_of_blank {text : List Char} (h : ∀ c ∈ text, isBlank c = true) :
    trimEnd text = [] :=
  trimEnd_append_of_blank h []

theorem trimEnd_append_cons {c : Char} (hc : isBlank c = false) (text : List Char)
    {rest : List Char} (h : ∀ x ∈ rest, isBlank x = true) :
    trimEnd (text ++ c :: rest) = text ++ [c] := by
  rw [List.append_cons, trimEnd_append_of_blank h, trimEnd_append_solid hc]

/-- What is in front of something that is not blank stays. -/
theorem trimEnd_append {second : List Char} (h : ∃ c ∈ second, isBlank c = false)
    (first : List Char) : trimEnd (first ++ second) = first ++ trimEnd second := by
  obtain ⟨init, c, rest, rfl, hc, hrest⟩ := exists_last_solid h
  rw [← List.append_assoc, trimEnd_append_cons hc _ hrest, trimEnd_append_cons hc _ hrest,
    List.append_assoc]

theorem trim_append_of_blank {blank : List Char} (h : ∀ c ∈ blank, isBlank c = true)
    (text : List Char) : trim (blank ++ text) = trim text := by
  rw [trim, trimStart, List.dropWhile_append_of_pos h]
  rfl

theorem trim_append_newline {init next : List Char} (hinit : ∃ c ∈ init, isBlank c = false)
    (hnext : ∃ c ∈ next, isBlank c = false) :
    trim (init ++ '\n' :: next) = trimStart init ++ '\n' :: trimEnd next := by
  rw [trim, trimStart_append hinit, List.append_cons, trimEnd_append hnext, ← List.append_cons]

theorem words_cons_blank {c : Char} (hc : isBlank c = true) (text : List Char) :
    words (c :: text) = words text :=
  words_append_blank hc [] text

theorem words_of_blank {text : List Char} (h : ∀ c ∈ text, isBlank c = true) :
    words text = [] := by
  induction text with
  | nil => rfl
  | cons c text ih =>
    rw [List.forall_mem_cons] at h
    rw [words_cons_blank h.1, ih h.2]

theorem exists_solid_of_words {text : List Char} (h : words text ≠ []) :
    ∃ c ∈ text, isBlank c = false :=
  (blank_or_exists_solid text).resolve_left fun hblank ↦ h (words_of_blank hblank)

theorem words_trimStart (text : List Char) : words (trimStart text) = words text := by
  induction text with
  | nil => rfl
  | cons c text ih =>
    cases hc : isBlank c with
    | true => rw [words_cons_blank hc, ← ih, trimStart, List.dropWhile_cons_of_pos hc, trimStart]
    | false => rw [trimStart, List.dropWhile_cons_of_neg (by simp [hc])]

theorem words_append_of_blank {rest : List Char} (h : ∀ c ∈ rest, isBlank c = true)
    (text : List Char) : words (text ++ rest) = words text := by
  cases rest with
  | nil => rw [List.append_nil]
  | cons c rest =>
    rw [List.forall_mem_cons] at h
    rw [words_append_blank h.1, words_of_blank h.2, List.append_nil]

theorem words_trimEnd (text : List Char) : words (trimEnd text) = words text := by
  rcases blank_or_exists_solid text with hblank | hsolid
  · rw [trimEnd_of_blank hblank, words_of_blank hblank]
    rfl
  · obtain ⟨init, c, rest, rfl, hc, hrest⟩ := exists_last_solid hsolid
    have hsplit : init ++ c :: rest = (init ++ [c]) ++ rest := List.append_cons ..
    rw [trimEnd_append_cons hc init hrest, hsplit, words_append_of_blank hrest]

theorem words_trim (text : List Char) : words (trim text) = words text := by
  rw [trim, words_trimEnd, words_trimStart]

end Shading.Text
