import Shading.Proofs.Text.Ends

/-!
# The words of a text

A word is a run of characters without a blank. A text has exactly two words if it is one word, at
least one blank and another word, whatever blanks there are around them.
-/

namespace Shading.Text

structure IsWord (word : List Char) : Prop where
  ne_nil : word ≠ []
  solid : ∀ c ∈ word, isBlank c = false

/-- Two words with blanks between them. -/
def IsPair (text first second : List Char) : Prop :=
  IsWord first ∧ IsWord second ∧ ∃ before between after,
    text = before ++ (first ++ (between ++ (second ++ after))) ∧ between ≠ [] ∧
      ∀ c ∈ before ++ between ++ after, isBlank c = true

theorem isWord_of_mem_words {word text : List Char} (h : word ∈ words text) : IsWord word :=
  ⟨ne_nil_of_mem_words h, fun _ hc ↦ isBlank_of_mem_words h hc⟩

theorem words_blank_append {blank : List Char} (h : ∀ c ∈ blank, isBlank c = true)
    (text : List Char) : words (blank ++ text) = words text := by
  induction blank with
  | nil => rfl
  | cons c blank ih =>
    rw [List.forall_mem_cons] at h
    rw [List.cons_append, words_cons_blank h.1, ih h.2]

/-- A word ends where a blank follows, or with the text. -/
theorem words_word_append {word after : List Char} (hword : IsWord word)
    (hafter : ∀ c, after.head? = some c → isBlank c = true) :
    words (word ++ after) = word :: words after := by
  have hsingle : words word = [word] := words_of_solid hword.ne_nil hword.solid
  cases after with
  | nil => rw [List.append_nil, hsingle, words_nil]
  | cons c after =>
    have hc : isBlank c = true := hafter c rfl
    rw [words_append_blank hc, hsingle, words_cons_blank hc, List.singleton_append]

theorem exists_run (text : List Char) :
    ∃ run after, text = run ++ after ∧ (∀ c ∈ run, isBlank c = false) ∧
      ∀ c, after.head? = some c → isBlank c = true := by
  induction text with
  | nil => exact ⟨[], [], rfl, by simp, by simp⟩
  | cons c text ih =>
    cases hc : isBlank c with
    | true => exact ⟨[], c :: text, rfl, by simp, by simp [hc]⟩
    | false =>
      obtain ⟨run, after, rfl, hrun, hafter⟩ := ih
      exact ⟨c :: run, after, rfl, List.forall_mem_cons.2 ⟨hc, hrun⟩, hafter⟩

/-- A character that is not blank begins a word. -/
theorem words_cons_solid {c : Char} (hc : isBlank c = false) (text : List Char) :
    ∃ run after, text = run ++ after ∧ (∀ x, after.head? = some x → isBlank x = true) ∧
      words (c :: text) = (c :: run) :: words after := by
  obtain ⟨run, after, rfl, hrun, hafter⟩ := exists_run text
  have hword : IsWord (c :: run) := ⟨List.cons_ne_nil _ _, List.forall_mem_cons.2 ⟨hc, hrun⟩⟩
  refine ⟨run, after, rfl, hafter, ?_⟩
  rw [← List.cons_append, words_word_append hword hafter]

theorem exists_first_word {text word : List Char} {others : List (List Char)}
    (h : words text = word :: others) :
    ∃ before after, text = before ++ (word ++ after) ∧ (∀ c ∈ before, isBlank c = true) ∧
      (∀ c, after.head? = some c → isBlank c = true) ∧ words after = others := by
  induction text with
  | nil => cases h
  | cons c text ih =>
    cases hc : isBlank c with
    | true =>
      rw [words_cons_blank hc] at h
      obtain ⟨before, after, rfl, hbefore, hafter, hothers⟩ := ih h
      exact ⟨c :: before, after, rfl, List.forall_mem_cons.2 ⟨hc, hbefore⟩, hafter, hothers⟩
    | false =>
      obtain ⟨run, after, rfl, hafter, hwords⟩ := words_cons_solid hc text
      rw [hwords] at h
      obtain ⟨rfl, hothers⟩ := List.cons.inj h
      exact ⟨[], after, rfl, by simp, hafter, hothers⟩

theorem blank_of_words_eq_nil {text : List Char} (h : words text = []) :
    ∀ c ∈ text, isBlank c = true := by
  induction text with
  | nil => simp
  | cons c text ih =>
    cases hc : isBlank c with
    | true =>
      rw [words_cons_blank hc] at h
      exact List.forall_mem_cons.2 ⟨hc, ih h⟩
    | false =>
      obtain ⟨run, after, -, -, hwords⟩ := words_cons_solid hc text
      rw [hwords] at h
      cases h

theorem words_eq_pair_iff {text first second : List Char} :
    words text = [first, second] ↔ IsPair text first second := by
  constructor
  · intro h
    have hfirst : IsWord first := isWord_of_mem_words (h ▸ List.mem_cons_self)
    have hsecond : IsWord second :=
      isWord_of_mem_words (h ▸ List.mem_cons_of_mem _ List.mem_cons_self)
    obtain ⟨before, rest, rfl, hbefore, hrest, hone⟩ := exists_first_word h
    obtain ⟨between, after, rfl, hbetween, -, hnone⟩ := exists_first_word hone
    refine ⟨hfirst, hsecond, before, between, after, rfl, ?_, ?_⟩
    · -- otherwise the second word would go on where the first one ends
      rintro rfl
      obtain ⟨c, tail, rfl⟩ := List.exists_cons_of_ne_nil hsecond.ne_nil
      have hc := hsecond.solid c List.mem_cons_self
      rw [hrest c rfl] at hc
      cases hc
    · simp only [List.mem_append]
      rintro c ((hc | hc) | hc)
      · exact hbefore c hc
      · exact hbetween c hc
      · exact blank_of_words_eq_nil hnone c hc
  · rintro ⟨hfirst, hsecond, before, between, after, rfl, hne, hblank⟩
    have hbefore : ∀ c ∈ before, isBlank c = true := fun c hc ↦ hblank c (by simp [hc])
    have hbetween : ∀ c ∈ between, isBlank c = true := fun c hc ↦ hblank c (by simp [hc])
    have hafter : ∀ c ∈ after, isBlank c = true := fun c hc ↦ hblank c (by simp [hc])
    obtain ⟨b, rest, rfl⟩ := List.exists_cons_of_ne_nil hne
    have hopen : ∀ c, (b :: rest ++ (second ++ after)).head? = some c → isBlank c = true := by
      rintro c ⟨⟩
      exact hbetween b List.mem_cons_self
    rw [words_blank_append hbefore, words_word_append hfirst hopen, words_blank_append hbetween,
      words_append_of_blank hafter, words_of_solid hsecond.ne_nil hsecond.solid]

end Shading.Text
