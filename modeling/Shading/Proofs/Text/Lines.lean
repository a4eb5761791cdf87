import Mathlib.Data.List.DropRight
import Shading.Text.Basic

/-!
# Lines and blanks in longer texts

The lines of a text that is put together are those of its parts, if the first part ends with a line
feed. Otherwise its last line, which has no end yet, runs on into the first line of the next part.
-/

namespace Shading.Text

theorem trim_cons_blank {c : Char} (hc : isBlank c = true) (text : List Char) :
    trim (c :: text) = trim text := by
  rw [trim, trimStart, List.dropWhile_cons_of_pos hc]
  rfl

theorem trimEnd_append_blank {c : Char} (hc : isBlank c = true) (text : List Char) :
    trimEnd (text ++ [c]) = trimEnd text := by
  rw [trimEnd, List.reverse_append, List.reverse_singleton, List.singleton_append,
    List.dropWhile_cons_of_pos hc]
  rfl

theorem trimStart_append {text : List Char} (h : ∃ c ∈ text, isBlank c = false)
    (other : List Char) : trimStart (text ++ other) = trimStart text ++ other := by
  have hne : text.dropWhile isBlank ≠ [] := by
    rw [Ne, List.dropWhile_eq_nil_iff]
    intro hall
    obtain ⟨c, hc, hsolid⟩ := h
    rw [hall c hc] at hsolid
    cases hsolid
  rw [trimStart, List.dropWhile_append, if_neg (by simpa using hne)]
  rfl

theorem trimEnd_append_solid {c : Char} (hc : isBlank c = false) (text : List Char) :
    trimEnd (text ++ [c]) = text ++ [c] := by
  rw [trimEnd, List.reverse_append, List.reverse_singleton, List.singleton_append,
    List.dropWhile_cons_of_neg (by simp [hc]), List.reverse_cons, List.reverse_reverse]

theorem trim_append_blank {c : Char} (hc : isBlank c = true) (text : List Char) :
    trim (text ++ [c]) = trim text := by
  by_cases hsolid : ∃ x ∈ text, isBlank x = false
  · rw [trim, trimStart_append hsolid, trimEnd_append_blank hc]
    rfl
  · have hall : ∀ x ∈ text, isBlank x = true := by
      intro x hx
      by_contra hnot
      exact hsolid ⟨x, hx, eq_false_of_ne_true hnot⟩
    have hboth : ∀ x ∈ text ++ [c], isBlank x = true := by
      intro x hx
      rcases List.mem_append.1 hx with hx | hx
      · exact hall x hx
      · rwa [List.mem_singleton.1 hx]
    rw [trim, trim, trimStart, trimStart, List.dropWhile_eq_nil_iff.2 hall,
      List.dropWhile_eq_nil_iff.2 hboth]

theorem words_append_blank {c : Char} (hc : isBlank c = true) (first second : List Char) :
    words (first ++ c :: second) = words first ++ words second := by
  rw [words, List.splitOnP_append_cons first second hc, List.filter_append]
  rfl

theorem dropReturn_concat (line : List Char) (c : Char) :
    dropReturn (line ++ [c]) = if c = '\r' then line else line ++ [c] := by
  simp [dropReturn]

theorem dropReturn_append {c : Char} (hc : c ≠ '\r') (first line : List Char) :
    dropReturn (first ++ c :: line) = first ++ c :: dropReturn line := by
  rcases List.eq_nil_or_concat line with rfl | ⟨init, d, rfl⟩
  · rw [dropReturn_concat, if_neg hc, dropReturn_nil]
  · have hassoc : first ++ c :: (init ++ [d]) = (first ++ c :: init) ++ [d] := by simp
    rw [List.concat_eq_append, hassoc, dropReturn_concat, dropReturn_concat]
    split <;> simp

theorem linesOfPieces_cons_of_ne_nil (piece : List Char) {rest : List (List Char)}
    (h : rest ≠ []) : linesOfPieces (piece :: rest) = dropReturn piece :: linesOfPieces rest := by
  cases rest with
  | nil => exact absurd rfl h
  | cons next rest => rfl

theorem linesOfPieces_append (pieces : List (List Char)) {rest : List (List Char)}
    (h : rest ≠ []) :
    linesOfPieces (pieces ++ rest) = pieces.map dropReturn ++ linesOfPieces rest := by
  induction pieces with
  | nil => rfl
  | cons piece pieces ih =>
    rw [List.cons_append, linesOfPieces_cons_of_ne_nil _ (by simp [h]), ih]
    rfl

theorem lines_append_newline (first second : List Char) :
    lines (first ++ '\n' :: second) = (first.splitOn '\n').map dropReturn ++ lines second := by
  rw [lines, List.splitOn_append_cons_self, linesOfPieces_append _ (List.splitOn_ne_nil _ _)]
  rfl

theorem lines_cons {line : List Char} (h : '\n' ∉ line) (rest : List Char) :
    lines (line ++ '\n' :: rest) = dropReturn line :: lines rest := by
  rw [lines_append_newline, List.splitOn_eq_singleton h]
  rfl

/-- Lines that ended stay as they are, whatever follows. -/
theorem lines_append {first : List Char} (h : first = [] ∨ first.getLast? = some '\n')
    (second : List Char) : lines (first ++ second) = lines first ++ lines second := by
  rcases h with rfl | h
  · rfl
  · obtain ⟨init, rfl⟩ := List.getLast?_eq_some_iff.1 h
    have hfirst := lines_append_newline init []
    rw [lines_nil, List.append_nil] at hfirst
    rw [List.append_assoc, List.singleton_append, lines_append_newline, hfirst]

theorem splitOn_append_of_not_mem {c : Char} {line : List Char} (h : c ∉ line)
    (text : List Char) : (line ++ text).splitOn c = (text.splitOn c).modifyHead (line ++ ·) := by
  induction line with
  | nil =>
    obtain ⟨piece, rest, hsplit⟩ := List.exists_cons_of_ne_nil (List.splitOn_ne_nil c text)
    rw [List.nil_append, hsplit]
    rfl
  | cons d line ih =>
    rw [List.mem_cons, not_or] at h
    have hd : (d == c) = false := beq_eq_false_iff_ne.2 (Ne.symm h.1)
    rw [List.cons_append, List.splitOn_cons_eq_if_modifyHead, ih h.2]
    simp [hd, Function.comp_def]

/-- What stands behind the last occurrence of a character, if there is one. -/
theorem not_mem_or_exists_last (c : Char) (text : List Char) :
    c ∉ text ∨ ∃ first last, text = first ++ c :: last ∧ c ∉ last := by
  induction text with
  | nil => exact .inl List.not_mem_nil
  | cons d text ih =>
    rcases ih with habsent | ⟨first, last, rfl, hlast⟩
    · by_cases hd : d = c
      · exact .inr ⟨[], text, by rw [hd]; rfl, habsent⟩
      · exact .inl (by simp [Ne.symm hd, habsent])
    · exact .inr ⟨d :: first, last, rfl, hlast⟩

/-- A line that has not ended yet runs on into the first line of what follows. -/
theorem lines_append_of_not_mem {last : List Char} (hlast : '\n' ∉ last) {c : Char}
    (hfeed : c ≠ '\n') (hreturn : c ≠ '\r') (text : List Char) :
    lines (last ++ c :: text) =
      (last ++ c :: (lines text).headD []) :: (lines text).tail := by
  have hnot : '\n' ∉ last ++ [c] := by
    simp [hlast, Ne.symm hfeed]
  have hassoc : last ++ c :: text = (last ++ [c]) ++ text := by simp
  rw [lines, lines, hassoc, splitOn_append_of_not_mem hnot]
  obtain ⟨piece, rest, hsplit⟩ := List.exists_cons_of_ne_nil (List.splitOn_ne_nil '\n' text)
  rw [hsplit, List.modifyHead_cons]
  cases rest with
  | nil =>
    by_cases hpiece : piece = []
    · simp [linesOfPieces, hpiece]
    · simp [linesOfPieces, hpiece]
  | cons next rest =>
    have hrest : next :: rest ≠ [] := List.cons_ne_nil _ _
    rw [linesOfPieces_cons_of_ne_nil _ hrest, linesOfPieces_cons_of_ne_nil _ hrest,
      List.append_assoc, List.singleton_append, dropReturn_append hreturn]
    rfl

/-- Lines that are put together with line feeds, and one more behind the last of them. -/
theorem intercalate_append_newline {lines : List (List Char)} (h : lines ≠ []) :
    ['\n'].intercalate lines ++ ['\n'] = lines.flatMap (· ++ ['\n']) := by
  induction lines with
  | nil => exact absurd rfl h
  | cons line lines ih =>
    cases lines with
    | nil => simp
    | cons next lines =>
      rw [List.intercalate_cons_cons, List.append_assoc, ih (List.cons_ne_nil _ _)]
      rfl

theorem dropReturn_of_not_mem {line : List Char} (h : '\r' ∉ line) : dropReturn line = line :=
  if_neg fun hlast ↦ h (List.mem_of_getLast? hlast)

/-- What stands behind the last line feed. -/
def lastLine (text : List Char) : List Char :=
  text.rtakeWhile (· != '\n')

/-- The text up to the last line feed and with it. -/
def endedLines (text : List Char) : List Char :=
  text.rdropWhile (· != '\n')

theorem endedLines_append_lastLine (text : List Char) : endedLines text ++ lastLine text = text :=
  List.rdropWhile_append_rtakeWhile

theorem not_mem_lastLine (text : List Char) : '\n' ∉ lastLine text := by
  intro h
  simpa using List.mem_rtakeWhile_imp h

theorem endedLines_eq_nil_or (text : List Char) :
    endedLines text = [] ∨ (endedLines text).getLast? = some '\n' := by
  by_cases hempty : endedLines text = []
  · exact .inl hempty
  · have hlast := List.rdropWhile_last_not (· != '\n') text hempty
    rw [bne_iff_ne, not_not] at hlast
    right
    rw [List.getLast?_eq_some_getLast hempty]
    exact congrArg some hlast

theorem lastLine_append_of_not_mem {line : List Char} (h : '\n' ∉ line) (text : List Char) :
    lastLine (text ++ line) = lastLine text ++ line := by
  have hall : ∀ c ∈ line.reverse, (c != '\n') = true := by
    intro c hc
    rw [bne_iff_ne]
    rintro rfl
    exact h (List.mem_reverse.1 hc)
  calc lastLine (text ++ line)
      = ((line.reverse ++ text.reverse).takeWhile (· != '\n')).reverse := by
        rw [lastLine, List.rtakeWhile, List.reverse_append]
    _ = (line.reverse ++ text.reverse.takeWhile (· != '\n')).reverse := by
        rw [List.takeWhile_append_of_pos hall]
    _ = lastLine text ++ line := by
        rw [List.reverse_append, List.reverse_reverse, lastLine, List.rtakeWhile]

theorem lastLine_append_of_mem {line : List Char} (h : '\n' ∈ line) (text : List Char) :
    lastLine (text ++ line) = lastLine line := by
  have hstop : (line.reverse.takeWhile (· != '\n')).length ≠ line.reverse.length := by
    intro hlength
    have hall := List.takeWhile_eq_self_iff.1 (List.takeWhile_sublist _ |>.eq_of_length hlength)
    simpa using hall '\n' (List.mem_reverse.2 h)
  calc lastLine (text ++ line)
      = ((line.reverse ++ text.reverse).takeWhile (· != '\n')).reverse := by
        rw [lastLine, List.rtakeWhile, List.reverse_append]
    _ = lastLine line := by
        rw [List.takeWhile_append, if_neg hstop, lastLine, List.rtakeWhile]

end Shading.Text
