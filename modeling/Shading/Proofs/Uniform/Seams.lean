import Shading.Proofs.Text.Lines
import Shading.Uniform.Source

/-!
# Seams

When two sources are joined by a semicolon, the last line of the first and the first line of the
second become one line, and comments and directives are taken out of that line as a whole. The
statements of both come out unchanged if the first source ends in code and the second does not
begin with a directive that has something to say as code.
-/

namespace Shading.Uniform

open Text

def cut (code : List Char) : List (List Char) :=
  (code.splitOn ';').map trim

/-- A semicolon cuts for good. -/
theorem cut_append (first second : List Char) :
    cut (first ++ ';' :: second) = cut first ++ cut second := by
  rw [cut, List.splitOn_append_cons_self, List.map_append]
  rfl

theorem cut_of_not_mem {code : List Char} (h : ';' ∉ code) : cut code = [trim code] := by
  rw [cut, List.splitOn_eq_singleton h]
  rfl

theorem ne_semicolon_of_isBlank {c : Char} (hc : isBlank c = true) : c ≠ ';' := by
  rintro rfl
  exact absurd hc (by decide)

/-- Blanks around a statement do not show. -/
theorem cut_cons_blank {c : Char} (hc : isBlank c = true) (code : List Char) :
    cut (c :: code) = cut code := by
  have hne : (c == ';') = false := beq_eq_false_iff_ne.2 (ne_semicolon_of_isBlank hc)
  obtain ⟨piece, rest, hsplit⟩ := List.exists_cons_of_ne_nil (List.splitOn_ne_nil ';' code)
  rw [cut, cut, List.splitOn_cons_eq_if_modifyHead, hne, hsplit]
  simp [trim_cons_blank hc]

theorem cut_append_of_blank {blank : List Char} (h : ∀ c ∈ blank, isBlank c = true)
    (code : List Char) : cut (blank ++ code) = cut code := by
  induction blank with
  | nil => rfl
  | cons c blank ih =>
    rw [List.forall_mem_cons] at h
    rw [List.cons_append, cut_cons_blank h.1, ih h.2]

theorem cut_append_blank {c : Char} (hc : isBlank c = true) (code : List Char) :
    cut (code ++ [c]) = cut code := by
  rcases not_mem_or_exists_last ';' code with h | ⟨first, last, rfl, h⟩
  · have hboth : ';' ∉ code ++ [c] := by
      simp [h, Ne.symm (ne_semicolon_of_isBlank hc)]
    rw [cut_of_not_mem h, cut_of_not_mem hboth, trim_append_blank hc]
  · have hboth : ';' ∉ last ++ [c] := by
      simp [h, Ne.symm (ne_semicolon_of_isBlank hc)]
    rw [List.append_assoc, List.cons_append, cut_append, cut_append, cut_of_not_mem h,
      cut_of_not_mem hboth, trim_append_blank hc]

/-- The code of every line, with a line feed behind each. -/
def fed (lines : List (List Char)) : List Char :=
  lines.flatMap fun line ↦ codeOfLine line ++ ['\n']

/-- Lines are joined with a line feed behind each. -/
theorem fed_append (first second : List (List Char)) :
    fed (first ++ second) = fed first ++ fed second :=
  List.flatMap_append

theorem fed_cons (line : List Char) (lines : List (List Char)) :
    fed (line :: lines) = codeOfLine line ++ '\n' :: fed lines := by
  simp [fed]

theorem fed_eq_intercalate {lines : List (List Char)} (h : lines ≠ []) :
    fed lines = ['\n'].intercalate (lines.map codeOfLine) ++ ['\n'] := by
  have hcode : lines.map codeOfLine ≠ [] := by simp [h]
  rw [intercalate_append_newline hcode, List.flatMap_map]
  rfl

/-- The line feed behind the last line belongs to no statement. -/
theorem statements_eq_cut (source : List Char) : statements source = cut (fed (lines source)) := by
  by_cases h : lines source = []
  · rw [statements, codeOf, h]
    rfl
  · rw [fed_eq_intercalate h, cut_append_blank (by decide)]
    rfl

/-- The statements of a source, its first line apart. -/
theorem statements_eq_cut_first (source : List Char) :
    statements source =
      cut (codeOfLine ((lines source).headD []) ++ '\n' :: fed (lines source).tail) := by
  rw [statements_eq_cut]
  cases h : lines source with
  | nil => decide
  | cons line rest =>
    rw [fed_cons]
    rfl

/-- A line without a comment goes on behind its end. -/
theorem beforeComment_append_of_eq {line : List Char} (h : beforeComment line = line) {c : Char}
    (hc : c ≠ '/') (text : List Char) :
    beforeComment (line ++ c :: text) = line ++ c :: beforeComment text := by
  fun_induction beforeComment line with
  | case1 => simp [beforeComment, hc]
  | case2 => cases h
  | case3 b rest hslash ih =>
    rw [List.cons.injEq] at h
    have hkeep : ∀ other, b = '/' → rest ++ c :: text = '/' :: other → False := by
      intro other hb hrest
      cases rest with
      | nil => simp [hc] at hrest
      | cons d rest =>
        rw [List.cons_append, List.cons.injEq] at hrest
        exact hslash rest hb (by rw [hrest.1])
    rw [List.cons_append, beforeComment, ih h.2]
    · rfl
    · exact hkeep

/-- A comment takes all that stands behind it. -/
theorem beforeComment_append_of_ne {line : List Char} (h : beforeComment line ≠ line)
    (text : List Char) : beforeComment (line ++ text) = beforeComment line := by
  fun_induction beforeComment line with
  | case1 => exact absurd rfl h
  | case2 => rfl
  | case3 c rest hslash ih =>
    have hrest : beforeComment rest ≠ rest := by
      intro heq
      exact h (by rw [heq])
    have hkeep : ∀ other, c = '/' → rest ++ text = '/' :: other → False := by
      intro other hc hcomment
      cases rest with
      | nil => exact hrest rfl
      | cons d rest =>
        rw [List.cons_append, List.cons.injEq] at hcomment
        exact hslash rest hc (by rw [hcomment.1])
    rw [List.cons_append, beforeComment, ih hrest]
    exact hkeep

/-- The first character of the code that is no blank marks a directive. -/
def IsDirective (line : List Char) : Prop :=
  (trimStart (beforeComment line)).head? = some '#'

instance (line : List Char) : Decidable (IsDirective line) :=
  inferInstanceAs (Decidable (_ = _))

theorem codeOfLine_of_directive {line : List Char} (h : IsDirective line) :
    codeOfLine line = [] :=
  if_pos h

theorem codeOfLine_of_not_directive {line : List Char} (h : ¬IsDirective line) :
    codeOfLine line = beforeComment line :=
  if_neg h

/-- A line is code as it stands just if it has no comment and is no directive. -/
theorem codeOfLine_eq_self_iff {line : List Char} :
    codeOfLine line = line ↔ beforeComment line = line ∧ ¬IsDirective line := by
  by_cases hdirective : IsDirective line
  · rw [codeOfLine_of_directive hdirective]
    refine ⟨?_, fun h ↦ absurd hdirective h.2⟩
    rintro rfl
    cases hdirective
  · rw [codeOfLine_of_not_directive hdirective]
    exact ⟨fun h ↦ ⟨h, hdirective⟩, fun h ↦ h.1⟩

/-- A semicolon in the middle of a line cannot make it a directive. -/
theorem head?_trimStart_append (line text : List Char) :
    (trimStart (line ++ ';' :: text)).head? = some '#' ↔ (trimStart line).head? = some '#' := by
  rw [trimStart, trimStart, List.dropWhile_append]
  cases hkept : line.dropWhile isBlank with
  | nil =>
    have hsemicolon : isBlank ';' = false := by decide
    simp [hsemicolon]
  | cons c rest => simp

/-- A line that is code as a whole stays code when something is joined to it. -/
theorem codeOfLine_append_of_eq {line : List Char} (h : codeOfLine line = line)
    (text : List Char) :
    codeOfLine (line ++ ';' :: text) = line ++ ';' :: beforeComment text := by
  obtain ⟨hcode, hdirective⟩ := codeOfLine_eq_self_iff.1 h
  have hjoined : ¬IsDirective (line ++ ';' :: text) := by
    rwa [IsDirective, beforeComment_append_of_eq hcode (by decide), head?_trimStart_append, ← hcode]
  rw [codeOfLine_of_not_directive hjoined, beforeComment_append_of_eq hcode (by decide)]

/-- A line with a comment or a directive swallows what is joined to it. -/
theorem codeOfLine_append_of_ne {line : List Char} (h : codeOfLine line ≠ line)
    (text : List Char) : codeOfLine (line ++ ';' :: text) = codeOfLine line := by
  by_cases hcode : beforeComment line = line
  · have hdirective : IsDirective line := by
      by_contra hnot
      exact h (codeOfLine_eq_self_iff.2 ⟨hcode, hnot⟩)
    have hjoined : IsDirective (line ++ ';' :: text) := by
      rwa [IsDirective, beforeComment_append_of_eq hcode (by decide), head?_trimStart_append,
        ← hcode]
    rw [codeOfLine_of_directive hdirective, codeOfLine_of_directive hjoined]
  · simp only [codeOfLine, beforeComment_append_of_ne hcode]

/-- The source ends in code: nothing in its last line is taken out. -/
def EndsInCode (source : List Char) : Prop :=
  codeOfLine (lastLine source) = lastLine source

instance (source : List Char) : Decidable (EndsInCode source) :=
  inferInstanceAs (Decidable (_ = _))

/-- The statement begins with the keyword and a blank. -/
def declares (statement : List Char) : Bool :=
  (afterKeyword statement).isSome

/-- A line that may follow a semicolon. A directive may do so only if its code completes no
declaration and leaves nothing but blanks behind its last semicolon. -/
def Harmless (line : List Char) : Prop :=
  ¬IsDirective line ∨ ∃ done rest, beforeComment line = done ++ ';' :: rest ∧
    (∀ c ∈ rest, isBlank c = true) ∧ ∀ statement ∈ cut done, declares statement = false

/-- The first line does no harm behind other code. -/
def OpensHarmlessly (source : List Char) : Prop :=
  Harmless ((lines source).headD [])

/-- A semicolon joins the last line of one source to the first of the other. -/
theorem lines_join (first second : List Char) :
    lines (first ++ ';' :: second) =
      lines (endedLines first) ++
        (lastLine first ++ ';' :: (lines second).headD []) :: (lines second).tail := by
  conv_lhs => rw [← endedLines_append_lastLine first, List.append_assoc]
  rw [lines_append (endedLines_eq_nil_or first),
    lines_append_of_not_mem (not_mem_lastLine first) (by decide) (by decide)]

theorem statements_eq_cut_last {source : List Char} :
    statements source =
      cut (fed (lines (endedLines source)) ++ codeOfLine (lastLine source)) := by
  have hlines : lines source = lines (endedLines source) ++ lines (lastLine source) := by
    conv_lhs => rw [← endedLines_append_lastLine source]
    exact lines_append (endedLines_eq_nil_or source) _
  rw [statements_eq_cut, hlines, fed_append]
  by_cases hlast : lastLine source = []
  · rw [hlast]
    rfl
  · have hsingle : lines (lastLine source) = [lastLine source] := by
      rw [lines, List.splitOn_eq_singleton (not_mem_lastLine source), linesOfPieces, if_neg hlast]
    have hnothing : fed [] = [] := rfl
    rw [hsingle, fed_cons, hnothing, ← List.append_assoc, cut_append_blank (by decide)]

/-- What is declared in a source, statement by statement. -/
def declared (source : List Char) : List (List Char) :=
  (statements source).filter declares

/-- A first line that follows code is read as code, even if it is a directive. -/
theorem statements_join {first : List Char} (hends : EndsInCode first) (second : List Char) :
    statements (first ++ ';' :: second) = statements first ++
      cut (beforeComment ((lines second).headD []) ++ '\n' :: fed (lines second).tail) := by
  calc statements (first ++ ';' :: second)
      = cut (fed (lines (endedLines first)) ++
          ((lastLine first ++ ';' :: beforeComment ((lines second).headD [])) ++
            '\n' :: fed (lines second).tail)) := by
        rw [statements_eq_cut, lines_join, fed_append, fed_cons, codeOfLine_append_of_eq hends]
    _ = cut (fed (lines (endedLines first)) ++ lastLine first ++
          ';' :: (beforeComment ((lines second).headD []) ++ '\n' :: fed (lines second).tail)) := by
        rw [List.append_assoc, List.cons_append, ← List.append_assoc]
    _ = cut (fed (lines (endedLines first)) ++ lastLine first) ++
          cut (beforeComment ((lines second).headD []) ++ '\n' :: fed (lines second).tail) :=
        cut_append ..
    _ = statements first ++
          cut (beforeComment ((lines second).headD []) ++ '\n' :: fed (lines second).tail) := by
        rw [statements_eq_cut_last, hends]

/-- What is declared across a seam is what is declared on either side of it. -/
theorem declared_join {first second : List Char} (hends : EndsInCode first)
    (hopens : OpensHarmlessly second) :
    declared (first ++ ';' :: second) = declared first ++ declared second := by
  rw [declared, statements_join hends, List.filter_append, declared, declared,
    statements_eq_cut_first second]
  congr 1
  rcases hopens with hplain | ⟨done, rest, hcode, hblank, hdone⟩
  · rw [codeOfLine_of_not_directive hplain]
  · by_cases hdirective : IsDirective ((lines second).headD [])
    · have hnone : (cut done).filter declares = [] := by
        rw [List.filter_eq_nil_iff]
        intro statement hmem
        rw [hdone statement hmem]
        exact Bool.false_ne_true
      rw [codeOfLine_of_directive hdirective, hcode, List.append_assoc, List.cons_append,
        cut_append, cut_append_of_blank hblank, List.filter_append, hnone]
      rfl
    · rw [codeOfLine_of_not_directive hdirective]

/-- A last line that is not all code hides what is joined to it on that line. -/
theorem statements_join_of_not_endsInCode {first : List Char} (h : ¬EndsInCode first)
    (second : List Char) :
    statements (first ++ ';' :: second) =
      cut (fed (lines (endedLines first)) ++ codeOfLine (lastLine first) ++
        '\n' :: fed (lines second).tail) := by
  rw [statements_eq_cut, lines_join, fed_append, fed_cons, codeOfLine_append_of_ne h,
    List.append_assoc]

/-- The end of joined sources is the end of the second. -/
theorem EndsInCode.join {first second : List Char} (hfirst : EndsInCode first)
    (hsecond : EndsInCode second) : EndsInCode (first ++ ';' :: second) := by
  unfold EndsInCode at *
  by_cases hnewline : '\n' ∈ second
  · have hmem : '\n' ∈ ';' :: second := List.mem_cons_of_mem _ hnewline
    have hlast : lastLine (';' :: second) = lastLine second :=
      lastLine_append_of_mem hnewline [';']
    rwa [lastLine_append_of_mem hmem, hlast]
  · have hnot : '\n' ∉ ';' :: second := by simp [hnewline]
    have hlast : lastLine second = second := lastLine_append_of_not_mem hnewline []
    rw [hlast] at hsecond
    rw [lastLine_append_of_not_mem hnot, codeOfLine_append_of_eq hfirst,
      (codeOfLine_eq_self_iff.1 hsecond).1]

end Shading.Uniform
