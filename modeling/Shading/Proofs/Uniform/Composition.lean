import Shading.Proofs.Uniform.Union

/-!
# Sources on lines of their own

Joined by a bare semicolon, two sources can hurt each other: the last line of the one and the first
line of the other become one line. With the semicolon on a line of its own no seam is unsound. A
comment or a directive ends with its line, an unfinished statement ends at the semicolon, and what
the seam puts behind the first source is blank. Reading the joined text is then the same as reading
one source after the other, the first error included.
-/

namespace Shading.Uniform

open Text

theorem head?_trimStart_append_blank {c : Char} (hc : isBlank c = true) (code : List Char) :
    (trimStart (code ++ [c])).head? = (trimStart code).head? := by
  rw [trimStart, trimStart, List.dropWhile_append]
  cases hkept : code.dropWhile isBlank with
  | nil => simp [hc]
  | cons d rest => simp

/-- A carriage return at the end of a line is part of its code, or of what is taken out of it. -/
theorem codeOfLine_append_return (line : List Char) :
    codeOfLine (line ++ ['\r']) = codeOfLine line ∨
      codeOfLine (line ++ ['\r']) = codeOfLine line ++ ['\r'] := by
  by_cases hcode : beforeComment line = line
  · have hreturn : beforeComment (line ++ ['\r']) = line ++ ['\r'] :=
      beforeComment_append_of_eq hcode (by decide) []
    have hsame : IsDirective (line ++ ['\r']) ↔ IsDirective line := by
      rw [IsDirective, IsDirective, hreturn, hcode, head?_trimStart_append_blank (by decide)]
    by_cases hdirective : IsDirective line
    · left
      rw [codeOfLine_of_directive hdirective, codeOfLine_of_directive (hsame.2 hdirective)]
    · right
      rw [codeOfLine_of_not_directive hdirective, hcode,
        codeOfLine_of_not_directive (mt hsame.1 hdirective), hreturn]
  · left
    simp only [codeOfLine, beforeComment_append_of_ne hcode]

theorem cut_append_codeOfLine_dropReturn (code line : List Char) :
    cut (code ++ codeOfLine (dropReturn line)) = cut (code ++ codeOfLine line) := by
  rcases List.eq_nil_or_concat line with rfl | ⟨init, c, rfl⟩
  · rfl
  · rw [List.concat_eq_append, dropReturn_concat]
    split
    · rename_i hc
      rw [hc]
      rcases codeOfLine_append_return init with h | h
      · rw [h]
      · rw [h, ← List.append_assoc, cut_append_blank (by decide)]
    · rfl

/-- The line feed that ends the last line declares nothing, nor does a carriage return before it. -/
theorem statements_append_newline (source : List Char) :
    statements (source ++ ['\n']) = statements source := by
  have hlines : lines (source ++ ['\n']) =
      lines (endedLines source) ++ [dropReturn (lastLine source)] := by
    conv_lhs => rw [← endedLines_append_lastLine source, List.append_assoc]
    rw [lines_append (endedLines_eq_nil_or source), lines_cons (not_mem_lastLine source),
      lines_nil]
  have hnothing : fed [] = [] := rfl
  rw [statements_eq_cut, hlines, fed_append, fed_cons, hnothing, ← List.append_assoc,
    cut_append_blank (by decide), cut_append_codeOfLine_dropReturn, ← statements_eq_cut_last]

theorem lines_append_line (first second : List Char) :
    lines (first ++ '\n' :: ';' :: '\n' :: second) =
      lines (first ++ ['\n']) ++ [';'] :: lines second := by
  have hline : '\n' ∉ [';'] := by decide
  have hsemicolon : lines (';' :: '\n' :: second) = [';'] :: lines second :=
    lines_cons hline second
  rw [lines_append_newline, lines_append_newline, lines_nil, List.append_nil, hsemicolon]

theorem statements_append_line (first second : List Char) :
    statements (first ++ '\n' :: ';' :: '\n' :: second) =
      statements first ++ statements second := by
  have hcode : codeOfLine [';'] = [';'] := by decide
  calc statements (first ++ '\n' :: ';' :: '\n' :: second)
      = cut (fed (lines (first ++ ['\n'])) ++ ';' :: '\n' :: fed (lines second)) := by
        rw [statements_eq_cut, lines_append_line, fed_append, fed_cons, hcode,
          List.singleton_append]
    _ = statements (first ++ ['\n']) ++ cut ('\n' :: fed (lines second)) := by
        rw [cut_append, ← statements_eq_cut]
    _ = statements first ++ statements second := by
        rw [statements_append_newline, cut_cons_blank (by decide), ← statements_eq_cut]

theorem toList_line (first second : String) :
    (first ++ "\n;\n" ++ second).toList = first.toList ++ '\n' :: ';' :: '\n' :: second.toList := by
  simp

/-- Reading a text that is joined at a line with nothing but a semicolon is reading its first part
and, if that succeeds, its second part into the table that the first part leaves. -/
theorem parseInto_append (first second : String) (table : Table) :
    parseInto (first ++ "\n;\n" ++ second) table =
      match parseInto first table with
      | (.ok (), table) => parseInto second table
      | (.error e, table) => (.error e, table) := by
  rw [parseInto, toList_line, statements_append_line, declareAll_append]
  rfl

theorem declared_intercalate_line (sources : List String) :
    declared (String.intercalate "\n;\n" sources).toList =
      sources.flatMap fun source ↦ declared source.toList := by
  induction sources with
  | nil => decide
  | cons first rest ih =>
    cases rest with
    | nil => simp [String.intercalate_singleton]
    | cons second rest =>
      rw [String.intercalate_cons_cons, toList_line, declared, statements_append_line,
        List.filter_append]
      exact congrArg (declared first.toList ++ ·) ih

/-- No condition on the sources is left when there is such a line between any two of them. -/
theorem parseInto_intercalate (sources : List String) (table : Table) :
    parseInto (String.intercalate "\n;\n" sources) table = parseEachInto sources table := by
  rw [parseInto_eq_declareAll, declared_intercalate_line, parseEachInto_eq_declareAll]

end Shading.Uniform
