import Shading.Proofs.Uniform.Composition
import Shading.Proofs.Uniform.Entries
import Shading.Proofs.Uniform.Wording

/-!
# Comments, endings and directives

A comment is put behind a line and may say anything; a line may end in either way; a directive may
stand between any two lines, even in the middle of a statement. The comments and the endings do not
show in what is read, not even in the text of a fault. A directive leaves an empty line behind it,
so that only blanks are added to a statement.
-/

namespace Shading.Uniform

open Text

/-- A line without its ending. If a slash ended it, that would begin the comment behind it. -/
structure Line where
  text : String
  feedless : '\n' ∉ text.toList
  returnless : '\r' ∉ text.toList
  slashless : text.toList.getLast? ≠ some '/'

/-- What stands behind the slashes. -/
structure Comment where
  text : String
  feedless : '\n' ∉ text.toList

inductive Ending
  | feed
  | returnFeed

def Ending.text : Ending → String
  | feed => "\n"
  | returnFeed => "\r\n"

structure DecoratedLine where
  line : Line
  comment : Option Comment
  ending : Ending

/-- A preprocessor line; the mark stands between the two texts. -/
structure Directive where
  indent : String
  text : String
  blank : ∀ c ∈ indent.toList, isBlank c = true
  feedless : '\n' ∉ indent.toList ∧ '\n' ∉ text.toList
  ending : Ending

inductive Piece
  | line (line : DecoratedLine)
  | directive (directive : Directive)

def Comment.shown : Option Comment → String
  | some comment => "//" ++ comment.text
  | none => ""

def DecoratedLine.body (l : DecoratedLine) : String :=
  l.line.text ++ Comment.shown l.comment

def DecoratedLine.shown (l : DecoratedLine) : String :=
  l.body ++ l.ending.text

def Directive.body (d : Directive) : String :=
  d.indent ++ "#" ++ d.text

namespace Piece

def shown : Piece → String
  | line l => l.shown
  | directive d => d.body ++ d.ending.text

def code : Piece → List Char
  | line l => codeOfLine l.line.text.toList
  | directive _ => []

/-- The lines that are no directives. -/
def lines (pieces : List Piece) : List DecoratedLine :=
  pieces.filterMap fun
    | line l => some l
    | directive _ => none

end Piece

/-- A comment begins right behind a line that does not end with a slash, or inside of it. -/
theorem beforeComment_append_comment {line : List Char} (h : line.getLast? ≠ some '/')
    (comment : List Char) :
    beforeComment (line ++ '/' :: '/' :: comment) = beforeComment line := by
  by_cases hcode : beforeComment line = line
  · rcases List.eq_nil_or_concat line with rfl | ⟨init, c, rfl⟩
    · rfl
    · rw [List.concat_eq_append] at h hcode ⊢
      have hc : c ≠ '/' := by
        rintro rfl
        exact h List.getLast?_concat
      have hinit : beforeComment init = init := by
        have hplain := uncommented_beforeComment (init ++ [c])
        rw [hcode] at hplain
        exact beforeComment_eq_self (hplain.of_isInfix (List.prefix_append init [c]).isInfix)
      rw [hcode, List.append_assoc, List.singleton_append,
        beforeComment_append_of_eq hinit hc]
      rfl
  · exact beforeComment_append_of_ne hcode _

theorem codeOfLine_append_comment {line : List Char} (h : line.getLast? ≠ some '/')
    (comment : List Char) : codeOfLine (line ++ '/' :: '/' :: comment) = codeOfLine line := by
  simp only [codeOfLine, beforeComment_append_comment h]

theorem codeOfLine_directive {indent : List Char} (h : ∀ c ∈ indent, isBlank c = true)
    (text : List Char) : codeOfLine (indent ++ '#' :: text) = [] := by
  have hslash : '/' ∉ indent := fun hmem ↦ absurd (h '/' hmem) (by decide)
  have hindent : beforeComment indent = indent :=
    beforeComment_eq_self (uncommented_of_not_mem hslash)
  apply codeOfLine_of_directive
  rw [IsDirective, beforeComment_append_of_eq hindent (by decide), trimStart,
    List.dropWhile_append_of_pos h]
  rfl

theorem DecoratedLine.codeOfLine_body (l : DecoratedLine) :
    codeOfLine l.body.toList = codeOfLine l.line.text.toList ∧
      codeOfLine (dropReturn l.body.toList) = codeOfLine l.line.text.toList := by
  cases hcomment : l.comment with
  | none =>
    have hbody : l.body = l.line.text := by
      rw [body, hcomment, Comment.shown, String.append_empty]
    rw [hbody, dropReturn_of_not_mem l.line.returnless]
    exact ⟨rfl, rfl⟩
  | some comment =>
    have hbody : l.body.toList = l.line.text.toList ++ '/' :: '/' :: comment.text.toList := by
      simp [body, hcomment, Comment.shown]
    have hdrop : dropReturn l.body.toList =
        l.line.text.toList ++ '/' :: '/' :: dropReturn comment.text.toList := by
      rw [hbody, List.append_cons, dropReturn_append (by decide), ← List.append_cons]
    rw [hdrop, hbody]
    exact ⟨codeOfLine_append_comment l.line.slashless _,
      codeOfLine_append_comment l.line.slashless _⟩

theorem Directive.codeOfLine_body (d : Directive) :
    codeOfLine d.body.toList = [] ∧ codeOfLine (dropReturn d.body.toList) = [] := by
  have hbody : d.body.toList = d.indent.toList ++ '#' :: d.text.toList := by
    simp [body]
  rw [hbody, dropReturn_append (by decide)]
  exact ⟨codeOfLine_directive d.blank _, codeOfLine_directive d.blank _⟩

/-- A return is a part of the ending, or it is the last character of the line. -/
theorem lines_append_ending {body code : List Char} (h : '\n' ∉ body)
    (hcode : codeOfLine body = code ∧ codeOfLine (dropReturn body) = code) (ending : Ending)
    (rest : List Char) :
    ∃ line, codeOfLine line = code ∧
      Text.lines (body ++ (ending.text.toList ++ rest)) = line :: Text.lines rest := by
  cases ending with
  | feed => exact ⟨dropReturn body, hcode.2, lines_cons h rest⟩
  | returnFeed =>
    have hreturn : '\n' ∉ body ++ ['\r'] := by simp [h]
    have hlines := lines_cons hreturn rest
    rw [dropReturn_append_return, List.append_assoc] at hlines
    exact ⟨body, hcode.1, hlines⟩

theorem DecoratedLine.feedless_body (l : DecoratedLine) : '\n' ∉ l.body.toList := by
  have hline := l.line.feedless
  cases hcomment : l.comment with
  | none => simp [body, hcomment, Comment.shown, hline]
  | some comment => simp [body, hcomment, Comment.shown, hline, comment.feedless]

theorem Directive.feedless_body (d : Directive) : '\n' ∉ d.body.toList := by
  simp [body, d.feedless]

theorem Piece.lines_shown (p : Piece) (rest : List Char) :
    ∃ line, codeOfLine line = p.code ∧
      Text.lines (p.shown.toList ++ rest) = line :: Text.lines rest := by
  cases p with
  | line l =>
    rw [shown, DecoratedLine.shown, String.toList_append, List.append_assoc]
    exact lines_append_ending l.feedless_body l.codeOfLine_body l.ending rest
  | directive d =>
    rw [shown, String.toList_append, List.append_assoc]
    exact lines_append_ending d.feedless_body d.codeOfLine_body d.ending rest

/-- The code of the pieces, with a line feed behind each. -/
def Piece.fed (pieces : List Piece) : List Char :=
  pieces.flatMap fun p ↦ p.code ++ ['\n']

theorem Piece.fed_cons (p : Piece) (pieces : List Piece) :
    Piece.fed (p :: pieces) = p.code ++ '\n' :: Piece.fed pieces := by
  rw [Piece.fed, List.flatMap_cons, ← List.append_cons]
  rfl

theorem statements_join_shown (pieces : List Piece) :
    statements (String.join (pieces.map Piece.shown)).toList = cut (Piece.fed pieces) := by
  rw [statements_eq_cut]
  congr 1
  induction pieces with
  | nil => rfl
  | cons p pieces ih =>
    obtain ⟨line, hline, hlines⟩ := p.lines_shown (String.join (pieces.map Piece.shown)).toList
    rw [List.map_cons, String.join_cons, String.toList_append, hlines, fed_cons, hline, ih,
      Piece.fed_cons]

theorem statements_append_feed (source : String) :
    statements (source ++ "\n").toList = statements source.toList := by
  rw [String.toList_append]
  exact statements_append_newline source.toList

theorem toList_intercalate_feed {lines : List String} (h : lines ≠ []) :
    (String.intercalate "\n" lines).toList ++ ['\n'] =
      (String.join (lines.map (· ++ "\n"))).toList := by
  have hlists : lines.map String.toList ≠ [] := by simp [h]
  rw [String.toList_intercalate, String.toList_join, List.flatMap_map]
  simp only [String.toList_append]
  exact (intercalate_append_newline hlists).trans (List.flatMap_map ..)

/-- A line decorated least: nothing stands between it and its line feed. -/
def Line.plain (line : Line) : Piece :=
  .line ⟨line, none, .feed⟩

theorem Line.shown_plain (line : Line) : line.plain.shown = line.text ++ "\n" := by
  simp [plain, Piece.shown, DecoratedLine.shown, DecoratedLine.body, Comment.shown, Ending.text]

/-- The bare lines are plain ones, and the last line feed may be missing. -/
theorem statements_intercalate (lines : List Line) :
    statements (String.intercalate "\n" (lines.map Line.text)).toList =
      cut (fed (lines.map fun line ↦ line.text.toList)) := by
  have hfed :
      Piece.fed (lines.map Line.plain) = fed (lines.map fun line ↦ line.text.toList) := by
    rw [Piece.fed, fed, List.flatMap_map, List.flatMap_map]
    rfl
  have hshown :
      (lines.map Line.plain).map Piece.shown = (lines.map Line.text).map (· ++ "\n") := by
    rw [List.map_map, List.map_map]
    exact List.map_congr_left fun line _ ↦ line.shown_plain
  rw [← hfed, ← statements_join_shown, hshown]
  by_cases hlines : lines.map Line.text = []
  · rw [hlines]
    rfl
  · rw [← toList_intercalate_feed hlines, statements_append_newline]

/-- A directive adds a blank to a statement that goes on behind it. -/
theorem Piece.phrases_fed (pieces : List Piece) :
    phrases (Piece.fed pieces) =
      phrases (Uniform.fed ((Piece.lines pieces).map fun l ↦ l.line.text.toList)) := by
  induction pieces with
  | nil => rfl
  | cons p pieces ih =>
    rw [Piece.fed_cons]
    cases p with
    | line l =>
      have hlines : Piece.lines (.line l :: pieces) = l :: Piece.lines pieces := rfl
      rw [hlines, List.map_cons, Uniform.fed_cons]
      exact phrases_append_congr (by decide) ih _
    | directive d => exact (phrases_cons_blank (by decide) _).trans ih

theorem parse_congr {source source' : String}
    (h : statements source.toList = statements source'.toList) : parse source = parse source' := by
  rw [parse, parse, parseInto, parseInto, h]

theorem parse_eq_ok_iff {source : String} {table : Table} :
    parse source = .ok table ↔ declareAll (statements source.toList) ∅ = (.ok (), table) := by
  rw [parse_eq_tableOf, tableOf_eq_ok_iff, declared, declareAll_filter]

/-- Comments and endings do not show, whichever lines have them: the result is that of the bare
lines, the text of a fault included. Directives between the lines or around them change neither
whether the text can be read nor the table. The line feed behind the last line may be missing. -/
theorem parse_decorated (lines : List DecoratedLine) (pieces : List Piece) (source : String) :
    parse (String.join (lines.map DecoratedLine.shown)) =
        parse (String.intercalate "\n" (lines.map fun l ↦ l.line.text)) ∧
      (∀ table, parse (String.join (pieces.map Piece.shown)) = .ok table ↔
        parse (String.intercalate "\n" ((Piece.lines pieces).map fun l ↦ l.line.text)) =
          .ok table) ∧
      parse (source ++ "\n") = parse source := by
  have hbare : ∀ lines : List DecoratedLine,
      statements (String.intercalate "\n" (lines.map fun l ↦ l.line.text)).toList =
        cut (fed (lines.map fun l ↦ l.line.text.toList)) := by
    intro lines
    have h := statements_intercalate (lines.map DecoratedLine.line)
    rwa [List.map_map, List.map_map] at h
  refine ⟨parse_congr ?_, fun table ↦ ?_, parse_congr (statements_append_feed source)⟩
  · have h := statements_join_shown (lines.map Piece.line)
    rw [List.map_map, Piece.fed, List.flatMap_map] at h
    rw [hbare, fed, List.flatMap_map]
    exact h
  · rw [parse_eq_ok_iff, parse_eq_ok_iff, statements_join_shown, hbare]
    exact declareAll_cut_congr (Piece.phrases_fed pieces) ∅ table

/-- Half of a declaration, with a comment behind it. -/
def pairLine : DecoratedLine where
  line := ⟨"uniform vec2 ", by decide, by decide, by decide⟩
  comment := some ⟨" a pair", by decide⟩
  ending := .returnFeed

/-- The other half. -/
def spotsLine : DecoratedLine where
  line := ⟨"spots[2];", by decide, by decide, by decide⟩
  comment := none
  ending := .feed

def condition : Directive where
  indent := "  "
  text := "if 1"
  blank := List.all_eq_true.1 (by decide)
  feedless := by decide
  ending := .returnFeed

theorem parse_decorated_spots :
    parse "uniform vec2 // a pair\r\nspots[2];\n" = parse "uniform vec2 \nspots[2];" ∧
      (∃ table, parse "uniform vec2 // a pair\r\n  #if 1\r\nspots[2];\n" = .ok table ∧
        table.toList = [("spots", ⟨.vector, .float, .two, 2⟩)]) ∧
      parse ("uniform int // counts\ncount;" ++ "\n") = parse "uniform int // counts\ncount;" := by
  obtain ⟨hlines, hpieces, hlast⟩ := parse_decorated [pairLine, spotsLine]
    [.line pairLine, .directive condition, .line spotsLine] "uniform int // counts\ncount;"
  have hread : (parse "uniform vec2 \nspots[2];").toOption.map (fun table ↦ table.toList) =
      some [("spots", ⟨.vector, .float, .two, 2⟩)] := by decide +kernel
  refine ⟨hlines, ?_, hlast⟩
  cases hbare : parse "uniform vec2 \nspots[2];" with
  | error e =>
    rw [hbare] at hread
    cases hread
  | ok table =>
    rw [hbare] at hread
    exact ⟨table, (hpieces table).2 hbare, Option.some.inj hread⟩

/-- A directive inside a statement that cannot be read shows in the text of the fault. -/
example :
    parse "uniform vec2\na b;" = .error (.malformed "uniform vec2\na b") ∧
      parse "uniform vec2\n#if 1\na b;" = .error (.malformed "uniform vec2\n\na b") := by
  decide +kernel

end Shading.Uniform
