import Mathlib.Data.List.Chain
import Shading.Proofs.Uniform.Seams
import Shading.Proofs.Uniform.Tables

/-!
# The declarations of several stages

Linking reads the declarations of all stages from one text, the sources joined by semicolons. This
is the same as reading the sources one by one into one table when every seam is sound: the source
before it ends in code, and the source behind it begins with no directive, or with one that is
harmless as code. Neither condition can be weakened. A source that does not end in code hides the
first line of the next source, and a directive that follows code is read as code.
-/

namespace Shading.Uniform

open Text

/-- The first error ends the reading; the table keeps what was read before. -/
def parseEachInto : List String → Table → Except DeclarationError Unit × Table
  | [], table => (.ok (), table)
  | source :: rest, table =>
    match parseInto source table with
    | (.ok (), table) => parseEachInto rest table
    | (.error e, table) => (.error e, table)

/-- The sources are read one by one into a table that is empty at first; the first error ends the
reading. -/
def parseEach (sources : List String) : Except DeclarationError Table :=
  match parseEachInto sources ∅ with
  | (.ok (), table) => .ok table
  | (.error e, _) => .error e

/-- A seam that neither source is hurt by. -/
def Seamless (first second : String) : Prop :=
  EndsInCode first.toList ∧ OpensHarmlessly second.toList

/-- The table of a reading that had no error. -/
def tableOf : Except DeclarationError Unit × Table → Except DeclarationError Table
  | (.ok (), table) => .ok table
  | (.error e, _) => .error e

theorem tableOf_eq_ok_iff {reading : Except DeclarationError Unit × Table} {table : Table} :
    tableOf reading = .ok table ↔ reading = (.ok (), table) := by
  obtain ⟨answer, read⟩ := reading
  cases answer <;> simp [tableOf]

theorem declare_of_not_declares {statement : List Char} (h : declares statement = false)
    (table : Table) : declare statement table = .ok table := by
  rw [declares, Option.isSome_eq_false_iff, Option.isNone_iff_eq_none] at h
  rw [declare, h]

/-- Statements that declare nothing can be left out. -/
theorem declareAll_filter (statements : List (List Char)) (table : Table) :
    declareAll (statements.filter declares) table = declareAll statements table := by
  induction statements generalizing table with
  | nil => rfl
  | cons statement rest ih =>
    cases hdeclares : declares statement with
    | true =>
      rw [List.filter_cons_of_pos hdeclares, declareAll, declareAll]
      cases declare statement table with
      | ok table => exact ih table
      | error e => rfl
    | false =>
      rw [List.filter_cons_of_neg (by simp [hdeclares]), declareAll,
        declare_of_not_declares hdeclares]
      exact ih table

theorem parse_eq_tableOf (source : String) :
    parse source = tableOf (declareAll (declared source.toList) ∅) := by
  rw [declared, declareAll_filter, parse, parseInto]
  cases declareAll (statements source.toList) ∅ with
  | mk answer table => cases answer <;> rfl

theorem parseEachInto_eq_declareAll (sources : List String) (table : Table) :
    parseEachInto sources table =
      declareAll (sources.flatMap fun source ↦ declared source.toList) table := by
  induction sources generalizing table with
  | nil => rfl
  | cons source rest ih =>
    rw [parseEachInto, List.flatMap_cons, declareAll_append, declared, declareAll_filter, parseInto]
    cases declareAll (statements source.toList) table with
    | mk answer table =>
      cases answer with
      | ok done => exact ih table
      | error e => rfl

theorem parseEach_eq_tableOf (sources : List String) :
    parseEach sources =
      tableOf (declareAll (sources.flatMap fun source ↦ declared source.toList) ∅) := by
  rw [parseEach, parseEachInto_eq_declareAll]
  cases declareAll (sources.flatMap fun source ↦ declared source.toList) ∅ with
  | mk answer table => cases answer <;> rfl

theorem toList_join (first second : String) :
    (first ++ ";" ++ second).toList = first.toList ++ ';' :: second.toList := by
  simp

/-- Joined at sound seams, the sources declare what each of them declares. -/
theorem declared_intercalate (first : String) {rest : List String}
    (h : (first :: rest).IsChain Seamless) :
    declared (String.intercalate ";" (first :: rest)).toList =
      (first :: rest).flatMap fun source ↦ declared source.toList := by
  induction rest generalizing first with
  | nil => simp [String.intercalate_singleton]
  | cons second rest ih =>
    obtain ⟨⟨hends, hopens⟩, hrest⟩ := List.isChain_cons_cons.1 h
    have hjoined : ((first ++ ";" ++ second) :: rest).IsChain Seamless := by
      apply hrest.imp_head
      rintro other ⟨hsecond, hother⟩
      refine ⟨?_, hother⟩
      rw [toList_join]
      exact hends.join hsecond
    calc declared (String.intercalate ";" (first :: second :: rest)).toList
        = declared (String.intercalate ";" ((first ++ ";" ++ second) :: rest)).toList := by
          rw [String.intercalate_cons_cons, ← String.intercalate_cons_append]
      _ = declared (first ++ ";" ++ second).toList ++
            rest.flatMap fun source ↦ declared source.toList := by
          rw [ih _ hjoined, List.flatMap_cons]
      _ = declared first.toList ++ declared second.toList ++
            rest.flatMap fun source ↦ declared source.toList := by
          rw [toList_join, declared_join hends hopens]
      _ = (first :: second :: rest).flatMap fun source ↦ declared source.toList := by
          rw [List.flatMap_cons, List.flatMap_cons, List.append_assoc]

/-- Sound seams are all it takes. -/
theorem parse_intercalate {sources : List String} (h : sources.IsChain Seamless) :
    parse (String.intercalate ";" sources) = parseEach sources := by
  rw [parse_eq_tableOf, parseEach_eq_tableOf]
  cases sources with
  | nil =>
    have hempty : declared "".toList = [] := by decide
    rw [String.intercalate_nil, hempty, List.flatMap_nil]
  | cons first rest => rw [declared_intercalate first h]

/-- A statement without a name is a fault, whatever was declared before. -/
theorem parseEach_malformed {first : String} {table : Table} (h : parse first = .ok table) :
    parseEach [first, "uniform x;"] = .error (.malformed "uniform x") := by
  rw [parse_eq_tableOf, tableOf_eq_ok_iff] at h
  have hsecond : declared "uniform x;".toList = ["uniform x".toList] := by decide
  rw [parseEach_eq_tableOf, List.flatMap_cons, declareAll_append, h, List.flatMap_cons, hsecond]
  rfl

/-- A source that ends in a comment or a directive hides a declaration of some next source. -/
theorem exists_hidden_of_not_endsInCode {first : String} {table : Table}
    (hparse : parse first = .ok table) (h : ¬EndsInCode first.toList) :
    ∃ second : String, OpensHarmlessly second.toList ∧
      parse (String.intercalate ";" [first, second]) ≠ parseEach [first, second] := by
  refine ⟨"uniform x;", .inl (by decide), ?_⟩
  have hhidden : statements (first.toList ++ ';' :: "uniform x;".toList) =
      statements first.toList := by
    have htail : fed (lines "uniform x;".toList).tail = [] := by decide
    rw [statements_join_of_not_endsInCode h, htail, cut_append_blank (by decide),
      statements_eq_cut_last]
  have hsame : parse (String.intercalate ";" [first, "uniform x;"]) = parse first := by
    rw [parse_eq_tableOf, parse_eq_tableOf, String.intercalate_cons_cons,
      String.intercalate_singleton, toList_join, declared, hhidden, declared]
  rw [hsame, hparse, parseEach_malformed hparse]
  intro heq
  cases heq

/-! ## A directive behind code -/

theorem eq_append_of_isPrefixOf? {before text rest : List Char}
    (h : before.isPrefixOf? text = some rest) : text = before ++ rest := by
  induction before generalizing text with
  | nil =>
    cases text <;> exact Option.some.inj h
  | cons c before ih =>
    cases text with
    | nil => cases h
    | cons d text =>
      rw [List.isPrefixOf?] at h
      split at h
      · rename_i hsame
        rw [eq_of_beq hsame, ih h, List.cons_append]
      · cases h

theorem eq_append_of_afterKeyword {statement rest : List Char}
    (h : afterKeyword statement = some rest) : statement = keyword ++ rest := by
  unfold afterKeyword at h
  split at h
  · rename_i c tail hprefix
    split at h
    · rw [← Option.some.inj h]
      exact eq_append_of_isPrefixOf? hprefix
    · cases h
  · cases h

/-- Code that has no end takes the next declaration for its own, and that is then none. -/
theorem declare_unfinished {code : List Char} (h : ∃ c ∈ code, isBlank c = false)
    (table : Table) :
    declare (trim (code ++ '\n' :: "uniform a b".toList)) table = .ok table ∨
      ∃ e, declare (trim (code ++ '\n' :: "uniform a b".toList)) table = .error e := by
  have htrim : trim (code ++ '\n' :: "uniform a b".toList) =
      trimStart code ++ '\n' :: "uniform a b".toList := by
    have hend : ∀ text : List Char, text ++ '\n' :: "uniform a b".toList =
        (text ++ '\n' :: "uniform a ".toList) ++ ['b'] := by
      intro text
      rw [List.append_assoc]
      rfl
    rw [trim, trimStart_append h, hend, trimEnd_append_solid (by decide)]
  generalize trim (code ++ '\n' :: "uniform a b".toList) = statement at htrim ⊢
  cases hkeyword : afterKeyword statement with
  | none =>
    rw [declare, hkeyword]
    exact .inl rfl
  | some rest =>
    -- the line feed is behind the keyword, and three words are behind the line feed
    have hrest : ∃ before, rest = before ++ '\n' :: "uniform a b".toList := by
      have hsplit := eq_append_of_afterKeyword hkeyword
      rw [htrim, List.append_eq_append_iff] at hsplit
      rcases hsplit with ⟨between, hkey, hfeed⟩ | ⟨between, hcode, hrest⟩
      · cases between with
        | nil => exact ⟨[], hfeed.symm⟩
        | cons d between =>
          have hd : d = '\n' := by
            rw [List.cons_append, List.cons.injEq] at hfeed
            exact hfeed.1.symm
          have hmem : '\n' ∈ keyword := by
            rw [hkey, hd]
            simp
          exact absurd hmem (by decide)
      · exact ⟨between, hrest⟩
    obtain ⟨before, rfl⟩ := hrest
    have hwords : words (before ++ '\n' :: "uniform a b".toList) =
        words before ++ ["uniform".toList, ['a'], ['b']] := by
      have hthree : words "uniform a b".toList = ["uniform".toList, ['a'], ['b']] := by decide
      rw [words_append_blank (by decide), hthree]
    have hfault : readDeclaration statement (before ++ '\n' :: "uniform a b".toList) =
        .error (.malformed (String.ofList statement)) := by
      rw [readDeclaration, hwords]
      rcases words before with _ | ⟨_, _ | ⟨_, _ | _⟩⟩ <;> rfl
    rw [declare, hkeyword]
    simp only [hfault]
    exact .inr ⟨_, rfl⟩

theorem ne_empty_of_getElem? {table : Table} {name : String} {d : Descriptor}
    (h : table[name]? = some d) : table ≠ ∅ := by
  rintro rfl
  rw [Table.getElem?_empty] at h
  cases h

/-- A statement that declares something leaves a table that is not empty, or a fault. -/
theorem ne_empty_of_declare {statement : List Char} {table table' : Table}
    (hsome : declares statement = true ∨ table ≠ ∅) (h : declare statement table = .ok table') :
    table' ≠ ∅ := by
  rcases declare_cases h with
    ⟨hkeyword, rfl⟩ | ⟨rest, name, d, -, -, ⟨hknown, rfl⟩ | ⟨-, rfl⟩⟩
  · rw [declares, hkeyword] at hsome
    exact hsome.resolve_left Bool.false_ne_true
  · exact ne_empty_of_getElem? hknown
  · have hinserted : (table.insert name d)[name]? = some d := by simp
    exact ne_empty_of_getElem? hinserted

/-- A reading that declares something leaves something in the table. -/
theorem ne_empty_of_declareAll {statements : List (List Char)} {table table' : Table}
    (hsome : (∃ statement ∈ statements, declares statement = true) ∨ table ≠ ∅)
    (h : declareAll statements table = (.ok (), table')) : table' ≠ ∅ := by
  induction statements generalizing table with
  | nil =>
    rw [declareAll_nil] at h
    rw [← (Prod.mk.inj h).2]
    exact hsome.resolve_left (by simp)
  | cons statement rest ih =>
    rw [declareAll] at h
    cases hdeclare : declare statement table with
    | error e =>
      rw [hdeclare] at h
      cases h
    | ok next =>
      rw [hdeclare] at h
      refine ih ?_ h
      rcases hsome with ⟨other, hmem, hother⟩ | hsome
      · rcases List.mem_cons.1 hmem with rfl | hmem
        · exact .inr (ne_empty_of_declare (.inl hother) hdeclare)
        · exact .inl ⟨other, hmem, hother⟩
      · exact .inr (ne_empty_of_declare (.inr hsome) hdeclare)

section Directive

variable {line : String} (hline : '\n' ∉ line.toList)

include hline

theorem lines_toList_line (rest : String) :
    lines (line ++ "\n" ++ rest).toList = dropReturn line.toList :: lines rest.toList := by
  have htext : (line ++ "\n" ++ rest).toList = line.toList ++ '\n' :: rest.toList := by simp
  rw [htext, lines_cons hline]

/-- Behind a source without code, the first line is read as code. -/
theorem parse_intercalate_line (rest : String) :
    parse (String.intercalate ";" ["", line ++ "\n" ++ rest]) =
      tableOf (declareAll (cut (beforeComment (dropReturn line.toList) ++
        '\n' :: fed (lines rest.toList))) ∅) := by
  have hnothing : statements "".toList = [[]] := by decide
  have hends : EndsInCode "".toList := by decide
  calc parse (String.intercalate ";" ["", line ++ "\n" ++ rest])
      = tableOf (declareAll
          (statements ("".toList ++ ';' :: (line ++ "\n" ++ rest).toList)) ∅) := by
        rw [parse_eq_tableOf, declared, declareAll_filter, String.intercalate_cons_cons,
          String.intercalate_singleton, toList_join]
    _ = tableOf (declareAll ([[]] ++ cut (beforeComment (dropReturn line.toList) ++
          '\n' :: fed (lines rest.toList))) ∅) := by
        rw [statements_join hends, hnothing, lines_toList_line hline, List.headD_cons,
          List.tail_cons]
    _ = tableOf (declareAll (cut (beforeComment (dropReturn line.toList) ++
          '\n' :: fed (lines rest.toList))) ∅) := rfl

/-- On its own, a source that begins with a directive is what stands behind it. -/
theorem parseEach_line (hdirective : IsDirective (dropReturn line.toList)) (rest : String) :
    parseEach ["", line ++ "\n" ++ rest] = parse rest := by
  have hnothing : declared "".toList = [] := by decide
  have hbehind : declared (line ++ "\n" ++ rest).toList = declared rest.toList := by
    calc declared (line ++ "\n" ++ rest).toList
        = (cut (codeOfLine (dropReturn line.toList) ++ '\n' :: fed (lines rest.toList))).filter
            declares := by
          rw [declared, statements_eq_cut_first, lines_toList_line hline, List.headD_cons,
            List.tail_cons]
      _ = (cut (fed (lines rest.toList))).filter declares := by
          rw [codeOfLine_of_directive hdirective, List.nil_append, cut_cons_blank (by decide)]
      _ = declared rest.toList := by
          rw [← statements_eq_cut, declared]
  calc parseEach ["", line ++ "\n" ++ rest]
      = tableOf (declareAll (declared "".toList ++ declared (line ++ "\n" ++ rest).toList) ∅) := by
        rw [parseEach_eq_tableOf, List.flatMap_cons, List.flatMap_cons, List.flatMap_nil,
          List.append_nil]
    _ = tableOf (declareAll (declared rest.toList) ∅) := by
        rw [hnothing, hbehind, List.nil_append]
    _ = parse rest := (parse_eq_tableOf rest).symm

omit hline in
/-- A directive that declares nothing as code and is not harmless leaves something unfinished. -/
theorem exists_unfinished {code : List Char} (h : ¬Harmless code)
    (hnone : ∀ done rest, beforeComment code = done ++ ';' :: rest →
      ∀ statement ∈ cut done, declares statement = false) :
    ∃ before last, before.filter declares = [] ∧ ';' ∉ last ∧ (∃ c ∈ last, isBlank c = false) ∧
      ∀ text, cut (beforeComment code ++ '\n' :: text) = before ++ cut (last ++ '\n' :: text) := by
  rcases not_mem_or_exists_last ';' (beforeComment code) with
    habsent | ⟨first, last, hcode, habsent⟩
  · have hhash : '#' ∈ beforeComment code := by
      have hdirective : IsDirective code := by
        by_contra hnot
        exact h (.inl hnot)
      exact (List.dropWhile_suffix _).subset (List.mem_of_mem_head? hdirective)
    exact ⟨[], _, rfl, habsent, ⟨'#', hhash, by decide⟩, fun _ ↦ rfl⟩
  · have hbefore := hnone first last hcode
    refine ⟨cut first, last, ?_, habsent, ?_, ?_⟩
    · rw [List.filter_eq_nil_iff]
      intro statement hmem
      rw [hbefore statement hmem]
      exact Bool.false_ne_true
    · by_contra hsolid
      refine h (.inr ⟨first, last, hcode, ?_, hbefore⟩)
      intro c hc
      by_contra hblank
      exact hsolid ⟨c, hc, eq_false_of_ne_true hblank⟩
    · intro text
      rw [hcode, List.append_assoc, List.cons_append, cut_append]

/-- A directive that is not harmless, behind code, hides or adds a declaration. -/
theorem exists_misread_of_not_harmless (h : ¬Harmless (dropReturn line.toList)) :
    ∃ rest : String, parse (String.intercalate ";" ["", line ++ "\n" ++ rest]) ≠
      parseEach ["", line ++ "\n" ++ rest] := by
  have hdirective : IsDirective (dropReturn line.toList) := by
    by_contra hnot
    exact h (.inl hnot)
  by_cases hadds : ∃ done rest, beforeComment (dropReturn line.toList) = done ++ ';' :: rest ∧
      ∃ statement ∈ cut done, declares statement = true
  · -- the directive as code completes a declaration, and nothing else is declared
    obtain ⟨done, rest, hcode, statement, hmem, hdeclares⟩ := hadds
    refine ⟨"", ?_⟩
    have hempty : parse "" = .ok ∅ := by decide +kernel
    rw [parse_intercalate_line hline, parseEach_line hline hdirective, hempty, hcode,
      List.append_assoc, List.cons_append, cut_append]
    intro heq
    rw [tableOf_eq_ok_iff] at heq
    exact ne_empty_of_declareAll (.inl ⟨statement, List.mem_append_left _ hmem, hdeclares⟩) heq rfl
  · -- what the directive leaves unfinished takes the next declaration away
    have hnone : ∀ done rest, beforeComment (dropReturn line.toList) = done ++ ';' :: rest →
        ∀ statement ∈ cut done, declares statement = false := by
      intro done rest hcode statement hmem
      by_contra hdeclares
      exact hadds ⟨done, rest, hcode, statement, hmem, eq_true_of_ne_false hdeclares⟩
    obtain ⟨before, last, hbefore, hlast, hsolid, hcut⟩ := exists_unfinished h hnone
    refine ⟨"uniform a b;", ?_⟩
    have hnext : fed (lines "uniform a b;".toList) = "uniform a b".toList ++ ';' :: ['\n'] := by
      decide
    have hpieces : cut (last ++ '\n' :: ("uniform a b".toList ++ ';' :: ['\n'])) =
        [trim (last ++ '\n' :: "uniform a b".toList), []] := by
      have hfree : ';' ∉ last ++ '\n' :: "uniform a b".toList := by
        rw [List.mem_append, not_or]
        exact ⟨hlast, by decide⟩
      rw [← List.cons_append, ← List.append_assoc, cut_append, cut_of_not_mem hfree]
      rfl
    have hone : (parse "uniform a b;").toOption.map (fun table ↦ table.size) = some 1 := by
      decide +kernel
    have hjoined : parse (String.intercalate ";" ["", line ++ "\n" ++ "uniform a b;"]) =
        tableOf (declareAll [trim (last ++ '\n' :: "uniform a b".toList), []] ∅) := by
      calc parse (String.intercalate ";" ["", line ++ "\n" ++ "uniform a b;"])
          = tableOf (declareAll
              (before ++ [trim (last ++ '\n' :: "uniform a b".toList), []]) ∅) := by
            rw [parse_intercalate_line hline, hnext, hcut, hpieces]
        _ = tableOf (declareAll [trim (last ++ '\n' :: "uniform a b".toList), []] ∅) := by
            rw [← declareAll_filter, List.filter_append, hbefore, List.nil_append,
              declareAll_filter]
    rw [hjoined, parseEach_line hline hdirective, declareAll]
    intro heq
    rw [← heq] at hone
    rcases declare_unfinished hsolid ∅ with hkept | ⟨e, hfault⟩
    · rw [hkept] at hone
      exact absurd hone (by decide +kernel)
    · rw [hfault] at hone
      cases hone

end Directive

/-! ## Seams in general -/

/-- Reading joined sources is reading one source after the other if every seam is sound. Among the
sources that can be read, just those that end in code may stand before every source that opens
harmlessly; and just the first lines that open harmlessly may stand behind every source that ends
in code. -/
theorem parse_intercalate_eq_parseEach (sources : List String) (first line : String) :
    (sources.IsChain Seamless →
      parse (String.intercalate ";" sources) = parseEach sources) ∧
    ((∃ table, parse first = .ok table) →
      ((∀ second : String, OpensHarmlessly second.toList →
        parse (String.intercalate ";" [first, second]) = parseEach [first, second]) ↔
          EndsInCode first.toList)) ∧
    ('\n' ∉ line.toList →
      ((∀ before rest : String, EndsInCode before.toList →
        parse (String.intercalate ";" [before, line ++ "\n" ++ rest]) =
          parseEach [before, line ++ "\n" ++ rest]) ↔
            OpensHarmlessly (line ++ "\n").toList)) := by
  refine ⟨parse_intercalate, ?_, ?_⟩
  · rintro ⟨table, hparse⟩
    constructor
    · intro hagree
      by_contra hends
      obtain ⟨second, hopens, hhidden⟩ := exists_hidden_of_not_endsInCode hparse hends
      exact hhidden (hagree second hopens)
    · intro hends second hopens
      exact parse_intercalate (List.isChain_pair.2 ⟨hends, hopens⟩)
  · intro hline
    have hopens : ∀ rest : String, OpensHarmlessly (line ++ "\n" ++ rest).toList ↔
        Harmless (dropReturn line.toList) := by
      intro rest
      rw [OpensHarmlessly, lines_toList_line hline, List.headD_cons]
    have hfirst : (line ++ "\n").toList = (line ++ "\n" ++ "").toList := by simp
    rw [hfirst, hopens]
    constructor
    · intro hagree
      by_contra hharmful
      obtain ⟨rest, hmisread⟩ := exists_misread_of_not_harmless hline hharmful
      exact hmisread (hagree "" rest (by decide))
    · intro hharmless before rest hends
      exact parse_intercalate (List.isChain_pair.2 ⟨hends, (hopens rest).2 hharmless⟩)

/-- The first source ends in a line of its own, and so may have directives and comments. -/
theorem parse_intercalate_eq_parseEach_apart :
    let apart := ["#version 120\nuniform float a; // seconds\n", "uniform vec2 b;"]
    parse (String.intercalate ";" apart) = parseEach apart ∧
      (parseEach apart).toOption.map (fun table ↦ table.toList) =
        some [("a", ⟨.scalar, .float, .one, 1⟩), ("b", ⟨.vector, .float, .two, 1⟩)] ∧
      (¬∀ second : String, OpensHarmlessly second.toList →
        parse (String.intercalate ";" ["uniform float a; // seconds", second]) =
          parseEach ["uniform float a; // seconds", second]) ∧
      ¬∀ before rest : String, EndsInCode before.toList →
        parse (String.intercalate ";" [before, "#version 120" ++ "\n" ++ rest]) =
          parseEach [before, "#version 120" ++ "\n" ++ rest] := by
  intro apart
  obtain ⟨happart, hhiding, hmisread⟩ :=
    parse_intercalate_eq_parseEach apart "uniform float a; // seconds" "#version 120"
  have hseamless : apart.IsChain Seamless :=
    List.isChain_pair.2 ⟨by decide, .inl (by decide)⟩
  have hparse : ∃ table, parse "uniform float a; // seconds" = .ok table :=
    ⟨_, parse_eq_tableOf _⟩
  have hharmful : ¬OpensHarmlessly ("#version 120" ++ "\n").toList := by
    rintro (hplain | ⟨done, rest, hcode, -⟩)
    · exact absurd hplain (by decide)
    · have hend : ';' ∈ beforeComment "#version 120".toList := hcode ▸ by simp
      exact absurd hend (by decide)
  exact ⟨happart hseamless, by decide +kernel,
    fun h ↦ absurd ((hhiding hparse).1 h) (by decide),
    fun h ↦ hharmful ((hmisread (by decide)).1 h)⟩

/-- A comment at the end of one source hides the only line of the next. -/
theorem not_forall_parse_intercalate :
    ¬∀ sources : List String, sources ≠ [] →
      parse (String.intercalate ";" sources) = parseEach sources := by
  intro h
  have hsize := congrArg (fun reading ↦ reading.toOption.map fun table ↦ table.size)
    (h ["uniform float a; // seconds", "uniform float b;"] (List.cons_ne_nil _ _))
  exact absurd hsize (by decide +kernel)

end Shading.Uniform
