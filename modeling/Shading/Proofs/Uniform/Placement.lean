import Shading.Proofs.Text.Ends
import Shading.Proofs.Uniform.Reprinting

/-!
# Where a declaration stands

A statement reaches from one semicolon to the next, whatever it is. So a declaration is found where
the statement before it has ended, and behind anything else it is taken for the end of that: a
function body has no semicolon behind it, and what is declared right after one is not found.
-/

namespace Shading.Uniform

open Text

/-- Code that leaves no statement open: there is none, or a semicolon ends it. -/
def IsEnded (code : List Char) : Prop :=
  trimEnd code = [] ∨ (trimEnd code).getLast? = some ';'

instance (code : List Char) : Decidable (IsEnded code) :=
  inferInstanceAs (Decidable (_ ∨ _))

theorem isEnded_of_blank {code : List Char} (h : ∀ c ∈ code, isBlank c = true) : IsEnded code :=
  .inl (trimEnd_of_blank h)

theorem not_isEnded_append {last : List Char} (hlast : ';' ∉ last)
    (hsolid : ∃ c ∈ last, isBlank c = false) (first : List Char) : ¬IsEnded (first ++ last) := by
  obtain ⟨init, c, rest, rfl, hc, hrest⟩ := exists_last_solid hsolid
  have hne : some c ≠ some ';' := by
    intro heq
    exact hlast (by simp [Option.some.inj heq])
  rw [IsEnded, ← List.append_assoc, trimEnd_append_cons hc _ hrest, List.getLast?_concat]
  exact not_or.2 ⟨List.append_ne_nil_of_right_ne_nil _ (List.cons_ne_nil c []), hne⟩

theorem isEnded_append_cons {last : List Char} (h : ∀ c ∈ last, isBlank c = true)
    (first : List Char) : IsEnded (first ++ ';' :: last) := by
  right
  rw [trimEnd_append_cons (by decide) _ h, List.getLast?_concat]

/-- Code is some statements and a piece that is not ended, which what follows runs into. -/
theorem exists_open_piece (code : List Char) :
    ∃ before last, (∃ first, code = first ++ last) ∧
      (IsEnded code ↔ ∀ c ∈ last, isBlank c = true) ∧
        ∀ {next : List Char}, ';' ∉ next →
          cut (code ++ next) = before ++ [trim (last ++ next)] := by
  have hpiece : ∀ {last next : List Char}, ';' ∉ last → ';' ∉ next →
      cut (last ++ next) = [trim (last ++ next)] := by
    intro last next hlast hnext
    exact cut_of_not_mem (by simp [hlast, hnext])
  have hblank : ∀ {last : List Char} (first : List Char), ';' ∉ last → IsEnded (first ++ last) →
      ∀ c ∈ last, isBlank c = true := by
    intro last first hlast hended
    exact (blank_or_exists_solid last).resolve_right
      fun hsolid ↦ not_isEnded_append hlast hsolid first hended
  rcases not_mem_or_exists_last ';' code with hnone | ⟨first, last, rfl, hlast⟩
  · exact ⟨[], code, ⟨[], rfl⟩, ⟨hblank [] hnone, isEnded_of_blank⟩, hpiece hnone⟩
  · refine ⟨cut first, last, ⟨first ++ [';'], List.append_cons ..⟩,
      ⟨fun hended ↦ ?_, fun h ↦ isEnded_append_cons h first⟩, fun hnext ↦ ?_⟩
    · rw [List.append_cons] at hended
      exact hblank _ hlast hended
    · rw [List.append_assoc, List.cons_append, cut_append, hpiece hlast hnext]

theorem Declares.declares {statement : List Char} {name : String} {d : Descriptor}
    (h : Declares statement name d) : declares statement = true := by
  obtain ⟨rest, hrest, -⟩ := h
  exact Option.isSome_iff_exists.2 ⟨rest, hrest⟩

/-- A declaration is the keyword, a type and a name. -/
theorem Declares.length_words {statement : List Char} {name : String} {d : Descriptor}
    (h : Declares statement name d) : (words statement).length = 3 := by
  obtain ⟨c, tail, hstatement, hc⟩ := declares_iff.1 h.declares
  obtain ⟨rest, hrest, hread⟩ := h
  obtain ⟨type, word, hwords, -⟩ := readDeclaration_ok hread
  have hkeyword : words "uniform".toList = [keyword] := by decide
  have htail : rest = c :: tail := by
    rw [hstatement] at hrest
    exact Option.some.inj (hrest.symm.trans (afterKeyword_append hc tail))
  rw [htail, words_cons_blank hc] at hwords
  rw [hstatement, words_append_blank hc, hkeyword, hwords]
  rfl

theorem declares_of_isPrefix {statement longer : List Char} (h : declares statement = true)
    (hlonger : statement <+: longer) : declares longer = true := by
  obtain ⟨rest, rfl⟩ := hlonger
  obtain ⟨c, tail, rfl, hc⟩ := declares_iff.1 h
  exact declares_iff.2 ⟨c, tail ++ rest, by simp, hc⟩

/-- A statement that runs into a whole declaration has too many words to declare anything. -/
theorem not_declares_append {before text : List Char} (h : (words text).length = 3)
    (name : String) (d : Descriptor) : ¬Declares (before ++ '\n' :: text) name d := by
  rintro ⟨rest, hkeyword, hread⟩
  -- the keyword is in front of the line feed, which it does not hold
  obtain ⟨front, rfl⟩ : ∃ front, rest = front ++ '\n' :: text := by
    have hsplit := eq_append_of_afterKeyword hkeyword
    rw [List.append_eq_append_iff] at hsplit
    rcases hsplit with ⟨between, hkey, hfeed⟩ | ⟨between, hcode, hrest⟩
    · cases between with
      | nil => exact ⟨[], hfeed.symm⟩
      | cons c between =>
        have hc : c = '\n' := (List.cons.inj hfeed).1.symm
        have hmem : '\n' ∈ keyword := by
          rw [hkey, hc]
          simp
        exact absurd hmem (by decide)
    · exact ⟨between, hrest⟩
  obtain ⟨type, word, hwords, -⟩ := readDeclaration_ok hread
  have hcount := congrArg List.length hwords
  rw [words_append_blank (by decide), List.length_append, h] at hcount
  simp at hcount

/-- Behind an open piece, a declaration makes one statement with it. Unless that is a fault, it
declares nothing, and neither does the piece by itself. -/
theorem declares_append_newline {init next : List Char} (hinit : ∃ c ∈ init, isBlank c = false)
    {name : String} {d : Descriptor} (h : Declares (trim next) name d)
    (hfaultless : declares (trim (init ++ '\n' :: next)) = true →
      ∃ other e, Declares (trim (init ++ '\n' :: next)) other e) :
    declares (trim (init ++ '\n' :: next)) = false ∧ declares (trim (init ++ ['\n'])) = false := by
  have hwords : (words next).length = 3 := by
    rw [← words_trim]
    exact h.length_words
  have hnext : ∃ c ∈ next, isBlank c = false := by
    refine exists_solid_of_words fun hnone ↦ ?_
    rw [hnone] at hwords
    cases hwords
  rw [trim_append_newline hinit hnext] at hfaultless ⊢
  have hjoined : declares (trimStart init ++ '\n' :: trimEnd next) = false := by
    by_contra hdeclares
    obtain ⟨other, e, hother⟩ := hfaultless (eq_true_of_ne_false hdeclares)
    refine not_declares_append ?_ other e hother
    rwa [words_trimEnd]
  refine ⟨hjoined, ?_⟩
  rw [trim_append_blank (by decide)]
  by_contra hdeclares
  have hlonger := declares_of_isPrefix (eq_true_of_ne_false hdeclares)
    ((isPrefix_trim init).trans (List.prefix_append _ ('\n' :: trimEnd next)))
  rw [hjoined] at hlonger
  cases hlonger

/-- The text is a single declaration, up to the semicolon that ends it, and that semicolon is not
taken out with a comment or a directive. -/
structure IsDeclaration (body : List Char) (name : String) (d : Descriptor) : Prop where
  ends : EndsInCode body
  alone : ∃ statement, statements body = [statement] ∧ Declares statement name d

/-- Whatever declares something by itself, on one line and without a comment. -/
theorem isDeclaration_of_line {body : List Char} {name : String} {d : Descriptor}
    (hline : '\n' ∉ body) (hcomment : Uncommented body) (hend : ';' ∉ body)
    (h : Declares (trim body) name d) : IsDeclaration body name d := by
  have hdirective : ¬IsDirective body := by
    obtain ⟨c, tail, hstatement, -⟩ := declares_iff.1 h.declares
    obtain ⟨rest, hrest⟩ := isPrefix_trim body
    rw [IsDirective, beforeComment_eq_self hcomment, ← hrest, hstatement]
    exact fun hhead ↦ absurd (Option.some.inj hhead) (by decide)
  have hcode : codeOfLine body = body :=
    codeOfLine_eq_self_iff.2 ⟨beforeComment_eq_self hcomment, hdirective⟩
  have hlast : lastLine body = body := lastLine_append_of_not_mem hline []
  have hended : endedLines body = [] := by
    have hsplit := endedLines_append_lastLine body
    rw [hlast] at hsplit
    exact List.append_left_eq_self.1 hsplit
  refine ⟨by rw [EndsInCode, hlast, hcode], trim body, ?_, h⟩
  rw [statements_eq_cut_last, hlast, hcode, hended]
  exact cut_of_not_mem hend

theorem cut_eq_singleton {code statement : List Char} (h : cut code = [statement]) :
    ';' ∉ code ∧ trim code = statement := by
  rcases not_mem_or_exists_last ';' code with hnone | ⟨first, last, rfl, -⟩
  · rw [cut_of_not_mem hnone] at h
    exact ⟨hnone, (List.cons.inj h).1⟩
  · have hfirst := List.length_pos_iff.2 (List.splitOn_ne_nil ';' first)
    have hlast := List.length_pos_iff.2 (List.splitOn_ne_nil ';' last)
    rw [cut_append] at h
    have hlength := congrArg List.length h
    simp only [cut, List.length_append, List.length_map, List.length_singleton] at hlength
    omega

theorem isEnded_codeOf {source : List Char} :
    IsEnded (codeOf source) ↔ IsEnded (fed (lines source)) := by
  rw [codeOf]
  by_cases h : lines source = []
  · rw [h]
    rfl
  · rw [fed_eq_intercalate h, IsEnded, IsEnded, trimEnd_append_blank (by decide)]

theorem getLast?_fed {lines : List (List Char)} (h : fed lines ≠ []) :
    (fed lines).getLast? = some '\n' := by
  have hlines : lines ≠ [] := by
    rintro rfl
    exact h rfl
  rw [fed_eq_intercalate hlines, List.getLast?_concat]

/-- Lines of code leave nothing open, or a piece that ends with a line feed. -/
theorem isEnded_or_exists_open_lines (lines : List (List Char)) :
    ∃ before,
      (IsEnded (fed lines) ∧
        ∀ {next : List Char}, ';' ∉ next → cut (fed lines ++ next) = before ++ [trim next]) ∨
      ¬IsEnded (fed lines) ∧ ∃ init, (∃ c ∈ init, isBlank c = false) ∧
        ∀ {next : List Char}, ';' ∉ next →
          cut (fed lines ++ next) = before ++ [trim (init ++ '\n' :: next)] := by
  obtain ⟨before, last, ⟨first, hcode⟩, hended, hcut⟩ := exists_open_piece (fed lines)
  refine ⟨before, ?_⟩
  rcases blank_or_exists_solid last with hblank | ⟨c, hc, hsolid⟩
  · refine .inl ⟨hended.2 hblank, fun hnext ↦ ?_⟩
    rw [hcut hnext, trim_append_of_blank hblank]
  · have hopen : ¬IsEnded (fed lines) := by
      intro h
      rw [hended.1 h c hc] at hsolid
      cases hsolid
    have hlast : last ≠ [] := List.ne_nil_of_mem hc
    obtain ⟨init, rfl⟩ : ∃ init, last = init ++ ['\n'] := by
      have hend : (fed lines).getLast? = some '\n' := getLast?_fed (by simp [hcode, hlast])
      rw [hcode, List.getLast?_append_of_ne_nil _ hlast] at hend
      exact List.getLast?_eq_some_iff.1 hend
    have hinit : c ∈ init := by
      rcases List.mem_append.1 hc with hc | hc
      · exact hc
      · rw [List.mem_singleton.1 hc] at hsolid
        exact absurd hsolid (by decide)
    refine .inr ⟨hopen, init, ⟨c, hinit, hsolid⟩, fun hnext ↦ ?_⟩
    rw [hcut hnext, List.append_assoc]
    rfl

section
variable {pre body : List Char} (hpre : pre = [] ∨ pre.getLast? = some '\n')
include hpre

theorem lastLine_append_of_ended : lastLine (pre ++ body) = lastLine body := by
  by_cases hmem : '\n' ∈ body
  · exact lastLine_append_of_mem hmem pre
  · have hfront : lastLine pre = [] := by
      rcases hpre with rfl | hlast
      · rfl
      · obtain ⟨init, rfl⟩ := List.getLast?_eq_some_iff.1 hlast
        exact lastLine_append_of_mem (by decide) init
    have hbody : lastLine body = body := lastLine_append_of_not_mem hmem []
    rw [lastLine_append_of_not_mem hmem, hfront, hbody]
    rfl

theorem EndsInCode.append_of_ended (h : EndsInCode body) : EndsInCode (pre ++ body) := by
  rw [EndsInCode, lastLine_append_of_ended hpre]
  exact h

/-- A declaration is found behind code that is ended. Behind other code it is a part of the
statement that is open there, and unless that is at fault, nothing is declared but what the code
declares. -/
theorem declared_append {name : String} {d : Descriptor} (hbody : IsDeclaration body name d) :
    (IsEnded (codeOf pre) → ∃ statement ∈ declared (pre ++ body), Declares statement name d) ∧
      (¬IsEnded (codeOf pre) →
        (∀ statement ∈ declared (pre ++ body), ∃ other e, Declares statement other e) →
          declared (pre ++ body) = declared pre) := by
  obtain ⟨statement, halone, hdeclares⟩ := hbody.alone
  rw [statements_eq_cut] at halone
  obtain ⟨hnext, rfl⟩ := cut_eq_singleton halone
  have hboth : statements (pre ++ body) = cut (fed (lines pre) ++ fed (lines body)) := by
    rw [statements_eq_cut, lines_append hpre, fed_append]
  have hfront : statements pre = cut (fed (lines pre) ++ []) := by
    rw [statements_eq_cut, List.append_nil]
  rw [isEnded_codeOf, declared, declared, hboth, hfront]
  obtain ⟨before, ⟨hended, hcut⟩ | ⟨hopen, init, hinit, hcut⟩⟩ :=
    isEnded_or_exists_open_lines (lines pre)
  · refine ⟨fun _ ↦ ?_, fun hopen ↦ absurd hended hopen⟩
    rw [hcut hnext]
    exact ⟨_, List.mem_filter.2 ⟨by simp, hdeclares.declares⟩, hdeclares⟩
  · refine ⟨fun hended ↦ absurd hended hopen, fun _ hfaultless ↦ ?_⟩
    rw [hcut hnext] at hfaultless ⊢
    rw [hcut List.not_mem_nil]
    obtain ⟨hjoined, hpiece⟩ := declares_append_newline hinit hdeclares
      fun hjoined ↦ hfaultless _ (List.mem_filter.2 ⟨by simp, hjoined⟩)
    simp [List.filter_append, hjoined, hpiece]

end

/-- A text that is followed by a semicolon declares what it declares by itself, and what is behind
the semicolon is read in the same way whatever is in front of it. -/
theorem exists_declared_join (second : String) :
    ∃ after, ∀ {first : String}, EndsInCode first.toList →
      declared (first ++ ";" ++ second).toList = declared first.toList ++ after := by
  refine ⟨(cut (beforeComment ((lines second.toList).headD []) ++
    '\n' :: fed (lines second.toList).tail)).filter declares, fun hends ↦ ?_⟩
  rw [toList_join, declared, statements_join hends, List.filter_append]
  rfl

/-- Where a text can be read, a declaration that begins a line is found if the code in front of it
is ended. Otherwise the text is read as if the declaration was not there. -/
theorem parse_placed {pre body post name : String} {d : Descriptor} {table : Table}
    (hpre : pre = "" ∨ pre.toList.getLast? = some '\n')
    (hbody : IsDeclaration body.toList name d)
    (h : parse (pre ++ body ++ ";" ++ post) = .ok table) :
    (IsEnded (codeOf pre.toList) → table[name]? = some d) ∧
      (¬IsEnded (codeOf pre.toList) → parse (pre ++ ";" ++ post) = .ok table) := by
  have hlines : pre.toList = [] ∨ pre.toList.getLast? = some '\n' :=
    hpre.imp_left (by rintro rfl; rfl)
  obtain ⟨after, hdeclared⟩ := exists_declared_join post
  have hwhole : declared (pre ++ body ++ ";" ++ post).toList =
      declared (pre.toList ++ body.toList) ++ after := by
    rw [hdeclared, String.toList_append]
    rw [String.toList_append]
    exact hbody.ends.append_of_ended hlines
  have hwithout : declared (pre ++ ";" ++ post).toList = declared pre.toList ++ after := by
    apply hdeclared
    have hnothing : EndsInCode (pre.toList ++ []) :=
      EndsInCode.append_of_ended hlines (by decide)
    rwa [List.append_nil] at hnothing
  obtain ⟨hfound, hhidden⟩ := declared_append hlines hbody
  refine ⟨fun hended ↦ ?_, fun hopen ↦ ?_⟩
  · obtain ⟨statement, hmem, hdeclares⟩ := hfound hended
    rw [getElem?_eq_some_iff_declares h, hwhole]
    exact ⟨statement, List.mem_append_left after hmem, hdeclares⟩
  · have hfaultless := wellFormed_of_parse h
    rw [hwhole] at hfaultless
    have hsame := hhidden hopen fun statement hmem ↦
      hfaultless statement (List.mem_append_left after hmem)
    rw [parse_eq_tableOf, hwhole] at h
    rw [parse_eq_tableOf, hwithout, ← hsame, h]

theorem exists_eq_ok_of_isOk {reading : Except DeclarationError Table}
    (h : reading.isOk = true) : ∃ table, reading = .ok table := by
  cases reading with
  | ok table => exact ⟨table, rfl⟩
  | error e => cases h

/-- A function and nothing behind it. -/
def functionLine : String :=
  "void main() \x7b\x7d\n"

theorem isDeclaration_tint :
    IsDeclaration "uniform vec4 tint[2]".toList "tint" ⟨.vector, .float, .four, 2⟩ :=
  isDeclaration_of_line (by decide) (uncommented_of_not_mem (by decide)) (by decide) ⟨_, rfl, rfl⟩

/-- The same declaration behind another one and behind a function. -/
theorem parse_placed_tint :
    (∃ table,
      parse ("varying vec2 uv; // here\n" ++ "uniform vec4 tint[2]" ++ ";" ++ functionLine) =
          .ok table ∧
        table["tint"]? = some ⟨.vector, .float, .four, 2⟩) ∧
      ∃ table,
        parse (functionLine ++ "uniform vec4 tint[2]" ++ ";" ++ "uniform int n;") = .ok table ∧
          parse (functionLine ++ ";" ++ "uniform int n;") = .ok table := by
  constructor
  · have hread : (parse ("varying vec2 uv; // here\n" ++ "uniform vec4 tint[2]" ++ ";" ++
        functionLine)).isOk = true := by
      decide +kernel
    obtain ⟨table, htable⟩ := exists_eq_ok_of_isOk hread
    exact ⟨table, htable,
      (parse_placed (.inr (by decide)) isDeclaration_tint htable).1 (by decide)⟩
  · have hread : (parse (functionLine ++ "uniform vec4 tint[2]" ++ ";" ++
        "uniform int n;")).isOk = true := by
      decide +kernel
    obtain ⟨table, htable⟩ := exists_eq_ok_of_isOk hread
    exact ⟨table, htable,
      (parse_placed (.inr (by decide)) isDeclaration_tint htable).2 (by decide)⟩

/-- How many braces are open behind the code, unless one was closed that was not open. -/
def openBraces : List Char → Nat → Option Nat
  | [], depth => some depth
  | '\x7b' :: rest, depth => openBraces rest (depth + 1)
  | '\x7d' :: rest, depth => if depth = 0 then none else openBraces rest (depth - 1)
  | _ :: rest, depth => openBraces rest depth

/-- The code ends with the brace that closes the body of a function, and no other is open then. -/
def ClosesFunction (code : List Char) : Prop :=
  ∃ head body, trimEnd code = head ++ '\x7b' :: (body ++ ['\x7d']) ∧
    (trimEnd head).getLast? = some ')' ∧ openBraces head 0 = some 0 ∧ openBraces body 0 = some 0

/-- What is declared right behind a function is not found. -/
theorem not_forall_found_behind_function :
    ¬∀ (pre body post name : String) (d : Descriptor) (table : Table),
      pre.toList.getLast? = some '\n' →
        IsEnded (codeOf pre.toList) ∨ ClosesFunction (codeOf pre.toList) →
          IsDeclaration body.toList name d → parse (pre ++ body ++ ";" ++ post) = .ok table →
            table[name]? = some d := by
  intro h
  have hfunction : ClosesFunction (codeOf functionLine.toList) :=
    ⟨"void main() ".toList, [], by decide, by decide, by decide, by decide⟩
  have hmissing : (parse (functionLine ++ "uniform vec4 tint[2]" ++ ";" ++ "")).toOption.map
      (fun table ↦ table["tint"]?) = some none := by
    decide +kernel
  cases hparse : parse (functionLine ++ "uniform vec4 tint[2]" ++ ";" ++ "") with
  | error e =>
    rw [hparse] at hmissing
    cases hmissing
  | ok table =>
    rw [hparse] at hmissing
    have hfound := h _ _ _ _ _ table (by decide) (.inr hfunction) isDeclaration_tint hparse
    cases hfound.symm.trans (Option.some.inj hmissing)

end Shading.Uniform
