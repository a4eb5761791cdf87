import Shading.Proofs.Uniform.Entries

/-!
# Writing a table and reading it again

An entry is written as a declaration: the type and the brackets come from the display of its
descriptor, which is split in front of its first bracket, and the name stands between them. Whatever
can be declared is read again from its declaration as it was. A text with one declaration on each
line is therefore read as the table of its entries, in whatever order they come.
-/

namespace Shading.Uniform

open Text

/-- A character that can stand anywhere in a word of a statement. -/
def isPlain (c : Char) : Bool :=
  !isBlank c && c != ';' && c != '/'

theorem isPlain_iff {c : Char} : isPlain c = true ↔ isBlank c = false ∧ c ≠ ';' ∧ c ≠ '/' := by
  simp [isPlain, and_assoc]

theorem isPlain_of_isDigit {c : Char} (h : c.isDigit = true) : isPlain c = true := by
  have hrange : 48 ≤ c.toNat ∧ c.toNat ≤ 57 := by
    simpa [Char.isDigit, UInt32.le_iff_toNat_le] using h
  rw [isPlain_iff]
  refine ⟨?_, ?_, ?_⟩
  · simp [isBlank]
    omega
  · rintro rfl
    exact absurd h (by decide)
  · rintro rfl
    exact absurd h (by decide)

namespace Descriptor

def typeText (d : Descriptor) : List Char :=
  d.display.toList.takeWhile (· != '[')

def suffixText (d : Descriptor) : List Char :=
  d.display.toList.dropWhile (· != '[')

/-- The letters of a type, and the digit of its width unless it is a scalar. -/
theorem toList_typeName (d : Descriptor) :
    d.typeName.toList = match d.kind, d.baseType with
      | .scalar, base => base.name.toList
      | .vector, .int => "ivec".toList ++ [d.width.toNat.digitChar]
      | .vector, .float => "vec".toList ++ [d.width.toNat.digitChar]
      | .matrix, _ => "mat".toList ++ [d.width.toNat.digitChar] := by
  have hdigit : Nat.toDigits 10 d.width.toNat = [d.width.toNat.digitChar] := by
    apply Nat.toDigits_of_lt_base
    cases d.width <;> decide
  rw [typeName]
  split <;> simp [*]

theorem typeName_ne_nil (d : Descriptor) : d.typeName.toList ≠ [] := by
  rw [toList_typeName]
  cases d.kind <;> cases d.baseType <;> cases d.width <;> decide

theorem isPlain_typeName (d : Descriptor) :
    ∀ c ∈ d.typeName.toList, isPlain c = true ∧ (c != '[') = true := by
  have hall : (d.typeName.toList.all fun c ↦ isPlain c && c != '[') = true := by
    rw [toList_typeName]
    cases d.kind <;> cases d.baseType <;> cases d.width <;> decide
  intro c hc
  exact (Bool.and_eq_true _ _).mp (List.all_eq_true.1 hall c hc)

theorem toList_arraySuffix (d : Descriptor) :
    d.arraySuffix.toList =
      if 1 < d.arrayLength then '[' :: (Nat.toDigits 10 d.arrayLength ++ [']']) else [] := by
  rw [arraySuffix]
  split <;> simp

theorem isPlain_arraySuffix (d : Descriptor) :
    ∀ c ∈ d.arraySuffix.toList, isPlain c = true := by
  rw [toList_arraySuffix]
  split
  · intro c hc
    rcases List.mem_cons.1 hc with rfl | hc
    · decide
    · rcases List.mem_append.1 hc with hc | hc
      · exact isPlain_of_isDigit (Nat.isDigit_of_mem_toDigits (by decide) (by decide) hc)
      · rw [List.mem_singleton.1 hc]
        decide
  · simp

theorem takeWhile_arraySuffix (d : Descriptor) :
    d.arraySuffix.toList.takeWhile (· != '[') = [] ∧
      d.arraySuffix.toList.dropWhile (· != '[') = d.arraySuffix.toList := by
  rw [toList_arraySuffix]
  split <;> simp

theorem typeText_eq (d : Descriptor) : d.typeText = d.typeName.toList := by
  rw [typeText, display, String.toList_append,
    List.takeWhile_append_of_pos fun c hc ↦ (d.isPlain_typeName c hc).2,
    d.takeWhile_arraySuffix.1, List.append_nil]

theorem suffixText_eq (d : Descriptor) : d.suffixText = d.arraySuffix.toList := by
  rw [suffixText, display, String.toList_append,
    List.dropWhile_append_of_pos fun c hc ↦ (d.isPlain_typeName c hc).2,
    d.takeWhile_arraySuffix.2]

/-- The name of a type is read as the type. -/
theorem IsReadable.readType_typeName {d : Descriptor} (h : d.IsReadable) :
    readType d.typeName.toList = some (d.kind, d.baseType, d.width) := by
  have hscalar := h.scalar
  have hmatrix := h.matrix
  rw [toList_typeName]
  generalize d.kind = kind, d.baseType = base, d.width = width at hscalar hmatrix ⊢
  cases kind with
  | scalar =>
    rw [hscalar rfl]
    cases base <;> decide
  | vector => cases base <;> cases width <;> decide
  | matrix =>
    obtain ⟨hwidth, rfl⟩ := hmatrix rfl
    cases width with
    | one => exact absurd rfl hwidth
    | two => decide
    | three => decide
    | four => decide

end Descriptor

/-- Decimal digits have no sign, and are read as the number they were made from. -/
theorem readLength_toDigits {n : Nat} (hpos : 0 < n) (hlt : n < lengthLimit) :
    readLength (Nat.toDigits 10 n) = some n := by
  have hdigits : ∀ c ∈ Nat.toDigits 10 n, c.isDigit = true :=
    fun c hc ↦ Nat.isDigit_of_mem_toDigits (by decide) (by decide) hc
  have hread : readDigits (Nat.toDigits 10 n) = some n := by
    rw [readDigits, if_pos ⟨Nat.toDigits_ne_nil, List.all_eq_true.2 hdigits⟩,
      Nat.ofDigitChars_ten_toDigits]
  have hsign : ∀ rest, Nat.toDigits 10 n ≠ '+' :: rest := by
    intro rest heq
    exact absurd (hdigits '+' (by simp [heq])) (by decide)
  rw [readLength, hread]
  · simp [hpos, hlt]
  · exact hsign

def statementOf (name : String) (d : Descriptor) : List Char :=
  keyword ++ ' ' :: (d.typeText ++ ' ' :: (name.toList ++ d.suffixText))

section
variable {name : String} {d : Descriptor}

theorem readName_append (hname : IsName name.toList) (hd : d.IsReadable) (statement : List Char) :
    readName statement (name.toList ++ d.arraySuffix.toList) =
      .ok (name.toList, d.arrayLength) := by
  have hbefore := bne_bracket_of_not_mem hname.bare
  rw [readName, List.takeWhile_append_of_pos hbefore, List.dropWhile_append_of_pos hbefore,
    d.takeWhile_arraySuffix.1, d.takeWhile_arraySuffix.2, List.append_nil, d.toList_arraySuffix]
  split
  · rename_i hsuffix
    split at hsuffix
    · cases hsuffix
    · have hone : d.arrayLength = 1 := by
        have := hd.length_pos
        omega
      rw [hone]
  · rename_i suffix hsuffix
    split at hsuffix
    · have hbrackets : suffix = Nat.toDigits 10 d.arrayLength ++ [']'] :=
        (List.cons.inj hsuffix).2.symm
      have hlength := readLength_toDigits hd.length_pos hd.length_lt
      have hread : readBrackets statement name.toList suffix = .ok d.arrayLength := by
        rw [hbrackets, readBrackets, if_pos List.getLast?_concat, List.dropLast_concat]
        split
        · rename_i hnil
          exact absurd hnil Nat.toDigits_ne_nil
        · rw [hlength]
      rw [if_neg hname.ne_nil, hread]
      rfl
    · cases hsuffix

theorem solid_append (hname : IsName name.toList) :
    ∀ c ∈ name.toList ++ d.arraySuffix.toList, isBlank c = false := by
  intro c hc
  rcases List.mem_append.1 hc with hc | hc
  · exact hname.solid c hc
  · exact (isPlain_iff.1 (d.isPlain_arraySuffix c hc)).1

/-- An entry is what its declaration declares. -/
theorem declares_statementOf (hname : IsName name.toList) (hd : d.IsReadable) :
    Declares (statementOf name d) name d := by
  have hblank : isBlank ' ' = true := by decide
  have htype : words d.typeName.toList = [d.typeName.toList] :=
    words_of_solid d.typeName_ne_nil fun c hc ↦ (isPlain_iff.1 (d.isPlain_typeName c hc).1).1
  have hword : words (name.toList ++ d.arraySuffix.toList) =
      [name.toList ++ d.arraySuffix.toList] :=
    words_of_solid (by simp [hname.ne_nil]) (solid_append hname)
  have hwords : words (' ' :: (d.typeText ++ ' ' :: (name.toList ++ d.suffixText))) =
      [d.typeName.toList, name.toList ++ d.arraySuffix.toList] := by
    have hlead := words_append_blank hblank [] (d.typeText ++ ' ' :: (name.toList ++ d.suffixText))
    rw [List.nil_append, words_nil, List.nil_append] at hlead
    rw [hlead, words_append_blank hblank, d.typeText_eq, d.suffixText_eq, htype, hword]
    rfl
  refine ⟨_, afterKeyword_append hblank _, ?_⟩
  rw [readDeclaration, hwords]
  simp only [readName_append hname hd, hd.readType_typeName]
  exact congrArg (fun read ↦ Except.ok (read, d)) String.ofList_toList

theorem trim_statementOf (hname : IsName name.toList) :
    trim (statementOf name d) = statementOf name d := by
  obtain ⟨init, last, hword⟩ : ∃ init last, name.toList ++ d.suffixText = init ++ [last] := by
    rcases List.eq_nil_or_concat (name.toList ++ d.suffixText) with hnil | ⟨init, last, hword⟩
    · exact absurd (List.append_eq_nil_iff.1 hnil).1 hname.ne_nil
    · exact ⟨init, last, by rw [hword, List.concat_eq_append]⟩
  have hlast : isBlank last = false := by
    apply solid_append (d := d) hname
    rw [← d.suffixText_eq, hword]
    simp
  have hends : statementOf name d = (keyword ++ ' ' :: (d.typeText ++ ' ' :: init)) ++ [last] := by
    simp [statementOf, hword]
  have hstarts : trimStart (statementOf name d) = statementOf name d :=
    List.dropWhile_cons_of_neg (by decide)
  rw [trim, hstarts, hends, trimEnd_append_solid hlast]

theorem semicolon_not_mem_statementOf (hname : IsName name.toList) : ';' ∉ statementOf name d := by
  have hplain : ∀ {c : Char}, isPlain c = true → c ≠ ';' := fun h ↦ (isPlain_iff.1 h).2.1
  have htype : ';' ∉ d.typeName.toList := fun hc ↦ hplain (d.isPlain_typeName _ hc).1 rfl
  have hsuffix : ';' ∉ d.arraySuffix.toList := fun hc ↦ hplain (d.isPlain_arraySuffix _ hc) rfl
  have hkeyword : ';' ∉ keyword := by decide
  simp [statementOf, d.typeText_eq, d.suffixText_eq, htype, hsuffix, hkeyword, hname.unended]

theorem newline_not_mem_statementOf (hname : IsName name.toList) : '\n' ∉ statementOf name d := by
  have hnewline : ∀ {c : Char}, isBlank c = false → c ≠ '\n' := by
    rintro c hc rfl
    exact absurd hc (by decide)
  have htype : '\n' ∉ d.typeName.toList :=
    fun hc ↦ hnewline (isPlain_iff.1 (d.isPlain_typeName _ hc).1).1 rfl
  have hword : '\n' ∉ name.toList ++ d.arraySuffix.toList :=
    fun hc ↦ hnewline (solid_append hname _ hc) rfl
  have hkeyword : '\n' ∉ keyword := by decide
  rw [List.mem_append, not_or] at hword
  simp [statementOf, d.typeText_eq, d.suffixText_eq, htype, hkeyword, hword]

/-- No part of a declaration is taken for a comment or a directive. -/
theorem codeOfLine_statementOf (hname : IsName name.toList) :
    codeOfLine (statementOf name d ++ [';']) = statementOf name d ++ [';'] := by
  have hplain : ∀ {c : Char}, isPlain c = true → c ≠ '/' := fun h ↦ (isPlain_iff.1 h).2.2
  have htype : '/' ∉ d.typeText := by
    rw [d.typeText_eq]
    exact fun hc ↦ hplain (d.isPlain_typeName _ hc).1 rfl
  have hend : '/' ∉ d.suffixText ++ [';'] := by
    have hsuffix : '/' ∉ d.arraySuffix.toList := fun hc ↦ hplain (d.isPlain_arraySuffix _ hc) rfl
    simp [d.suffixText_eq, hsuffix]
  obtain ⟨c, rest, hrest⟩ : ∃ c rest, d.suffixText ++ [';'] = c :: rest :=
    List.exists_cons_of_ne_nil (by simp)
  have hword : Uncommented (name.toList ++ (d.suffixText ++ [';'])) := by
    rw [hrest, List.mem_cons, not_or] at hend
    rw [hrest]
    exact uncommented_append_cons (Ne.symm hend.1) hname.uncommented (uncommented_of_not_mem hend.2)
  have hline : Uncommented (statementOf name d ++ [';']) := by
    have hsplit : statementOf name d ++ [';'] =
        keyword ++ ' ' :: (d.typeText ++ ' ' :: (name.toList ++ (d.suffixText ++ [';']))) := by
      simp [statementOf]
    rw [hsplit]
    exact uncommented_append_cons (by decide) (uncommented_of_not_mem (by decide))
      (uncommented_append_cons (by decide) (uncommented_of_not_mem htype) hword)
  have hcode := beforeComment_eq_self hline
  have hdirective : ¬IsDirective (statementOf name d ++ [';']) := by
    have hstarts : trimStart (statementOf name d ++ [';']) = statementOf name d ++ [';'] :=
      List.dropWhile_cons_of_neg (by decide)
    rw [IsDirective, hcode, hstarts]
    exact fun hhead ↦ absurd (Option.some.inj hhead) (by decide)
  exact codeOfLine_eq_self_iff.2 ⟨hcode, hdirective⟩

end

/-! ## A text of declarations -/

/-- The line of an entry. -/
def lineOf (entry : String × Descriptor) : List Char :=
  statementOf entry.1 entry.2 ++ [';']

/-- One declaration on each line. -/
def sourceOf (entries : List (String × Descriptor)) : String :=
  String.ofList (entries.flatMap fun entry ↦ lineOf entry ++ ['\n'])

section
variable {entries : List (String × Descriptor)}
  (hreadable : ∀ entry ∈ entries, IsName entry.1.toList ∧ entry.2.IsReadable)

include hreadable

theorem cut_fed_lineOf :
    cut (fed (entries.map lineOf)) =
      (entries.map fun entry ↦ statementOf entry.1 entry.2) ++ [[]] := by
  induction entries with
  | nil => rfl
  | cons entry entries ih =>
    rw [List.forall_mem_cons] at hreadable
    obtain ⟨hname, -⟩ := hreadable.1
    calc cut (fed ((entry :: entries).map lineOf))
        = cut (statementOf entry.1 entry.2 ++ ';' :: '\n' :: fed (entries.map lineOf)) := by
          rw [List.map_cons, fed_cons, lineOf, codeOfLine_statementOf hname, List.append_assoc,
            List.singleton_append]
      _ = [statementOf entry.1 entry.2] ++ cut (fed (entries.map lineOf)) := by
          rw [cut_append, cut_of_not_mem (semicolon_not_mem_statementOf hname),
            trim_statementOf hname, cut_cons_blank (by decide)]
      _ = ((entry :: entries).map fun entry ↦ statementOf entry.1 entry.2) ++ [[]] := by
          rw [ih hreadable.2, List.map_cons, List.singleton_append, List.cons_append]

theorem declared_of_lines {text : String} (hlines : lines text.toList = entries.map lineOf) :
    declared text.toList = entries.map fun entry ↦ statementOf entry.1 entry.2 := by
  have hdeclares : ∀ statement ∈ entries.map fun entry ↦ statementOf entry.1 entry.2,
      declares statement = true := by
    intro statement hmem
    obtain ⟨entry, -, rfl⟩ := List.mem_map.1 hmem
    exact declares_iff.2 ⟨' ', _, rfl, by decide⟩
  rw [declared, statements_eq_cut, hlines, cut_fed_lineOf hreadable, List.filter_append,
    List.filter_eq_self.2 hdeclares]
  exact List.append_nil _

/-- A text of declarations is read as the table of its entries, if they agree with each other. -/
theorem parse_of_lines {text : String} {table : Table}
    (htable : ∀ name d, table[name]? = some d ↔ (name, d) ∈ entries)
    (hlines : lines text.toList = entries.map lineOf) : parse text = .ok table := by
  have hdeclares : ∀ {name d}, (name, d) ∈ entries → Declares (statementOf name d) name d :=
    fun hmem ↦ declares_statementOf (hreadable _ hmem).1 (hreadable _ hmem).2
  have hdescribes : ∀ name d,
      Describes ∅ (entries.map fun entry ↦ statementOf entry.1 entry.2) name d ↔
        (name, d) ∈ entries := by
    intro name d
    rw [Describes, Table.getElem?_empty, or_iff_right (Option.some_ne_none d).symm]
    constructor
    · rintro ⟨statement, hmem, hd⟩
      obtain ⟨⟨name', d'⟩, hentry, rfl⟩ := List.mem_map.1 hmem
      obtain ⟨rfl, rfl⟩ := hd.unique (hdeclares hentry)
      exact hentry
    · exact fun hmem ↦ ⟨_, List.mem_map_of_mem hmem, hdeclares hmem⟩
  have hconsistent : Consistent ∅ (entries.map fun entry ↦ statementOf entry.1 entry.2) := by
    refine ⟨?_, ?_⟩
    · intro statement hmem
      obtain ⟨⟨name, d⟩, hentry, rfl⟩ := List.mem_map.1 hmem
      exact ⟨name, d, hdeclares hentry⟩
    · intro statement hmem name d other hd hother
      have hknown := (htable name d).2 ((hdescribes name d).1 (.inr ⟨statement, hmem, hd⟩))
      have hagain := (htable name other).2 ((hdescribes name other).1 hother)
      exact Option.some.inj (hagain.symm.trans hknown)
  obtain ⟨union, hread, hunion⟩ := declareAll_of_consistent hconsistent
  have hsame : union = table := by
    apply Table.ext
    intro name
    apply Option.ext
    intro d
    rw [hunion name d, hdescribes, htable]
  rw [parse_eq_tableOf, declared_of_lines hreadable hlines, tableOf_eq_ok_iff, hread, hsame]

theorem lines_sourceOf : lines (sourceOf entries).toList = entries.map lineOf := by
  rw [sourceOf, String.toList_ofList]
  induction entries with
  | nil => rfl
  | cons entry entries ih =>
    rw [List.forall_mem_cons] at hreadable
    have hline : '\n' ∉ lineOf entry := by
      simp [lineOf, newline_not_mem_statementOf hreadable.1.1]
    rw [List.flatMap_cons, List.append_assoc, List.singleton_append, lines_cons hline,
      ih hreadable.2, lineOf, dropReturn_concat, if_neg (by decide)]
    rfl

end

/-- The display of a descriptor loses nothing that a declaration can say. -/
theorem Descriptor.IsReadable.eq_of_display {d d' : Descriptor} (hd : d.IsReadable)
    (hd' : d'.IsReadable) (h : d.display = d'.display) : d = d' := by
  have hsame : statementOf "x" d = statementOf "x" d' := by
    simp only [statementOf, typeText, suffixText, h]
  have hdeclares := declares_statementOf isName_x hd
  rw [hsame] at hdeclares
  exact (hdeclares.unique (declares_statementOf isName_x hd')).2

/-- Writing the entries of a table as declarations, in any order, and reading the text again gives
the table back. The descriptors that can be read differ in how they are displayed, and a name that
can be read can be declared with any of them. -/
theorem parse_reprinted {source : String} {table : Table} (h : parse source = .ok table) :
    (∀ (entries : List (String × Descriptor)) (text : String), entries.Perm table.toList →
      lines text.toList = entries.map lineOf → parse text = .ok table) ∧
    (∀ entries : List (String × Descriptor), entries.Perm table.toList →
      parse (sourceOf entries) = .ok table) ∧
    ∀ (source' : String) (table' : Table), parse source' = .ok table' →
      ∀ (name name' : String) (d d' : Descriptor), table[name]? = some d →
        table'[name']? = some d' →
          (d.display = d'.display → d = d') ∧
            parse (sourceOf [(name, d')]) = .ok ((∅ : Table).insert name d') := by
  have hreadable : ∀ entries : List (String × Descriptor), entries.Perm table.toList →
      ∀ entry ∈ entries, IsName entry.1.toList ∧ entry.2.IsReadable := by
    intro entries hperm entry hmem
    exact isName_and_isReadable_of_parse h (Table.mem_toList_iff.1 (hperm.mem_iff.1 hmem))
  have hreprinted : ∀ (entries : List (String × Descriptor)) (text : String),
      entries.Perm table.toList → lines text.toList = entries.map lineOf →
        parse text = .ok table := by
    intro entries text hperm hlines
    refine parse_of_lines (hreadable entries hperm) (fun name d ↦ ?_) hlines
    rw [hperm.mem_iff, Table.mem_toList_iff]
  refine ⟨hreprinted, ?_, ?_⟩
  · intro entries hperm
    exact hreprinted entries _ hperm (lines_sourceOf (hreadable entries hperm))
  · intro source' table' h' name name' d d' hd hd'
    obtain ⟨hname, hdescriptor⟩ := isName_and_isReadable_of_parse h hd
    obtain ⟨-, hdescriptor'⟩ := isName_and_isReadable_of_parse h' hd'
    refine ⟨hdescriptor.eq_of_display hdescriptor', ?_⟩
    have hentry : ∀ entry ∈ [(name, d')], IsName entry.1.toList ∧ entry.2.IsReadable := by
      intro entry hmem
      rw [List.mem_singleton.1 hmem]
      exact ⟨hname, hdescriptor'⟩
    refine parse_of_lines hentry (fun other e ↦ ?_) (lines_sourceOf hentry)
    rw [Table.getElem?_insert, Table.getElem?_empty, List.mem_singleton, Prod.mk.injEq]
    split
    · rename_i hother
      rw [Option.some.injEq, ← hother, and_iff_right rfl, eq_comm]
    · rename_i hother
      simp [Ne.symm hother]

/-- Names that look like a directive, a bracket or half a comment, and the longest array. -/
def oddSource : String :=
  "uniform sampler2D #a; uniform vec1[2] x;// uniform\nuniform bvec1 a]/; uniform mat4 é[3] ;" ++
    "uniform float /[+018446744073709551615];"

theorem parse_reprinted_oddSource :
    ∃ table, parse oddSource = .ok table ∧
      sourceOf table.toList = "uniform int #a;\nuniform float /[18446744073709551615];\n" ++
        "uniform ivec1 a]/;\nuniform float x;\nuniform mat4 é[3];\n" ∧
      parse (sourceOf table.toList.reverse) = .ok table := by
  have htext : (parse oddSource).toOption.map (fun table ↦ sourceOf table.toList) =
      some ("uniform int #a;\nuniform float /[18446744073709551615];\n" ++
        "uniform ivec1 a]/;\nuniform float x;\nuniform mat4 é[3];\n") := by
    decide +kernel
  cases hparse : parse oddSource with
  | error e =>
    rw [hparse] at htext
    cases htext
  | ok table =>
    rw [hparse] at htext
    exact ⟨table, rfl, Option.some.inj htext,
      (parse_reprinted hparse).2.1 table.toList.reverse (List.reverse_perm _)⟩

end Shading.Uniform
