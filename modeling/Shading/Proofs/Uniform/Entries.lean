import Shading.Proofs.Text.Pieces
import Shading.Proofs.Uniform.Union

/-!
# What can be declared

The name of a uniform is cut out of a text from which comments are gone already: it is a word of a
statement, and it ends before its first bracket. Nothing else is asked of it. A scalar has a single
component, a matrix has a side of at least two and holds floating point numbers, and the length of
an array fits into sixty-four bits.
-/

namespace Shading.Uniform

open Text

/-- No comment begins in the text. -/
def Uncommented (text : List Char) : Prop :=
  ¬"//".toList <:+: text

theorem uncommented_nil : Uncommented [] :=
  fun h ↦ absurd (List.eq_nil_of_infix_nil h) (by decide)

theorem Uncommented.of_isInfix {text piece : List Char} (h : Uncommented text)
    (hpiece : piece <:+: text) : Uncommented piece :=
  fun hcomment ↦ h (hcomment.trans hpiece)

theorem uncommented_of_not_mem {text : List Char} (h : '/' ∉ text) : Uncommented text :=
  fun hcomment ↦ h (hcomment.subset (by decide))

/-- A character that is no slash keeps the slashes on its sides apart. -/
theorem uncommented_append_cons {first second : List Char} {c : Char} (hc : c ≠ '/')
    (hfirst : Uncommented first) (hsecond : Uncommented second) :
    Uncommented (first ++ c :: second) := by
  have hstep : ∀ {d : Char} {text : List Char}, Uncommented text →
      ¬"//".toList <+: d :: text → Uncommented (d :: text) := by
    intro d text htext hopen hcomment
    exact (List.infix_cons_iff.1 hcomment).elim hopen htext
  induction first with
  | nil =>
    refine hstep hsecond ?_
    intro hopen
    exact hc (List.cons_prefix_cons.1 hopen).1.symm
  | cons d first ih =>
    refine hstep (ih (hfirst.of_isInfix (List.suffix_cons d first).isInfix)) ?_
    intro hopen
    obtain ⟨hd, hnext⟩ := List.cons_prefix_cons.1 hopen
    cases first with
    | nil => exact hc (List.cons_prefix_cons.1 hnext).1.symm
    | cons e first =>
      have he := (List.cons_prefix_cons.1 hnext).1
      exact hfirst ⟨[], first, by rw [← hd, ← he]; rfl⟩

theorem isPrefix_beforeComment (line : List Char) : beforeComment line <+: line := by
  fun_induction beforeComment line with
  | case1 => exact List.prefix_rfl
  | case2 => exact List.nil_prefix
  | case3 c rest _ ih => exact (List.prefix_cons_inj c).2 ih

theorem uncommented_beforeComment (line : List Char) : Uncommented (beforeComment line) := by
  fun_induction beforeComment line with
  | case1 => exact uncommented_nil
  | case2 => exact uncommented_nil
  | case3 c rest hslash ih =>
    intro hcomment
    refine (List.infix_cons_iff.1 hcomment).elim (fun hopen ↦ ?_) ih
    obtain ⟨hc, hnext⟩ := List.cons_prefix_cons.1 hopen
    obtain ⟨tail, htail⟩ := hnext.trans (isPrefix_beforeComment rest)
    exact hslash tail hc.symm htail.symm

theorem beforeComment_eq_self {line : List Char} (h : Uncommented line) :
    beforeComment line = line := by
  fun_induction beforeComment line with
  | case1 => rfl
  | case2 rest => exact absurd ⟨[], rest, rfl⟩ h
  | case3 c rest _ ih => rw [ih (h.of_isInfix (List.suffix_cons c rest).isInfix)]

theorem uncommented_codeOfLine (line : List Char) : Uncommented (codeOfLine line) := by
  by_cases hdirective : IsDirective line
  · rw [codeOfLine_of_directive hdirective]
    exact uncommented_nil
  · rw [codeOfLine_of_not_directive hdirective]
    exact uncommented_beforeComment line

theorem uncommented_fed (lines : List (List Char)) : Uncommented (fed lines) := by
  induction lines with
  | nil => exact uncommented_nil
  | cons line lines ih =>
    rw [fed_cons]
    exact uncommented_append_cons (by decide) (uncommented_codeOfLine line) ih

/-- A statement is plain: comments and semicolons are what it was cut at. -/
theorem plain_of_mem_statements {source statement : List Char}
    (h : statement ∈ statements source) : Uncommented statement ∧ ';' ∉ statement := by
  rw [statements_eq_cut, cut] at h
  obtain ⟨piece, hpiece, rfl⟩ := List.mem_map.1 h
  have htrim := isInfix_trim piece
  refine ⟨(uncommented_fed _).of_isInfix (htrim.trans (infix_of_mem_splitOnP hpiece)), ?_⟩
  intro hmem
  exact absurd (not_of_mem_splitOnP hpiece (htrim.subset hmem)) (by decide)

structure IsName (name : List Char) : Prop where
  ne_nil : name ≠ []
  solid : ∀ c ∈ name, isBlank c = false
  bare : '[' ∉ name
  unended : ';' ∉ name
  uncommented : Uncommented name

theorem isName_x : IsName "x".toList :=
  ⟨by decide, List.forall_mem_singleton.2 (by decide), by decide, by decide,
    uncommented_of_not_mem (by decide)⟩

/-- Whatever is declared by a statement of a text has a name of its own. -/
theorem isName_of_declares {source statement : List Char} {name : String} {d : Descriptor}
    (h : statement ∈ statements source) (hd : Declares statement name d) : IsName name.toList := by
  obtain ⟨rest, hrest, hread⟩ := hd
  obtain ⟨type, word, hwords, hname, -⟩ := readDeclaration_ok hread
  obtain ⟨heq, hempty, -⟩ := readName_ok hname
  obtain ⟨hcomment, hend⟩ := plain_of_mem_statements h
  have hword : word ∈ words rest := by simp [hwords]
  have hpart : name.toList <+: word := heq ▸ List.takeWhile_prefix _
  have hwithin : name.toList <:+: statement := by
    rw [eq_append_of_afterKeyword hrest]
    exact hpart.isInfix.trans
      ((infix_of_mem_words hword).trans (List.suffix_append keyword rest).isInfix)
  exact {
    ne_nil := fun hnil ↦ ne_nil_of_mem_words hword (hempty hnil)
    solid := fun c hc ↦ isBlank_of_mem_words hword (hpart.subset hc)
    bare := not_mem_of_readName hname
    unended := fun hc ↦ hend (hwithin.subset hc)
    uncommented := hcomment.of_isInfix hwithin }

structure Descriptor.IsReadable (d : Descriptor) : Prop where
  scalar : d.kind = .scalar → d.width = .one
  matrix : d.kind = .matrix → d.width ≠ .one ∧ d.baseType = .float
  length_pos : 0 < d.arrayLength
  length_lt : d.arrayLength < lengthLimit

theorem readSized_ok {family : List Char} {digit : Nat} {kind : Kind} {base : BaseType}
    {width : Width} (h : readSized family digit = some (kind, base, width)) :
    kind ≠ .scalar ∧ (kind = .matrix → width ≠ .one ∧ base = .float) := by
  unfold readSized at h
  obtain ⟨w, -, hsized⟩ := Option.bind_eq_some_iff.1 h
  split at hsized
  · rename_i hmatrix
    obtain ⟨rfl, rfl, rfl⟩ := hsized
    obtain ⟨rfl, hwidth⟩ := hmatrix
    exact ⟨Kind.noConfusion, fun _ ↦ ⟨hwidth, by decide⟩⟩
  · split at hsized
    · cases hsized
    · obtain ⟨rfl, rfl, rfl⟩ := hsized
      exact ⟨Kind.noConfusion, Kind.noConfusion⟩

theorem readType_ok {word : List Char} {kind : Kind} {base : BaseType} {width : Width}
    (h : readType word = some (kind, base, width)) :
    (kind = .scalar → width = .one) ∧ (kind = .matrix → width ≠ .one ∧ base = .float) := by
  have hscalar : ∀ family, some (Kind.scalar, baseTypeOf family, Width.one) =
      some (kind, base, width) →
        (kind = .scalar → width = .one) ∧ (kind = .matrix → width ≠ .one ∧ base = .float) := by
    rintro family ⟨⟩
    exact ⟨fun _ ↦ rfl, Kind.noConfusion⟩
  unfold readType at h
  split at h
  · split at h
    · obtain ⟨hkind, hmatrix⟩ := readSized_ok h
      exact ⟨fun heq ↦ absurd heq hkind, hmatrix⟩
    · exact hscalar word h
  · exact hscalar word h

theorem Declares.isReadable {statement : List Char} {name : String} {d : Descriptor}
    (h : Declares statement name d) : d.IsReadable := by
  obtain ⟨rest, -, hread⟩ := h
  obtain ⟨type, word, -, hname, htype⟩ := readDeclaration_ok hread
  obtain ⟨-, -, hpos, hlt⟩ := readName_ok hname
  obtain ⟨hscalar, hmatrix⟩ := readType_ok htype
  exact ⟨hscalar, hmatrix, hpos, hlt⟩

theorem consistent_of_declareAll {statements : List (List Char)} {table union : Table}
    (hdeclares : ∀ s ∈ statements, declares s = true)
    (h : declareAll statements table = (.ok (), union)) : Consistent table statements := by
  rcases consistent_or_exists_first hdeclares with hc | ⟨before, s, after, e, rfl, hbefore, hs⟩
  · exact hc
  · obtain ⟨union', hread, -⟩ := declareAll_of_offends hbefore hs after
    cases h.symm.trans hread

theorem isUnion_of_declareAll {statements : List (List Char)} {table union : Table}
    (hdeclares : ∀ s ∈ statements, declares s = true)
    (h : declareAll statements table = (.ok (), union)) : IsUnion table statements union := by
  obtain ⟨union', hread, hunion⟩ :=
    declareAll_of_consistent (consistent_of_declareAll hdeclares h)
  obtain rfl := (Prod.mk.inj (h.symm.trans hread)).2
  exact hunion

/-- Every declaration in a text that can be read is well formed. -/
theorem wellFormed_of_parse {source : String} {table : Table} (h : parse source = .ok table) :
    ∀ statement ∈ declared source.toList, ∃ name d, Declares statement name d := by
  rw [parse_eq_tableOf, tableOf_eq_ok_iff] at h
  exact (consistent_of_declareAll (fun s hs ↦ (List.mem_filter.1 hs).2) h).wellFormed

/-- The entries of a table that was read are those that the text declares. -/
theorem getElem?_eq_some_iff_declares {source : String} {table : Table}
    (h : parse source = .ok table) (name : String) (d : Descriptor) :
    table[name]? = some d ↔ ∃ statement ∈ declared source.toList, Declares statement name d := by
  rw [parse_eq_tableOf, tableOf_eq_ok_iff] at h
  have hunion : IsUnion ∅ (declared source.toList) table :=
    isUnion_of_declareAll (fun s hs ↦ (List.mem_filter.1 hs).2) h
  rw [hunion name d, Describes, Table.getElem?_empty]
  simp

theorem isName_and_isReadable_of_parse {source : String} {table : Table}
    (h : parse source = .ok table) {name : String} {d : Descriptor}
    (hd : table[name]? = some d) :
    IsName name.toList ∧ d.IsReadable := by
  obtain ⟨statement, hmem, hdeclares⟩ := (getElem?_eq_some_iff_declares h name d).1 hd
  exact ⟨isName_of_declares (List.mem_filter.1 hmem).1 hdeclares, hdeclares.isReadable⟩

end Shading.Uniform
