import Shading.Proofs.Uniform.Stages

/-!
# The union of the declarations

Reading a source into a table is a loop that checks each declaration against what the table holds
by then. What comes out does not depend on the loop: the reading succeeds exactly if the
declarations are well formed and no two of them, the entries of the table included, give one name
two descriptors, and the table is then the union of both. Otherwise there is a first statement
that is at fault, and the table is the union with the declarations before it.
-/

namespace Shading.Uniform

open Text

/-- The statement is a well-formed declaration. -/
def Declares (statement : List Char) (name : String) (d : Descriptor) : Prop :=
  ∃ rest, afterKeyword statement = some rest ∧ readDeclaration statement rest = .ok (name, d)

/-- What the table and some statements say of a name. -/
def Describes (table : Table) (statements : List (List Char)) (name : String)
    (d : Descriptor) : Prop :=
  table[name]? = some d ∨ ∃ statement ∈ statements, Declares statement name d

/-- The order of the statements does not matter. -/
structure Consistent (table : Table) (statements : List (List Char)) : Prop where
  wellFormed : ∀ statement ∈ statements, ∃ name d, Declares statement name d
  agree : ∀ statement ∈ statements, ∀ name d other, Declares statement name d →
    Describes table statements name other → other = d

/-- The table holds what is described and nothing else. -/
def IsUnion (table : Table) (statements : List (List Char)) (union : Table) : Prop :=
  ∀ name d, union[name]? = some d ↔ Describes table statements name d

/-- The statement cannot be read, or it disagrees with the table or with an earlier statement. -/
def Offends (table : Table) (before : List (List Char)) (statement : List Char)
    (e : DeclarationError) : Prop :=
  (∃ rest, afterKeyword statement = some rest ∧ readDeclaration statement rest = .error e) ∨
    ∃ name d other, Declares statement name d ∧ Describes table before name other ∧ other ≠ d ∧
      e = .inconsistent name

theorem isPrefixOf?_append (before rest : List Char) :
    before.isPrefixOf? (before ++ rest) = some rest := by
  induction before with
  | nil => cases rest <;> rfl
  | cons c before ih => simp [List.isPrefixOf?, ih]

theorem afterKeyword_append {c : Char} (hc : isBlank c = true) (rest : List Char) :
    afterKeyword (keyword ++ c :: rest) = some (c :: rest) := by
  simp only [afterKeyword, isPrefixOf?_append, hc, if_true]

/-- The keyword has a blank behind it. -/
theorem declares_iff {statement : List Char} :
    declares statement = true ↔
      ∃ c rest, statement = "uniform".toList ++ c :: rest ∧ isBlank c = true := by
  constructor
  · intro h
    obtain ⟨rest, hrest⟩ := Option.isSome_iff_exists.1 h
    have heq := eq_append_of_afterKeyword hrest
    unfold afterKeyword at hrest
    split at hrest
    · rename_i c tail _
      split at hrest
      · rename_i hc
        rw [← Option.some.inj hrest] at heq
        exact ⟨c, tail, heq, hc⟩
      · cases hrest
    · cases hrest
  · rintro ⟨c, rest, rfl, hc⟩
    exact Option.isSome_iff_exists.2 ⟨_, afterKeyword_append hc rest⟩

/-- A statement declares at most one uniform. -/
theorem Declares.unique {statement : List Char} {name name' : String} {d d' : Descriptor}
    (h : Declares statement name d) (h' : Declares statement name' d') : name = name' ∧ d = d' := by
  obtain ⟨rest, hrest, hread⟩ := h
  obtain ⟨rest', hrest', hread'⟩ := h'
  rw [hrest] at hrest'
  obtain rfl := Option.some.inj hrest'
  rw [hread] at hread'
  exact Prod.mk.inj (Except.ok.inj hread')

section
variable {table union : Table} {before statements : List (List Char)} {statement : List Char}

theorem describes_append_singleton {name : String} {d : Descriptor} :
    Describes table (before ++ [statement]) name d ↔
      Describes table before name d ∨ Declares statement name d := by
  simp only [Describes, List.mem_append, List.mem_singleton]
  grind

/-- More statements describe more. -/
theorem Describes.of_subset (hsub : before ⊆ statements) {name : String} {d : Descriptor}
    (h : Describes table before name d) : Describes table statements name d := by
  rcases h with h | ⟨s, hs, hd⟩
  · exact .inl h
  · exact .inr ⟨s, hsub hs, hd⟩

theorem Describes.append {name : String} {d : Descriptor} (h : Describes table before name d)
    (after : List (List Char)) : Describes table (before ++ after) name d :=
  h.of_subset (List.subset_append_left before after)

/-- Fewer statements are consistent if more are. -/
theorem Consistent.of_subset (hsub : before ⊆ statements) (h : Consistent table statements) :
    Consistent table before where
  wellFormed s hs := h.wellFormed s (hsub hs)
  agree s hs name d other hd ho := h.agree s (hsub hs) name d other hd (ho.of_subset hsub)

/-- No list is consistent in which a statement offends. -/
theorem Offends.not_consistent {e : DeclarationError} (h : Offends table before statement e)
    (after : List (List Char)) : ¬Consistent table (before ++ statement :: after) := by
  intro hc
  have hmem : statement ∈ before ++ statement :: after := by simp
  rcases h with ⟨rest, hrest, hread⟩ | ⟨name, d, other, hd, ho, hne, -⟩
  · obtain ⟨name, d, rest', hrest', hread'⟩ := hc.wellFormed statement hmem
    rw [hrest] at hrest'
    obtain rfl := Option.some.inj hrest'
    rw [hread] at hread'
    cases hread'
  · exact hne (hc.agree statement hmem name d other hd (ho.append _))

/-- A declaration either is consistent with the ones before it or is the first at fault. -/
theorem Consistent.append_or_offends (h : Consistent table before)
    (hdeclares : declares statement = true) :
    Consistent table (before ++ [statement]) ∨ ∃ e, Offends table before statement e := by
  obtain ⟨rest, hrest⟩ := Option.isSome_iff_exists.1 hdeclares
  cases hread : readDeclaration statement rest with
  | error e => exact .inr ⟨e, .inl ⟨rest, hrest, hread⟩⟩
  | ok entry =>
    obtain ⟨name, d⟩ := entry
    have hd : Declares statement name d := ⟨rest, hrest, hread⟩
    by_cases hagree : ∀ other, Describes table before name other → other = d
    · refine .inl ⟨?_, ?_⟩
      · intro s hs
        rcases List.mem_append.1 hs with hs | hs
        · exact h.wellFormed s hs
        · rw [List.mem_singleton.1 hs]
          exact ⟨name, d, hd⟩
      · intro s hs name' d' other hd' ho
        rw [describes_append_singleton] at ho
        rcases List.mem_append.1 hs with hs | hs
        · rcases ho with ho | ho
          · exact h.agree s hs name' d' other hd' ho
          · obtain ⟨rfl, rfl⟩ := hd.unique ho
            exact (hagree d' (.inr ⟨s, hs, hd'⟩)).symm
        · rw [List.mem_singleton.1 hs] at hd'
          obtain ⟨rfl, rfl⟩ := hd.unique hd'
          rcases ho with ho | ho
          · exact hagree other ho
          · exact (hd.unique ho).2.symm
    · push Not at hagree
      obtain ⟨other, ho, hne⟩ := hagree
      exact .inr ⟨_, .inr ⟨name, d, other, hd, ho, hne, rfl⟩⟩

/-- The order-free condition fails at a first statement, if it fails. -/
theorem consistent_or_exists_first (h : ∀ s ∈ statements, declares s = true) :
    Consistent table statements ∨ ∃ before s after e, statements = before ++ s :: after ∧
      Consistent table before ∧ Offends table before s e := by
  induction statements using List.reverseRecOn with
  | nil => exact .inl ⟨by simp, by simp⟩
  | append_singleton first last ih =>
    rcases ih fun s hs ↦ h s (List.mem_append_left _ hs) with
      hfirst | ⟨before, s, after, e, rfl, hbefore, hs⟩
    · rcases hfirst.append_or_offends (h last (by simp)) with hlast | ⟨e, hlast⟩
      · exact .inl hlast
      · exact .inr ⟨first, last, [], e, rfl, hfirst, hlast⟩
    · exact .inr ⟨before, s, after ++ [last], e, by simp, hbefore, hs⟩

theorem declare_of_declares {name : String} {d : Descriptor} (hd : Declares statement name d) :
    declare statement union = match union[name]? with
      | some known => if known = d then .ok union else .error (.inconsistent name)
      | none => .ok (union.insert name d) := by
  obtain ⟨rest, hrest, hread⟩ := hd
  simp only [declare, hrest, hread]
  rfl

/-- A statement that agrees with all before it joins the union. -/
theorem IsUnion.declare (hunion : IsUnion table before union)
    (hc : Consistent table (before ++ [statement])) :
    ∃ union', declare statement union = .ok union' ∧
      IsUnion table (before ++ [statement]) union' := by
  have hmem : statement ∈ before ++ [statement] := by simp
  obtain ⟨name, d, hd⟩ := hc.wellFormed statement hmem
  rw [declare_of_declares hd]
  cases hknown : union[name]? with
  | some known =>
    have hsame : known = d :=
      hc.agree statement hmem name d known hd (((hunion name known).1 hknown).append _)
    refine ⟨union, if_pos hsame, fun name' d' ↦ ?_⟩
    rw [describes_append_singleton, ← hunion]
    constructor
    · exact .inl
    · rintro (h | h)
      · exact h
      · obtain ⟨rfl, rfl⟩ := hd.unique h
        rw [hknown, hsame]
  | none =>
    refine ⟨union.insert name d, rfl, fun name' d' ↦ ?_⟩
    rw [describes_append_singleton, ← hunion, Table.getElem?_insert]
    constructor
    · intro h
      split at h
      · rename_i hname
        rw [← hname, ← Option.some.inj h]
        exact .inr hd
      · exact .inl h
    · rintro (h | h)
      · rw [if_neg]
        · exact h
        · rintro rfl
          rw [hknown] at h
          cases h
      · obtain ⟨rfl, rfl⟩ := hd.unique h
        rw [if_pos rfl]

/-- A statement that offends is what the reading stops at. -/
theorem IsUnion.declare_of_offends {e : DeclarationError} (hunion : IsUnion table before union)
    (h : Offends table before statement e) : Uniform.declare statement union = .error e := by
  rcases h with ⟨rest, hrest, hread⟩ | ⟨name, d, other, hd, ho, hne, rfl⟩
  · simp only [Uniform.declare, hrest, hread]
    rfl
  · rw [declare_of_declares hd, (hunion name other).2 ho]
    exact if_neg hne

/-- Consistent statements are all read. -/
theorem declareAll_of_consistent (hc : Consistent table statements) :
    ∃ union, declareAll statements table = (.ok (), union) ∧ IsUnion table statements union := by
  induction statements using List.reverseRecOn with
  | nil => exact ⟨table, rfl, fun name d ↦ by simp [Describes]⟩
  | append_singleton first last ih =>
    obtain ⟨union, hread, hunion⟩ := ih (hc.of_subset (List.subset_append_left first [last]))
    obtain ⟨union', hlast, hunion'⟩ := hunion.declare hc
    refine ⟨union', ?_, hunion'⟩
    rw [declareAll_append, hread]
    simp only [declareAll, hlast]

/-- The reading stops at the first statement that offends, and not before. -/
theorem declareAll_of_offends {e : DeclarationError} (hc : Consistent table before)
    (h : Offends table before statement e) (after : List (List Char)) :
    ∃ union, declareAll (before ++ statement :: after) table = (.error e, union) ∧
      IsUnion table before union := by
  obtain ⟨union, hread, hunion⟩ := declareAll_of_consistent hc
  refine ⟨union, ?_, hunion⟩
  rw [declareAll_append, hread]
  simp only [declareAll, hunion.declare_of_offends h]

theorem IsUnion.extends (h : IsUnion table statements union) {name : String} {d : Descriptor}
    (hd : table[name]? = some d) : union[name]? = some d :=
  (h name d).2 (.inl hd)

end

theorem parseInto_eq_declareAll (source : String) (table : Table) :
    parseInto source table = declareAll (declared source.toList) table := by
  rw [parseInto, declared, declareAll_filter]

/-- Reading a source computes the consistent union of its declarations and the table, or stops at
the first declaration that is at fault. -/
theorem parseInto_union (source : String) (table : Table) :
    ((parseInto source table).1 = .ok () ↔ Consistent table (declared source.toList)) ∧
      ((parseInto source table).1 = .ok () →
        IsUnion table (declared source.toList) (parseInto source table).2) ∧
      (∀ e, (parseInto source table).1 = .error e ↔
        ∃ before statement after, declared source.toList = before ++ statement :: after ∧
          Consistent table before ∧ Offends table before statement e ∧
            IsUnion table before (parseInto source table).2) ∧
      ∀ (name : String) (d : Descriptor), table[name]? = some d →
        (parseInto source table).2[name]? = some d := by
  rw [parseInto_eq_declareAll]
  have hdeclares : ∀ s ∈ declared source.toList, declares s = true :=
    fun s hs ↦ (List.mem_filter.1 hs).2
  have hcases : Consistent table (declared source.toList) ∨ _ :=
    consistent_or_exists_first hdeclares
  rcases hcases with hc | ⟨before, s, after, e, hsplit, hbefore, hs⟩
  · obtain ⟨union, hread, hunion⟩ := declareAll_of_consistent hc
    rw [hread]
    refine ⟨by simpa using hc, fun _ ↦ hunion, fun e ↦ ?_, fun name d ↦ hunion.extends⟩
    constructor
    · intro h
      cases h
    · rintro ⟨before, s, after, hsplit, -, hs, -⟩
      rw [hsplit] at hc
      exact absurd hc (hs.not_consistent after)
  · have hnot : ¬Consistent table (declared source.toList) := by
      rw [hsplit]
      exact hs.not_consistent after
    obtain ⟨union, hread, hunion⟩ := declareAll_of_offends hbefore hs after
    rw [← hsplit] at hread
    rw [hread]
    refine ⟨by simpa using hnot, fun h ↦ (nomatch h), fun e' ↦ ?_, fun name d ↦ hunion.extends⟩
    constructor
    · intro h
      obtain rfl := Except.error.inj h
      exact ⟨before, s, after, hsplit, hbefore, hs, hunion⟩
    · rintro ⟨before', s', after', hsplit', hbefore', hs', -⟩
      obtain ⟨union', hread', -⟩ := declareAll_of_offends hbefore' hs' after'
      rw [← hsplit', hread] at hread'
      exact (Prod.mk.inj hread').1

/-- One source declares two uniforms between a directive and a comment. Of the other, the second
declaration is at fault, and the third is not looked at. -/
theorem parseInto_union_notes :
    let noted := "#version 120\nuniform float t; // seconds\nuniform vec2 p[2];"
    let clashing := "uniform float t; // seconds\n#define T t\nuniform int t;\nuniform x;"
    (Consistent ∅ (declared noted.toList) ∧
      IsUnion ∅ (declared noted.toList) (parseInto noted ∅).2 ∧
      (parseInto noted ∅).2.toList =
        [("p", ⟨.vector, .float, .two, 2⟩), ("t", ⟨.scalar, .float, .one, 1⟩)]) ∧
      (parseInto clashing ∅).1 = .error (.inconsistent "t") ∧
      (parseInto clashing ∅).2.toList = [("t", ⟨.scalar, .float, .one, 1⟩)] ∧
      ∃ before statement after, declared clashing.toList = before ++ statement :: after ∧
        Consistent ∅ before ∧ Offends ∅ before statement (.inconsistent "t") ∧
          IsUnion ∅ before (parseInto clashing ∅).2 := by
  intro noted clashing
  obtain ⟨hconsistent, hunion, -, -⟩ := parseInto_union noted ∅
  obtain ⟨-, -, hfirst, -⟩ := parseInto_union clashing ∅
  have hread : (parseInto noted ∅).1 = .ok () := by decide +kernel
  have hfault : (parseInto clashing ∅).1 = .error (.inconsistent "t") := by decide +kernel
  exact ⟨⟨hconsistent.1 hread, hunion hread, by decide +kernel⟩, hfault, by decide +kernel,
    (hfirst _).1 hfault⟩

end Shading.Uniform
