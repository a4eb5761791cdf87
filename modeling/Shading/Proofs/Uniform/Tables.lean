import Mathlib.Data.List.TakeWhile
import Std.Data.String.ToNat
import Shading.Uniform.Source

/-!
# What a table can hold

A statement that is read without a fault leaves the table alone or adds one entry to it, so every
entry that is new comes from some statement. The name of an entry has no bracket, for the name of an
array ends where its length begins, and no uniform is without elements. The names of elements have
brackets: they are names of nothing else.
-/

namespace Shading.Uniform

/-- A statement that is taken declares nothing, something known, or something new. -/
theorem declare_cases {statement : List Char} {table table' : Table}
    (h : declare statement table = .ok table') :
    (afterKeyword statement = none ∧ table' = table) ∨
      ∃ rest name d, afterKeyword statement = some rest ∧
        readDeclaration statement rest = .ok (name, d) ∧
          (table[name]? = some d ∧ table' = table ∨
            table[name]? = none ∧ table' = table.insert name d) := by
  unfold declare at h
  cases hkeyword : afterKeyword statement with
  | none =>
    rw [hkeyword] at h
    exact .inl ⟨rfl, (Except.ok.inj h).symm⟩
  | some rest =>
    rw [hkeyword] at h
    cases hread : readDeclaration statement rest with
    | error e =>
      simp only [hread] at h
      cases h
    | ok entry =>
      obtain ⟨name, d⟩ := entry
      simp only [hread, bind, Except.bind] at h
      refine .inr ⟨rest, name, d, rfl, hread, ?_⟩
      cases hknown : table[name]? with
      | some known =>
        simp only [hknown] at h
        split at h
        · rename_i hsame
          exact .inl ⟨by rw [hsame], (Except.ok.inj h).symm⟩
        · cases h
      | none =>
        simp only [hknown] at h
        exact .inr ⟨rfl, (Except.ok.inj h).symm⟩

/-- What every statement keeps, a whole text keeps, even if a fault ends the reading. -/
theorem holds_declareAll {P : Table → Prop} {statements : List (List Char)}
    (hkept : ∀ statement ∈ statements, ∀ table table', P table →
      declare statement table = .ok table' → P table')
    {table : Table} (htable : P table) : P (declareAll statements table).2 := by
  induction statements generalizing table with
  | nil => exact htable
  | cons statement rest ih =>
    rw [declareAll]
    cases hdeclare : declare statement table with
    | ok next =>
      exact ih (fun s hs ↦ hkept s (List.mem_cons_of_mem _ hs))
        (hkept statement List.mem_cons_self table next htable hdeclare)
    | error e => exact htable

/-- The one entry that a statement can add is the one that it declares. -/
theorem entry_of_declare {statement : List Char} {table table' : Table}
    (h : declare statement table = .ok table') {name : String} {d : Descriptor}
    (hd : table'[name]? = some d) :
    table[name]? = some d ∨ ∃ rest, afterKeyword statement = some rest ∧
      readDeclaration statement rest = .ok (name, d) := by
  rcases declare_cases h with
    ⟨-, rfl⟩ | ⟨rest, other, e, hkeyword, hread, ⟨-, rfl⟩ | ⟨-, rfl⟩⟩
  · exact .inl hd
  · exact .inl hd
  · rw [Table.getElem?_insert] at hd
    split at hd
    · rename_i hname
      rw [← hname, ← Option.some.inj hd]
      exact .inr ⟨rest, hkeyword, hread⟩
    · exact .inl hd

/-- An entry that was not there before some statements is declared by one of them. -/
theorem entry_of_declareAll {statements : List (List Char)} {table : Table} {name : String}
    {d : Descriptor} (hd : (declareAll statements table).2[name]? = some d) :
    table[name]? = some d ∨ ∃ statement ∈ statements, ∃ rest,
      afterKeyword statement = some rest ∧ readDeclaration statement rest = .ok (name, d) := by
  refine holds_declareAll (P := fun reached ↦ reached[name]? = some d → _) ?_ .inl hd
  intro statement hmem reached next hreached hdeclare hnext
  rcases entry_of_declare hdeclare hnext with hbefore | hdeclared
  · exact hreached hbefore
  · exact .inr ⟨statement, hmem, hdeclared⟩

/-- Lengths are positive and fit in a word. -/
theorem readLength_bounds {text : List Char} {length : Nat} (h : readLength text = some length) :
    0 < length ∧ length < lengthLimit := by
  unfold readLength at h
  obtain ⟨n, -, hn⟩ := Option.bind_eq_some_iff.1 h
  split at hn
  · rename_i hbounds
    rw [← Option.some.inj hn]
    exact hbounds
  · cases hn

theorem readBrackets_bounds {statement name suffix : List Char} {length : Nat}
    (h : readBrackets statement name suffix = .ok length) : 0 < length ∧ length < lengthLimit := by
  unfold readBrackets at h
  split at h
  · split at h
    · cases h
    · split at h
      · rename_i hlength
        rw [← Except.ok.inj h]
        exact readLength_bounds hlength
      · cases h
  · cases h

theorem bne_bracket_of_not_mem {word : List Char} (h : '[' ∉ word) :
    ∀ c ∈ word, (c != '[') = true := by
  intro c hc
  rw [bne_iff_ne]
  rintro rfl
  exact h hc

/-- The name is what stands in front of the first bracket, and only the empty word has none. -/
theorem readName_ok {statement word name : List Char} {length : Nat}
    (h : readName statement word = .ok (name, length)) :
    name = word.takeWhile (· != '[') ∧ (name = [] → word = []) ∧
      0 < length ∧ length < lengthLimit := by
  have hwhole := List.takeWhile_append_dropWhile (p := (· != '[')) (l := word)
  simp only [readName] at h
  split at h
  · rename_i hrest
    obtain ⟨rfl, rfl⟩ := Prod.mk.inj (Except.ok.inj h)
    rw [hrest, List.append_nil] at hwhole
    exact ⟨rfl, fun hname ↦ by rw [← hwhole, hname], Nat.one_pos, by decide⟩
  · split at h
    · cases h
    · rename_i hname
      cases hbrackets : readBrackets statement (word.takeWhile (· != '[')) _ with
      | error e =>
        rw [hbrackets] at h
        cases h
      | ok n =>
        rw [hbrackets] at h
        obtain ⟨rfl, rfl⟩ := Prod.mk.inj (Except.ok.inj h)
        exact ⟨rfl, fun hnil ↦ absurd hnil hname, readBrackets_bounds hbrackets⟩

/-- The name of a uniform has no bracket. -/
theorem not_mem_of_readName {statement word name : List Char} {length : Nat}
    (h : readName statement word = .ok (name, length)) : '[' ∉ name := by
  rw [(readName_ok h).1]
  intro hmem
  simpa using List.mem_takeWhile_imp hmem

/-- A declaration that can be read is a type and a name, each on its own. -/
theorem readDeclaration_ok {statement rest : List Char} {name : String} {d : Descriptor}
    (h : readDeclaration statement rest = .ok (name, d)) :
    ∃ type word, Text.words rest = [type, word] ∧
      readName statement word = .ok (name.toList, d.arrayLength) ∧
        readType type = some (d.kind, d.baseType, d.width) := by
  unfold readDeclaration at h
  split at h
  · rename_i type word hwords
    cases hname : readName statement word with
    | error e =>
      rw [hname] at h
      cases h
    | ok entry =>
      rw [hname] at h
      simp only [bind, Except.bind] at h
      split at h
      · rename_i htype
        obtain ⟨rfl, rfl⟩ := Prod.mk.inj (Except.ok.inj h)
        exact ⟨type, word, hwords, by rw [hname, String.toList_ofList], htype⟩
      · cases h
  · cases h

/-- Every name is without brackets, and every uniform has at least one element. -/
def Sized (table : Table) : Prop :=
  ∀ (name : String) (d : Descriptor), table[name]? = some d →
    '[' ∉ name.toList ∧ 0 < d.arrayLength

/-- No array of a table is empty. -/
theorem sized_of_parse {source : String} {table : Table} (h : parse source = .ok table) :
    Sized table := by
  intro name d hd
  have hread : (declareAll (statements source.toList) ∅).2 = table := by
    unfold parse parseInto at h
    split at h
    · rename_i heq
      rw [heq, Except.ok.inj h]
    · cases h
  rw [← hread] at hd
  rcases entry_of_declareAll hd with hempty | ⟨statement, -, rest, -, hdeclared⟩
  · rw [Table.getElem?_empty] at hempty
    cases hempty
  · obtain ⟨type, word, -, hword, -⟩ := readDeclaration_ok hdeclared
    exact ⟨not_mem_of_readName hword, (readName_ok hword).2.2.1⟩

theorem bareName_of_notMem {name : String} (h : '[' ∉ name.toList) : bareName name = name := by
  rw [bareName, List.takeWhile_eq_self_iff.2 (bne_bracket_of_not_mem h), String.ofList_toList]

/-- Elements of one array have different names. -/
theorem elementName_injective (name : String) : Function.Injective (elementName name) := by
  intro i j h
  have hlist := congrArg String.toList h
  rw [toList_elementName, toList_elementName, List.append_cancel_left_eq, List.cons.injEq,
    List.append_cancel_right_eq] at hlist
  exact Nat.repr_injective (String.toList_inj.1 hlist.2)

/-- A name without brackets is not that of an element. -/
theorem elementName_ne {other : String} (bare : '[' ∉ other.toList) (name : String) (i : Nat) :
    elementName name i ≠ other := by
  rintro rfl
  exact bare (by simp [toList_elementName])

/-- The name of an element tells the uniform and the index. -/
theorem elementName_inj {name other : String} (bare : '[' ∉ name.toList)
    (bare' : '[' ∉ other.toList) {i j : Nat} :
    elementName name i = elementName other j ↔ name = other ∧ i = j := by
  constructor
  · intro h
    have hname : name = other := by
      rw [← bareName_elementName bare i, h, bareName_elementName bare' j]
    subst hname
    exact ⟨rfl, elementName_injective name h⟩
  · rintro ⟨rfl, rfl⟩
    rfl

end Shading.Uniform
