import Shading.Proofs.Uniform.Reprinting

/-!
# Well-formed tables

Reading a source hands on the entries of a table and adds what single statements declare, also if
it ends at a fault. Whatever holds of every declaration therefore holds of all entries, if it did
before: the name is a solid piece of code in front of a bracket, and the kind, the width and the
base type fit together. No more can be said of a table, for every well-formed one is declared by
some text as long as its lengths can be written down. As no name has a bracket, an element of an
array is never taken for a uniform, nor for an element of another array.
-/

namespace Shading.Uniform

/-- Unlike the length of a descriptor that was read, that of a well-formed one has no limit. -/
structure Descriptor.IsWellFormed (d : Descriptor) : Prop where
  length_pos : 0 < d.arrayLength
  scalar : d.kind = .scalar → d.width = .one
  matrix : d.kind = .matrix →
    (d.width = .two ∨ d.width = .three ∨ d.width = .four) ∧ d.baseType = .float

theorem Width.ne_one_iff {w : Width} : w ≠ .one ↔ w = .two ∨ w = .three ∨ w = .four := by
  cases w <;> decide

/-- What can be read is what is well formed and not too long. -/
theorem Descriptor.isReadable_iff {d : Descriptor} :
    d.IsReadable ↔ d.IsWellFormed ∧ d.arrayLength < lengthLimit := by
  constructor
  · rintro ⟨hscalar, hmatrix, hpos, hlt⟩
    refine ⟨⟨hpos, hscalar, fun hkind ↦ ?_⟩, hlt⟩
    exact (hmatrix hkind).imp_left Width.ne_one_iff.1
  · rintro ⟨⟨hpos, hscalar, hmatrix⟩, hlt⟩
    refine ⟨hscalar, fun hkind ↦ ?_, hpos, hlt⟩
    exact (hmatrix hkind).imp_left Width.ne_one_iff.2

/-- Every entry has the name and the descriptor of a uniform. -/
def WellFormed (table : Table) : Prop :=
  ∀ (name : String) (d : Descriptor), table[name]? = some d →
    IsName name.toList ∧ d.IsWellFormed

/-- The names of elements are names of nothing else: of no uniform, and of no other element. -/
structure ElementsApart (table : Table) : Prop where
  uniforms {name other : String} (hname : name ∈ table) (hother : other ∈ table) (i : Nat) :
    elementName name i ≠ other
  elements {name other : String} {i j : Nat} (hname : name ∈ table) (hother : other ∈ table)
    (h : elementName name i = elementName other j) : name = other ∧ i = j

theorem wellFormed_empty : WellFormed ∅ := by
  intro name d hd
  rw [Table.getElem?_empty] at hd
  cases hd

namespace WellFormed

variable {table : Table}

/-- One more entry keeps the table well formed. -/
theorem insert (h : WellFormed table) {name : String} {d : Descriptor}
    (hname : IsName name.toList) (hd : d.IsWellFormed) : WellFormed (table.insert name d) := by
  intro other e he
  rw [Table.getElem?_insert] at he
  split at he
  · rename_i hsame
    rw [← hsame, ← Option.some.inj he]
    exact ⟨hname, hd⟩
  · exact h other e he

/-- The statements of one source have no comments or semicolons that a name could hold. -/
theorem declareAll (h : WellFormed table) (source : List Char) :
    WellFormed (Uniform.declareAll (statements source) table).2 := by
  intro name d hd
  rcases entry_of_declareAll hd with hbefore | ⟨statement, hmem, hdeclared⟩
  · exact h name d hbefore
  · have hdeclares : Declares statement name d := hdeclared
    exact ⟨isName_of_declares hmem hdeclares,
      (Descriptor.isReadable_iff.1 hdeclares.isReadable).1⟩

theorem bare (h : WellFormed table) {name : String} (hname : name ∈ table) :
    '[' ∉ name.toList := by
  obtain ⟨d, hd⟩ := Option.isSome_iff_exists.1 (Std.ExtTreeMap.mem_iff_isSome_getElem?.1 hname)
  exact (h name d hd).1.bare

/-- The names of elements can be told from those of uniforms, and from each other. -/
theorem elementsApart (h : WellFormed table) : ElementsApart table where
  uniforms _ hother i := elementName_ne (h.bare hother) _ i
  elements hname hother heq := (elementName_inj (h.bare hname) (h.bare hother)).1 heq

end WellFormed

/-- A source leaves a well-formed table well formed, whether it is read to its end or to a fault,
and the names of the elements apart from each other and from all names in the table. -/
theorem wellFormed_parseInto (source : String) {table : Table} (h : WellFormed table) :
    WellFormed ∅ ∧ WellFormed (parseInto source table).2 ∧
      ElementsApart (parseInto source table).2 := by
  have hread : WellFormed (parseInto source table).2 := h.declareAll source.toList
  exact ⟨wellFormed_empty, hread, hread.elementsApart⟩

/-- A declaration in a comment, one in a directive, and one behind the faulty statement. -/
def faultySource : String :=
  "uniform mat3 m[2];//uniform int a;\n#uniform int b;\nuniform int /a;uniform vec5 v;uniform int c"

theorem wellFormed_parseInto_faultySource :
    let table : Table := (∅ : Table).insert "x" ⟨.matrix, .float, .two, 3⟩
    let read := parseInto faultySource table
    WellFormed table ∧ read.1 = .error (.malformed "uniform vec5 v") ∧
      read.2.toList = [("/a", ⟨.scalar, .int, .one, 1⟩), ("m", ⟨.matrix, .float, .three, 2⟩),
        ("x", ⟨.matrix, .float, .two, 3⟩)] ∧
      WellFormed read.2 ∧ ElementsApart read.2 := by
  intro table read
  have htable : WellFormed table :=
    wellFormed_empty.insert isName_x ⟨by decide, nofun, fun _ ↦ ⟨.inl rfl, rfl⟩⟩
  exact ⟨htable, and_assoc.1 ⟨by decide +kernel, (wellFormed_parseInto faultySource htable).2⟩⟩

/-- Well-formed tables with lengths in their limit are those that a text declares. -/
theorem exists_parse_eq_ok_iff {table : Table} :
    (∃ source, parse source = .ok table) ↔ WellFormed table ∧
      ∀ (name : String) (d : Descriptor), table[name]? = some d → d.arrayLength < lengthLimit := by
  constructor
  · rintro ⟨source, hparse⟩
    constructor
    · intro name d hd
      obtain ⟨hname, hreadable⟩ := isName_and_isReadable_of_parse hparse hd
      exact ⟨hname, (Descriptor.isReadable_iff.1 hreadable).1⟩
    · intro name d hd
      exact (isName_and_isReadable_of_parse hparse hd).2.length_lt
  · rintro ⟨hwell, hlength⟩
    have hreadable : ∀ entry ∈ table.toList, IsName entry.1.toList ∧ entry.2.IsReadable := by
      rintro ⟨name, d⟩ hmem
      have hd := Table.mem_toList_iff.1 hmem
      obtain ⟨hname, hdescriptor⟩ := hwell name d hd
      exact ⟨hname, Descriptor.isReadable_iff.2 ⟨hdescriptor, hlength name d hd⟩⟩
    exact ⟨sourceOf table.toList, parse_of_lines hreadable (fun _ _ ↦ Table.mem_toList_iff.symm)
      (lines_sourceOf hreadable)⟩

end Shading.Uniform
