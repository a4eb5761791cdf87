import Shading.Proofs.Uniform.Tables

/-!
# Reading a source again

A table never loses an entry, so a statement that was read without a fault finds its entry there
ever after and has nothing to add. A second reading of a source therefore passes over everything
that the first one read. If the first one ended at a fault, the second one meets the same statement
with the same table, and ends there with the same error.
-/

namespace Shading.Uniform

/-- Every entry of the one table is in the other. -/
def Extends (larger table : Table) : Prop :=
  ∀ (name : String) (d : Descriptor), table[name]? = some d → larger[name]? = some d

theorem Extends.refl (table : Table) : Extends table table :=
  fun _ _ hd ↦ hd

section

variable {statement : List Char} {table table' larger : Table}

theorem Extends.trans (h : Extends larger table') (h' : Extends table' table) :
    Extends larger table :=
  fun name d hd ↦ h name d (h' name d hd)

theorem extends_of_declare (h : declare statement table = .ok table') : Extends table' table := by
  rcases declare_cases h with ⟨-, rfl⟩ | ⟨-, name, d, -, -, ⟨-, rfl⟩ | ⟨hnew, rfl⟩⟩
  · exact .refl _
  · exact .refl _
  · intro other e he
    have hname : name ≠ other := by
      rintro rfl
      rw [hnew] at he
      cases he
    rw [Table.getElem?_insert, if_neg hname]
    exact he

theorem extends_declareAll (statements : List (List Char)) (table : Table) :
    Extends (declareAll statements table).2 table :=
  holds_declareAll (fun _ _ _ _ hkept hdeclare ↦ (extends_of_declare hdeclare).trans hkept)
    (.refl table)

/-- A statement that was read without a fault adds nothing to a table that has its entry. -/
theorem declare_of_extends (h : declare statement table = .ok table')
    (hlarger : Extends larger table') : declare statement larger = .ok larger := by
  rcases declare_cases h with ⟨hkeyword, -⟩ | ⟨rest, name, d, hkeyword, hread, hentry⟩
  · simp only [declare, hkeyword]
  · have hknown : table'[name]? = some d := by
      rcases hentry with ⟨hknown, rfl⟩ | ⟨-, rfl⟩
      · exact hknown
      · rw [Table.getElem?_insert, if_pos rfl]
    simp only [declare, hkeyword, hread, bind, Except.bind, hlarger name d hknown, if_true]

end

theorem declareAll_again (statements : List (List Char)) (table : Table) :
    declareAll statements (declareAll statements table).2 = declareAll statements table := by
  induction statements generalizing table with
  | nil => rfl
  | cons statement rest ih =>
    cases hdeclare : declare statement table with
    | ok next =>
      -- the table at the end extends the one right behind the statement
      have hfirst : declareAll (statement :: rest) table = declareAll rest next := by
        rw [declareAll, hdeclare]
      have hpassed := declare_of_extends hdeclare (extends_declareAll rest next)
      rw [hfirst, declareAll, hpassed]
      exact ih next
    | error e =>
      -- the fault left the table as the statement found it
      have hfirst : declareAll (statement :: rest) table = (.error e, table) := by
        rw [declareAll, hdeclare]
      rw [hfirst, hfirst]

/-- A source can be read again with the same result, and the table stays as the first reading left
it, even if that ended at a fault. -/
theorem parseInto_again (source : String) (table : Table) :
    parseInto source (parseInto source table).2 = parseInto source table :=
  declareAll_again (statements source.toList) table

/-- The first declaration is kept, and the second one is at fault both times. -/
example :
    let first := parseInto "uniform float a; uniform vec2 a; uniform int n;" ∅
    let second := parseInto "uniform float a; uniform vec2 a; uniform int n;" first.2
    second.1 = .error (.inconsistent "a") ∧ second.2.toList = first.2.toList ∧
      first.2.toList = [("a", ⟨.scalar, .float, .one, 1⟩)] := by
  decide +kernel

end Shading.Uniform
