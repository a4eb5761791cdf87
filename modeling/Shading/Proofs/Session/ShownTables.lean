import Shading.Proofs.Program.Lifetime
import Shading.Proofs.Session.Operation
import Shading.Proofs.Uniform.WellFormed

/-!
# The tables that programs show

A program gets its table when it is linked and keeps it until it is linked again, so whatever table
it shows was read from some text and is well formed. This holds in every context of a session,
whatever the devices answer.
-/

namespace Shading

open Shading.Uniform World

namespace Program

variable {n : Nat} {p : Program n}

/-- Some text declares the table of the program. -/
def ShowsDeclared (p : Program n) : Prop :=
  ∃ source, parse source = .ok p.uniforms

namespace ShowsDeclared

theorem of_empty (h : p.uniforms = ∅) : p.ShowsDeclared := by
  refine ⟨"", ?_⟩
  rw [h]
  rfl

theorem settle (p : Program n) (answer : Except ProgramError Unit) :
    (p.settle answer).1.ShowsDeclared := by
  rcases p.settle_cases answer with ⟨uniforms, -, hparse, hsettle⟩ | ⟨e, -, hsettle⟩
  · rw [hsettle]
    exact ⟨p.source, hparse⟩
  · rw [hsettle]
    exact .of_empty rfl

variable {δ κ : Type} [Device δ κ]

theorem of_binds {p' : Program n} {c c' : Context δ} {done : Except ProgramError Unit}
    {requests : List Request} (h : p.ShowsDeclared)
    (hbinds : Binds (κ := κ) p c p' done c' requests) : p'.ShowsDeclared := by
  cases hbinds with
  | again linked => exact h
  | linked unlinked accepted parsed => exact ⟨p.source, parsed⟩
  | dropped unlinked settled current => exact .of_empty rfl
  | refused unlinked settled other => exact .of_empty rfl

theorem append (h : p.ShowsDeclared) (stage : Stage n) (c : Context δ) :
    ((p.append stage : ContextAction δ κ _).run c).value.1.ShowsDeclared := by
  have hgrown : (p.grow stage).ShowsDeclared := h
  cases hbound : p.bound with
  | true =>
    rw [(run_append_of_bound hbound stage c).1]
    exact hgrown.of_binds (binds_bind _ c)
  | false =>
    rw [(run_append_of_not_bound hbound stage c).1]
    exact hgrown

end ShowsDeclared

end Program

variable {δ κ ε : Type} [Device δ κ] [Environment δ κ ε] {n : Nat}

/-- Only linking and binding change a table, and they leave one that some text declares. -/
theorem showsDeclared_of_change {i : Fin n} {subject : Option ProgramId} {x y : Holdings δ n}
    {deeds : List (Deed n κ)} (hx : ∀ p ∈ x.programs, p.ShowsDeclared)
    (h : Change (ε := ε) i subject x deeds y) : ∀ p ∈ y.programs, p.ShowsDeclared := by
  have hreplaced : ∀ {p p' : Program n} {programs : Multiset (Program n)},
      (∀ q ∈ p ::ₘ programs, q.ShowsDeclared) → p'.ShowsDeclared →
        ∀ q ∈ p' ::ₘ programs, q.ShowsDeclared := by
    intro p p' programs hall hp'
    exact Multiset.forall_mem_cons.2 ⟨hp', (Multiset.forall_mem_cons.1 hall).2⟩
  cases h with
  | compile | refuse | discard | set | setFails | get | isLinked | activeUniforms | note | react =>
    exact hx
  | @assemble w _ programs given _ p linked _ nonempty hrun about =>
    rw [run_within] at hrun
    have hp : p = _ := congrArg Prod.fst (Outcome.mk.inj hrun).1.symm
    rw [(Program.run_assemble i given (context i w)).1] at hp
    rw [Multiset.forall_mem_cons, hp]
    exact ⟨.settle _ _, hx⟩
  | @append w _ programs _ p p' stage _ _ hrun about =>
    rw [run_within] at hrun
    have hp : p' = _ := congrArg Prod.fst (Outcome.mk.inj hrun).1.symm
    rw [hp]
    exact hreplaced hx ((hx p (Multiset.mem_cons_self _ _)).append stage _)
  | @bind w _ programs _ p p' _ _ hrun about =>
    rw [run_within] at hrun
    have hp : p' = _ := congrArg Prod.fst (Outcome.mk.inj hrun).1.symm
    rw [hp]
    exact hreplaced hx ((hx p (Multiset.mem_cons_self _ _)).of_binds (p.binds_bind _))
  | @unbind w _ programs _ p p' _ hrun about =>
    rw [run_within] at hrun
    have hp : p' = _ := (Outcome.mk.inj hrun).1.symm
    rw [hp, (p.run_unbind _).1]
    exact hreplaced hx (hx p (Multiset.mem_cons_self _ _))
  | retire hrun => exact (Multiset.forall_mem_cons.1 hx).2

/-- A program never shows a table that no text declares. -/
theorem exists_parse_eq_ok (devices : Vector δ n) (moves : List (Move n ε)) {slot : String}
    {p : Program n} (live : (Session.after moves (.new devices)).programs[slot]? = some p) :
    ∃ source, parse source = .ok p.uniforms := by
  have hempty : ∀ p ∈ (Session.new devices).holdings.programs, p.ShowsDeclared := by
    intro p hp
    cases Slots.mem_tenants.1 hp with
    | intro slot hslot => cases hslot
  exact Session.holds_after (I := fun _ x ↦ ∀ p ∈ x.programs, p.ShowsDeclared)
    showsDeclared_of_change _ hempty moves p (Slots.mem_tenants.2 ⟨slot, live⟩)

/-- The names by which the elements of a program are located never meet those of its uniforms. -/
theorem wellFormed_uniforms (devices : Vector δ n) (moves : List (Move n ε)) {slot : String}
    {p : Program n} (live : (Session.after moves (.new devices)).programs[slot]? = some p) :
    WellFormed p.uniforms ∧ ElementsApart p.uniforms := by
  have hwell : WellFormed p.uniforms :=
    (exists_parse_eq_ok_iff.1 (exists_parse_eq_ok devices moves live)).1
  exact ⟨hwell, hwell.elementsApart⟩

end Shading
