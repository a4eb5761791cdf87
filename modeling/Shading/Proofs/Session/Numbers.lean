import Shading.Proofs.Program.Quiet
import Shading.Proofs.Session.OneContext

/-!
# Program numbers

The context gives every program the next number, whether or not the program can be linked, and
never gives a number twice. So the programs of a context have different numbers, and a number that
no program bears any more is never borne again.
-/

namespace Shading

open World

variable {δ κ ε : Type} [Device δ κ] [Environment δ κ ε]
variable {subject : Option ProgramId} {c c' : Context δ} {programs programs' : Multiset (Program 1)}
variable {acts : List Act}

namespace Program.Binds

variable {n : Nat} {p p' : Program n} {done : Except ProgramError Unit} {asked : List Request}

omit [Environment δ κ ε]

theorem id_eq (h : Binds (κ := κ) p c p' done c' asked) : p'.id = p.id := by
  cases h <;> rfl

theorem nextId_eq (h : Binds (κ := κ) p c p' done c' asked) : c'.nextId = c.nextId := by
  cases h <;> rfl

end Program.Binds

omit [Device δ κ] [Environment δ κ ε] in
theorem Quiet.nextId_eq {α : Type} {x : ContextAction δ κ α} (hx : Quiet x) (c : Context δ) :
    (x.run c).state.nextId = c.nextId := by
  obtain ⟨⟨device, hstate⟩, -⟩ := hx c
  rw [hstate]

/-- An effect gives out the next number, or no number at all. -/
theorem Effect.ids (h : Effect (ε := ε) subject c programs acts c' programs') :
    (c'.nextId = c.nextId ∧ programs'.map Program.id ≤ programs.map Program.id) ∨
      (c'.nextId = c.nextId + 1 ∧
        programs'.map Program.id = ⟨c.nextId⟩ ::ₘ programs.map Program.id) := by
  cases h with
  | nothing => exact .inl ⟨rfl, le_rfl⟩
  | newStage type sources => exact .inl ⟨by rw [Context.newStage, Context.run_ask], le_rfl⟩
  | destroyStage stage => exact .inl ⟨by rw [Context.destroyStage, Context.run_ask], le_rfl⟩
  | make nonempty about created fresh submitted =>
    rw [Multiset.map_cons, Program.settle_id, fresh]
    exact .inr ⟨rfl, rfl⟩
  | grow stage unmarked about =>
    rw [Multiset.map_cons, Multiset.map_cons]
    exact .inl ⟨rfl, le_rfl⟩
  | bind same binds about =>
    rw [Multiset.map_cons, Multiset.map_cons, binds.id_eq, binds.nextId_eq]
    rcases same with rfl | ⟨stage, rfl⟩ <;> exact .inl ⟨rfl, le_rfl⟩
  | unbind about =>
    rw [Multiset.map_cons, Multiset.map_cons]
    exact .inl ⟨rfl, le_rfl⟩
  | @set programs p name value about =>
    exact .inl ⟨(p.quiet_setUniform name value).nextId_eq c, le_rfl⟩
  | @get programs p name about =>
    exact .inl ⟨(p.quiet_getUniform name).nextId_eq c, le_rfl⟩
  | isLinked about => exact .inl ⟨by rw [Context.isLinked, Context.run_ask], le_rfl⟩
  | activeUniforms about => exact .inl ⟨by rw [Context.activeUniforms, Context.run_ask], le_rfl⟩
  | retire => exact .inl ⟨rfl, Multiset.map_le_map (Multiset.le_cons_self _ _)⟩
  | react event => exact .inl ⟨rfl, le_rfl⟩

/-- Different programs have different numbers, all of them given out before. -/
structure Numbered (c : Context δ) (programs : Multiset (Program 1)) : Prop where
  distinct : (programs.map Program.id).Nodup
  given : ∀ id ∈ programs.map Program.id, id.index < c.nextId

namespace Numbered

omit [Device δ κ] in
theorem new (device : δ) : Numbered (Context.new device) 0 :=
  ⟨Multiset.nodup_zero, by simp⟩

omit [Device δ κ] [Environment δ κ ε] in
/-- The number that is given next is borne by no program yet. -/
theorem next_ne (hnumbered : Numbered c programs) {p : Program 1} (hp : p ∈ programs) :
    some (⟨c.nextId⟩ : ProgramId) ≠ some p.id := by
  intro heq
  have hgiven := hnumbered.given p.id (Multiset.mem_map_of_mem _ hp)
  rw [← Option.some.inj heq] at hgiven
  exact Nat.lt_irrefl _ hgiven

theorem of_effect (hnumbered : Numbered c programs)
    (h : Effect (ε := ε) subject c programs acts c' programs') : Numbered c' programs' := by
  obtain ⟨hdistinct, hgiven⟩ := hnumbered
  rcases h.ids with ⟨hnext, hids⟩ | ⟨hnext, hids⟩
  · refine ⟨Multiset.nodup_of_le hids hdistinct, ?_⟩
    intro id hid
    rw [hnext]
    exact hgiven id (Multiset.mem_of_le hids hid)
  · constructor
    · rw [hids, Multiset.nodup_cons]
      refine ⟨?_, hdistinct⟩
      intro hmem
      exact absurd (hgiven _ hmem) (Nat.lt_irrefl _)
    · intro id hid
      rw [hids, Multiset.mem_cons] at hid
      rcases hid with rfl | hid
      · rw [hnext]
        exact Nat.lt_succ_self _
      · have := hgiven id hid
        omega

end Numbered

/-- A number that was given out and that no program bears. -/
structure Vacant (id : ProgramId) (c : Context δ) (programs : Multiset (Program 1)) : Prop where
  given : id.index < c.nextId
  absent : id ∉ programs.map Program.id

theorem Vacant.of_effect {id : ProgramId} (hvacant : Vacant id c programs)
    (h : Effect (ε := ε) subject c programs acts c' programs') : Vacant id c' programs' := by
  obtain ⟨hgiven, habsent⟩ := hvacant
  rcases h.ids with ⟨hnext, hids⟩ | ⟨hnext, hids⟩
  · exact ⟨hnext ▸ hgiven, fun hmem ↦ habsent (Multiset.mem_of_le hids hmem)⟩
  · refine ⟨by omega, ?_⟩
    rw [hids, Multiset.mem_cons]
    rintro (rfl | hmem)
    · exact Nat.lt_irrefl _ hgiven
    · exact habsent hmem

end Shading
