import Shading.Proofs.InMemory.Access
import Shading.Proofs.Session.Numbers

/-!
# The current program

The context remembers which program is current, the device which one is in use, and a program
whether it is linked and whether it was bound. On the device in memory these agree between any two
operations: either nothing is current and nothing is in use, or one and the same program is both,
and it is linked and bears the mark of being bound.
-/

namespace Shading.InMemory

open Shading.Uniform World

variable {subject : Option ProgramId} {c c' : Context InMemory}
variable {programs programs' : Multiset (Program 1)} {acts : List Act}

theorem lastHandle_submit {n : Nat} (p : Program n) (device : InMemory) :
    ((p.submit : Reply _).run device).state.lastHandle = device.lastHandle := by
  rw [(run_submit p device).2, lastHandle_updateProgram]

/-- Linking does not change which program is in use. -/
theorem current_submit {n : Nat} (p : Program n) (device : InMemory) :
    ((p.submit : Reply _).run device).state.current = device.current := by
  rw [(run_submit p device).2, current_updateProgram]

theorem state_setUniform {n : Nat} (p : Program n) (name : String) (value : HostValue)
    (c : Context InMemory) :
    ((p.setUniform name value).run.run c).state =
      Program.afterWrite c (p.planWrite name c value.toData) :=
  (p.yields_setUniform name c value).2

/-- A read leaves everything as it is. -/
theorem state_getUniform {n : Nat} (p : Program n) (name : String) (c : Context InMemory) :
    ((p.getUniform name).run.run c).state = c :=
  (p.yields_getUniform name c).2

section Frame

variable (c) (plan : Except UniformError (Int × Nat × Upload))

@[simp] theorem current_afterWrite : (Program.afterWrite c plan).current = c.current := by
  unfold Program.afterWrite
  split <;> rfl

@[simp] theorem device_current_afterWrite :
    (Program.afterWrite c plan).device.current = c.device.current := by
  unfold Program.afterWrite
  split <;> simp

@[simp] theorem lastHandle_afterWrite :
    (Program.afterWrite c plan).device.lastHandle = c.device.lastHandle := by
  unfold Program.afterWrite
  split <;> simp

end Frame

/-- A program keeps its handle when it is bound. -/
theorem handle_eq_of_binds {n : Nat} {p p' : Program n} {done : Except ProgramError Unit}
    {asked : List Request} (h : Program.Binds (κ := Request) p c p' done c' asked) :
    p'.handle = p.handle := by
  cases h <;> rfl

theorem lastHandle_eq_of_binds {n : Nat} {p p' : Program n} {done : Except ProgramError Unit}
    {asked : List Request} (h : Program.Binds (κ := Request) p c p' done c' asked) :
    c'.device.lastHandle = c.device.lastHandle := by
  cases h <;> simp [lastHandle_submit]

/-- An effect gives out a handle above all earlier ones, or no handle of a program at all. -/
theorem handles_of_effect
    (h : Effect (ε := List Settings.Setting) subject c programs acts c' programs') :
    (c.device.lastHandle ≤ c'.device.lastHandle ∧
        programs'.map Program.handle ≤ programs.map Program.handle) ∨
      (c.device.lastHandle < c'.device.lastHandle ∧
        programs'.map Program.handle =
          c'.device.lastHandle ::ₘ programs.map Program.handle) := by
  cases h with
  | nothing => exact .inl ⟨le_rfl, le_rfl⟩
  | newStage type sources =>
    rw [Context.newStage, Context.run_ask]
    rcases state_newStage type sources c.device with h | h <;> rw [h]
    · exact .inl ⟨le_rfl, le_rfl⟩
    · exact .inl ⟨Nat.le_succ _, le_rfl⟩
  | destroyStage stage => exact .inl ⟨le_rfl, le_rfl⟩
  | make nonempty about created fresh submitted =>
    rw [run_newProgram] at created
    subst created fresh submitted
    rw [Multiset.map_cons, Program.settle_handle]
    simp only [lastHandle_submit]
    exact .inr ⟨Nat.lt_succ_self _, rfl⟩
  | grow stage unmarked about =>
    rw [Multiset.map_cons, Multiset.map_cons]
    exact .inl ⟨le_rfl, le_rfl⟩
  | bind same binds about =>
    rw [Multiset.map_cons, Multiset.map_cons, handle_eq_of_binds binds,
      lastHandle_eq_of_binds binds]
    rcases same with rfl | ⟨stage, rfl⟩ <;> exact .inl ⟨le_rfl, le_rfl⟩
  | unbind about =>
    rw [Multiset.map_cons, Multiset.map_cons]
    exact .inl ⟨le_rfl, le_rfl⟩
  | @set programs p name value about =>
    rw [state_setUniform, lastHandle_afterWrite]
    exact .inl ⟨le_rfl, le_rfl⟩
  | @get programs p name about =>
    rw [state_getUniform]
    exact .inl ⟨le_rfl, le_rfl⟩
  | isLinked about => exact .inl ⟨le_rfl, le_rfl⟩
  | activeUniforms about => exact .inl ⟨le_rfl, le_rfl⟩
  | retire =>
    rw [state_destroyProgram]
    exact .inl ⟨le_rfl, Multiset.map_le_map (Multiset.le_cons_self _ _)⟩
  | react event => exact .inl ⟨le_rfl, le_rfl⟩

/-- Different programs have different handles, all of them given out before. -/
structure Handled (device : InMemory) (programs : Multiset (Program 1)) : Prop where
  distinct : (programs.map Program.handle).Nodup
  given : ∀ handle ∈ programs.map Program.handle, handle ≤ device.lastHandle

/-- Handles stay distinct and stay among those that were given. -/
theorem Handled.of_effect (hhandled : Handled c.device programs)
    (h : Effect (ε := List Settings.Setting) subject c programs acts c' programs') :
    Handled c'.device programs' := by
  obtain ⟨hdistinct, hgiven⟩ := hhandled
  rcases handles_of_effect h with ⟨hlast, hhandles⟩ | ⟨hlast, hhandles⟩
  · refine ⟨Multiset.nodup_of_le hhandles hdistinct, ?_⟩
    intro handle hmem
    exact (hgiven handle (Multiset.mem_of_le hhandles hmem)).trans hlast
  · constructor
    · rw [hhandles, Multiset.nodup_cons]
      refine ⟨?_, hdistinct⟩
      intro hmem
      exact absurd (hgiven _ hmem) (Nat.not_le_of_lt hlast)
    · intro handle hmem
      rw [hhandles, Multiset.mem_cons] at hmem
      rcases hmem with rfl | hmem
      · exact le_rfl
      · exact (hgiven handle hmem).trans hlast.le

/-- Nothing is current and in use, or one program is both, and ready for its uniforms. -/
def Agrees (c : Context InMemory) (programs : Multiset (Program 1)) : Prop :=
  (c.current = none ∧ c.device.current = none) ∨
    ∃ p ∈ programs, c.current = some p.id ∧ c.device.current = some p.handle ∧
      p.linkState = .linked ∧ p.bound = true

namespace Agrees

/-- Only the current program of the core and that of the device matter. -/
theorem congr (hagrees : Agrees c programs) (hcurrent : c'.current = c.current)
    (hdevice : c'.device.current = c.device.current) : Agrees c' programs := by
  unfold Agrees
  rw [hcurrent, hdevice]
  exact hagrees

/-- A program that is current is among the others if it is not the first. -/
theorem of_ne {p : Program 1} (hagrees : Agrees c (p ::ₘ programs))
    (hne : c.current = some p.id → p.linkState = .linked → p.bound = true → False) :
    Agrees c programs := by
  rcases hagrees with hnone | ⟨q, hq, hcurrent, hdevice, hlinked, hbound⟩
  · exact .inl hnone
  · rcases Multiset.mem_cons.1 hq with rfl | hq
    · exact (hne hcurrent hlinked hbound).elim
    · exact .inr ⟨q, hq, hcurrent, hdevice, hlinked, hbound⟩

theorem cons (p : Program 1) (hagrees : Agrees c programs) : Agrees c (p ::ₘ programs) := by
  rcases hagrees with hnone | ⟨q, hq, hrest⟩
  · exact .inl hnone
  · exact .inr ⟨q, Multiset.mem_cons_of_mem hq, hrest⟩

theorem of_binds {p q q' : Program 1} {done : Except ProgramError Unit} {asked : List Request}
    (hagrees : Agrees c (p ::ₘ programs)) (hid : q.id = p.id)
    (h : Program.Binds (κ := Request) q c q' done c' asked) : Agrees c' (q' ::ₘ programs) := by
  cases h with
  | again linked => exact .inr ⟨_, Multiset.mem_cons_self _ _, rfl, rfl, linked, rfl⟩
  | linked => exact .inr ⟨_, Multiset.mem_cons_self _ _, rfl, rfl, rfl, rfl⟩
  | dropped => exact .inl ⟨rfl, rfl⟩
  | refused unlinked settled other =>
    refine (hagrees.of_ne fun hcurrent _ _ ↦ other ?_).cons _ |>.congr rfl (current_submit q _)
    rw [hcurrent, hid]

/-- Releasing a program that is current leaves nothing current; releasing another one changes
nothing. -/
theorem retire {p : Program 1} (hagrees : Agrees c (p ::ₘ programs))
    (hids : ((p ::ₘ programs).map Program.id).Nodup)
    (hhandles : ((p ::ₘ programs).map Program.handle).Nodup) :
    Agrees
      { c with
        device := ((Device.destroyProgram p.handle : Reply Unit).run c.device).state
        current := if c.current = some p.id then none else c.current }
      programs := by
  rw [state_destroyProgram]
  rcases hagrees with ⟨hcurrent, hdevice⟩ | ⟨q, hq, hcurrent, hdevice, hready⟩
  · left
    simp [hcurrent, hdevice]
  rcases Multiset.mem_cons.1 hq with rfl | hq
  · left
    simp [hcurrent, hdevice]
  · have hid : q.id ≠ p.id := Slots.ne_of_nodup_map_cons hids hq
    have hhandle : q.handle ≠ p.handle := Slots.ne_of_nodup_map_cons hhandles hq
    refine .inr ⟨q, hq, ?_, ?_, hready⟩
    · simp [hcurrent, hid]
    · simp [hdevice, hhandle]

theorem of_effect (hagrees : Agrees c programs)
    (hids : (programs.map Program.id).Nodup) (hhandles : (programs.map Program.handle).Nodup)
    (h : Effect (ε := List Settings.Setting) subject c programs acts c' programs') :
    Agrees c' programs' := by
  cases h with
  | nothing => exact hagrees
  | newStage type sources =>
    refine hagrees.congr rfl ?_
    rw [Context.newStage, Context.run_ask]
    rcases state_newStage type sources c.device with h | h <;> rw [h]
  | destroyStage stage => exact hagrees.congr rfl rfl
  | make nonempty about created fresh submitted =>
    rw [run_newProgram] at created
    subst created fresh submitted
    refine (hagrees.cons _).congr rfl ?_
    simp only [current_submit]
  | grow stage unmarked about =>
    refine (hagrees.of_ne fun _ _ hmarked ↦ ?_).cons _
    rw [unmarked] at hmarked
    cases hmarked
  | @bind _ programs p q _ _ _ same binds about =>
    have hid : q.id = p.id := by
      rcases same with rfl | ⟨stage, rfl⟩ <;> rfl
    exact hagrees.of_binds hid binds
  | unbind about => exact .inl ⟨rfl, rfl⟩
  | @set programs p name value about =>
    rw [state_setUniform]
    exact hagrees.congr (current_afterWrite c _) (device_current_afterWrite c _)
  | @get programs p name about =>
    rw [state_getUniform]
    exact hagrees
  | isLinked about => exact hagrees.congr rfl rfl
  | activeUniforms about => exact hagrees.congr rfl rfl
  | retire => exact hagrees.retire hids hhandles
  | react event => exact hagrees.congr rfl rfl

end Agrees

/-- What is kept along a run: numbers, handles, and the agreement itself. -/
structure Kept (c : Context InMemory) (programs : Multiset (Program 1)) : Prop where
  numbered : Numbered c programs
  handled : Handled c.device programs
  agrees : Agrees c programs

namespace Kept

/-- A context agrees with its device from the start, for there is no program yet. -/
theorem new (settings : Settings) : Kept (Context.new (InMemory.new settings)) 0 :=
  ⟨.new _, ⟨Multiset.nodup_zero, by simp⟩, .inl ⟨rfl, rfl⟩⟩

theorem of_effect (h : Kept c programs)
    (heffect : Effect (ε := List Settings.Setting) subject c programs acts c' programs') :
    Kept c' programs' :=
  ⟨h.numbered.of_effect heffect, h.handled.of_effect heffect,
    h.agrees.of_effect h.numbered.distinct h.handled.distinct heffect⟩

end Kept

/-- What one operation keeps, every run keeps. -/
theorem kept_after (settings : Settings) (moves : List (Move 1 (List Settings.Setting))) :
    Kept ((Session.after moves (.new #v[new settings])).world.context 0)
      (Session.after moves (.new #v[new settings])).programs.tenants := by
  refine Session.holds_of_effects (I := fun _ ↦ Kept) (fun hkept h ↦ hkept.of_effect h) _ ?_ moves
  rw [Session.context_new, Session.tenants_programs_new]
  exact .new settings

/-- The context, the device and the programs in the slots agree on the current program. -/
structure Coherent (s : Session InMemory 1) : Prop where
  current_iff (id : ProgramId) : (s.world.context 0).current = some id ↔
    ∃ (slot : String) (p : Program 1), s.programs[slot]? = some p ∧ p.id = id ∧
      (s.world.context 0).device.current = some p.handle
  none_iff : (s.world.context 0).current = none ↔ (s.world.context 0).device.current = none
  ready {slot : String} {p : Program 1} (live : s.programs[slot]? = some p)
    (current : (s.world.context 0).current = some p.id) : p.linkState = .linked ∧ p.bound = true
  distinct {slot other : String} {p q : Program 1} (first : s.programs[slot]? = some p)
    (second : s.programs[other]? = some q) (same : p.id = q.id ∨ p.handle = q.handle) :
    slot = other

/-- What is kept is more than what has to be shown. -/
theorem Kept.coherent {s : Session InMemory 1}
    (h : Kept (s.world.context 0) s.programs.tenants) : Coherent s := by
  obtain ⟨⟨hids, -⟩, ⟨hhandles, -⟩, hagrees⟩ := h
  refine ⟨?_, ?_, ?_, ?_⟩
  · intro id
    rcases hagrees with ⟨hcurrent, hdevice⟩ | ⟨p, hp, hcurrent, hdevice, -⟩
    · simp [hcurrent, hdevice]
    · rw [hcurrent, hdevice]
      constructor
      · intro h
        obtain ⟨slot, hslot⟩ := Slots.mem_tenants.1 hp
        exact ⟨slot, p, hslot, Option.some.inj h, rfl⟩
      · rintro ⟨slot, q, hq, rfl, hhandle⟩
        -- a handle belongs to one program only
        obtain ⟨other, hother⟩ := Slots.mem_tenants.1 hp
        have hslot := Slots.eq_of_nodup_map hhandles hother hq (Option.some.inj hhandle)
        rw [hslot, hq] at hother
        rw [Option.some.inj hother]
  · rcases hagrees with ⟨hcurrent, hdevice⟩ | ⟨p, hp, hcurrent, hdevice, -⟩
    · simp [hcurrent, hdevice]
    · simp [hcurrent, hdevice]
  · intro slot p hp hcurrent
    rcases hagrees with ⟨hnone, -⟩ | ⟨q, hq, hother, -, hready⟩
    · rw [hnone] at hcurrent
      cases hcurrent
    · obtain ⟨other, hslot⟩ := Slots.mem_tenants.1 hq
      have hsame : q.id = p.id := Option.some.inj (hother.symm.trans hcurrent)
      rw [Slots.eq_of_nodup_map hids hslot hp hsame, hp] at hslot
      rw [Option.some.inj hslot]
      exact hready
  · intro slot other p q hp hq hsame
    rcases hsame with hsame | hsame
    · exact Slots.eq_of_nodup_map hids hp hq hsame
    · exact Slots.eq_of_nodup_map hhandles hp hq hsame

/-- A number that was given out, and that no program in a slot bears. -/
structure Released (id : ProgramId) (s : Session InMemory 1) : Prop where
  given : id.index < (s.world.context 0).nextId
  absent {slot : String} {p : Program 1} (live : s.programs[slot]? = some p) : p.id ≠ id

/-- A program that has been released is current nowhere and will not be again. -/
theorem Released.vacant {id : ProgramId} {s : Session InMemory 1} (h : Released id s) :
    Vacant id (s.world.context 0) s.programs.tenants := by
  refine ⟨h.given, ?_⟩
  intro hmem
  obtain ⟨p, hp, hid⟩ := Multiset.mem_map.1 hmem
  obtain ⟨slot, hslot⟩ := Slots.mem_tenants.1 hp
  exact h.absent hslot hid

/-- Between any two operations all agree on the current program, and it is never one that was
released or that could not be made. -/
theorem coherent_after (settings : Settings) (moves : List (Move 1 (List Settings.Setting))) :
    Coherent (Session.after moves (.new #v[new settings])) ∧
      ∀ earlier later id, moves = earlier ++ later →
        Released id (Session.after earlier (.new #v[new settings])) →
          ((Session.after moves (.new #v[new settings])).world.context 0).current ≠ some id := by
  have hcoherent := (kept_after settings moves).coherent
  refine ⟨hcoherent, ?_⟩
  rintro earlier later id rfl hreleased hcurrent
  have hvacant := Session.holds_of_effects (I := fun _ ↦ Vacant id)
    (fun hvacant h ↦ hvacant.of_effect h) _ hreleased.vacant later
  obtain ⟨slot, p, hp, hid, -⟩ := (hcoherent.current_iff id).1 hcurrent
  rw [Session.after_append] at hp
  exact hvacant.absent (Multiset.mem_map.2 ⟨p, Slots.mem_tenants.2 ⟨slot, hp⟩, hid⟩)

end Shading.InMemory
