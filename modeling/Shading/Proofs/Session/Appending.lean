import Shading.Proofs.InMemory.Device
import Shading.Proofs.Session.FilledSlots
import Shading.Proofs.Session.Numbers

/-!
# Appending and the current program

A program that is current bears the mark of being bound, so appending a stage to it links and
binds it again. The mark goes stale when another program is bound over it, or when it is unbound
through another program. Appending to a program with a stale mark binds it as well, and so takes
the place of the current program; only if it cannot be linked, or bears no mark, is the current
program left in peace.
-/

namespace Shading

open Shading.Uniform World

variable {δ κ ε : Type} [Device δ κ] [Environment δ κ ε]

/-- A view of the program that a device uses: the one that it was last asked to use. -/
structure Reports (inUse : δ → Option Nat) : Prop where
  useProgram (program : Option Nat) (d : δ) :
    inUse ((Device.useProgram program : Action κ δ Unit).run d).state = program
  attachStage (program : Nat) (stage : Shader) (d : δ) :
    inUse ((Device.attachStage program stage : Action κ δ Unit).run d).state = inUse d
  linkProgram (program : Nat) (d : δ) :
    inUse ((Device.linkProgram program : Action κ δ _).run d).state = inUse d

theorem InMemory.reports_current : Reports InMemory.current where
  useProgram program d := by rw [run_useProgram]
  attachStage program stage d := by rw [run_attachStage, current_updateProgram]
  linkProgram program d := by rw [(run_linkProgram program d).2, current_updateProgram]

namespace Reports

variable {inUse : δ → Option Nat} {n : Nat}

omit [Environment δ κ ε]

/-- To attach stages does not change the program in use. -/
theorem attachAll (h : Reports inUse) (handle : Nat) (stages : List (Stage n)) (d : δ) :
    inUse ((Program.attachAll handle stages : Action κ δ Unit).run d).state = inUse d := by
  induction stages generalizing d with
  | nil => rfl
  | cons stage stages ih =>
    calc inUse ((Program.attachAll handle (stage :: stages) : Action κ δ Unit).run d).state
        = inUse ((Device.attachStage handle stage.toShader : Action κ δ Unit).run d).state :=
          ih _
      _ = inUse d := h.attachStage handle stage.toShader d

theorem submit (h : Reports inUse) (p : Program n) (d : δ) :
    inUse ((p.submit : Action κ δ _).run d).state = inUse d := by
  rw [Program.run_submit, h.linkProgram, h.attachAll]

end Reports

namespace Program

variable {n : Nat} {p p' : Program n} {c c' : Context δ} {inUse : δ → Option Nat}
variable {done : Except ProgramError Unit}

/-- What an attempt to put a program to use makes of the current program: it takes its place, or
leaves none if the program itself was current and failed, or leaves it alone. -/
inductive Displaces (inUse : δ → Option Nat) (p : Program n) (c c' : Context δ) :
    Except ProgramError Unit → Prop
  | taken (current : c'.current = some p.id) (used : inUse c'.device = some p.handle) :
      Displaces inUse p c c' (.ok ())
  | cleared (e) (own : c.current = some p.id) (current : c'.current = none)
      (used : inUse c'.device = none) : Displaces inUse p c c' (.error e)
  | spared (e) (other : c.current ≠ some p.id) (current : c'.current = c.current)
      (used : inUse c'.device = inUse c.device) : Displaces inUse p c c' (.error e)

omit [Environment δ κ ε]

/-- Binding puts the program in the place of the current one, or out of it. -/
theorem Binds.displaces {asked : List Request} (hreports : Reports inUse)
    (h : Binds (κ := κ) p c p' done c' asked) : Displaces inUse p c c' done := by
  cases h with
  | again linked => exact .taken rfl (hreports.useProgram _ _)
  | linked unlinked accepted parsed => exact .taken rfl (hreports.useProgram _ _)
  | dropped unlinked settled current => exact .cleared _ current rfl (hreports.useProgram _ _)
  | refused unlinked settled other => exact .spared _ other rfl (hreports.submit p _)

omit [Device δ κ] in
/-- Growing changes neither the number nor the handle. -/
theorem Displaces.of_grow {stage : Stage n} (h : Displaces inUse (p.grow stage) c c' done) :
    Displaces inUse p c c' done := by
  cases h with
  | taken current used => exact .taken current used
  | cleared e own current used => exact .cleared e own current used
  | spared e other current used => exact .spared e other current used

/-- To append to a program that is marked as bound displaces the current one. -/
theorem displaces_append (hreports : Reports inUse) (hbound : p.bound = true) (stage : Stage n)
    (c : Context δ) :
    Displaces inUse p c ((p.append stage : ContextAction δ κ _).run c).state
      ((p.append stage : ContextAction δ κ _).run c).value.2 := by
  obtain ⟨hvalue, hstate, -⟩ := run_append_of_bound (κ := κ) hbound stage c
  rw [hvalue, hstate]
  exact (((p.grow stage).binds_bind (κ := κ) c).displaces hreports).of_grow

end Program

/-- The current program, if there is one, bears the mark of being bound. -/
def Marked (c : Context δ) (programs : Multiset (Program 1)) : Prop :=
  c.current = none ∨ ∃ p ∈ programs, c.current = some p.id ∧ p.bound = true

namespace Marked

variable {c c' : Context δ} {programs programs' : Multiset (Program 1)} {p : Program 1}

omit [Device δ κ] [Environment δ κ ε]

/-- Only the current program of the context matters. -/
theorem congr (h : Marked c programs) (hcurrent : c'.current = c.current) :
    Marked c' programs := by
  unfold Marked
  rwa [hcurrent]

theorem cons (p : Program 1) (h : Marked c programs) : Marked c (p ::ₘ programs) := by
  rcases h with h | ⟨q, hq, hrest⟩
  · exact .inl h
  · exact .inr ⟨q, Multiset.mem_cons_of_mem hq, hrest⟩

theorem of_ne (h : Marked c (p ::ₘ programs))
    (hne : c.current = some p.id → p.bound = true → False) : Marked c programs := by
  rcases h with h | ⟨q, hq, hcurrent, hbound⟩
  · exact .inl h
  · rcases Multiset.mem_cons.1 hq with rfl | hq
    · exact (hne hcurrent hbound).elim
    · exact .inr ⟨q, hq, hcurrent, hbound⟩

theorem of_binds [Device δ κ] {q q' : Program 1} {done : Except ProgramError Unit}
    {asked : List Request} (hmarked : Marked c (p ::ₘ programs)) (hid : q.id = p.id)
    (h : Program.Binds (κ := κ) q c q' done c' asked) : Marked c' (q' ::ₘ programs) := by
  cases h with
  | again linked => exact .inr ⟨_, Multiset.mem_cons_self _ _, rfl, rfl⟩
  | linked => exact .inr ⟨_, Multiset.mem_cons_self _ _, rfl, rfl⟩
  | dropped => exact .inl rfl
  | refused unlinked settled other =>
    refine (hmarked.of_ne fun hcurrent _ ↦ other ?_).cons _ |>.congr rfl
    rw [hcurrent, hid]

theorem of_effect [Device δ κ] [Environment δ κ ε] {subject : Option ProgramId} {acts : List Act}
    (hmarked : Marked c programs)
    (h : Effect (ε := ε) subject c programs acts c' programs') : Marked c' programs' := by
  cases h with
  | nothing => exact hmarked
  | newStage type sources =>
    rw [Context.newStage, Context.run_ask]
    exact hmarked.congr rfl
  | destroyStage stage =>
    rw [Context.destroyStage, Context.run_ask]
    exact hmarked.congr rfl
  | make nonempty about created fresh submitted => exact (hmarked.cons _).congr rfl
  | grow stage unmarked about =>
    refine (hmarked.of_ne fun _ hbound ↦ ?_).cons _
    rw [unmarked] at hbound
    cases hbound
  | @bind _ programs p q _ _ _ same binds about =>
    have hid : q.id = p.id := by
      rcases same with rfl | ⟨stage, rfl⟩ <;> rfl
    exact hmarked.of_binds hid binds
  | unbind about => exact .inl rfl
  | @set programs p name value about =>
    exact hmarked.congr ((p.quiet_setUniform name value).current_eq c)
  | @get programs p name about => exact hmarked.congr ((p.quiet_getUniform name).current_eq c)
  | isLinked about =>
    rw [Context.isLinked, Context.run_ask]
    exact hmarked.congr rfl
  | activeUniforms about =>
    rw [Context.activeUniforms, Context.run_ask]
    exact hmarked.congr rfl
  | @retire programs p =>
    by_cases hcurrent : c.current = some p.id
    · exact .inl (if_pos hcurrent)
    · exact (hmarked.of_ne fun h _ ↦ hcurrent h).congr (if_neg hcurrent)
  | react event => exact hmarked.congr rfl

end Marked

namespace Session

variable {slot stageSlot : String}

omit [Environment δ κ ε] in
/-- Appending through a slot is appending to the program in it. -/
theorem run_append {n : Nat} {i : Fin n} {s : Session δ n} {p : Program n} {stage : Stage n}
    (live : s.programs[slot]? = some p) (given : s.stages[stageSlot]? = some stage) :
    let attempt := (p.append stage : ContextAction δ κ _).run (context i s.world)
    ((perform i (.append slot stageSlot)).run s).value =
        (attempt.value.2.map fun _ ↦ .done).mapError .program ∧
      context i ((perform i (.append slot stageSlot)).run s).state.world = attempt.state := by
  rw [perform_append live given]
  exact ⟨rfl, context_set_self _ _ _⟩

/-- The current program carries the mark. -/
theorem bound_of_current (device : δ) (moves : List (Move 1 ε)) {p : Program 1}
    (live : (after moves (.new #v[device])).programs[slot]? = some p)
    (current : ((after moves (.new #v[device])).world.context 0).current = some p.id) :
    p.bound = true := by
  have hkept : Numbered ((after moves (.new #v[device])).world.context 0)
        (after moves (.new #v[device])).programs.tenants ∧
      Marked ((after moves (.new #v[device])).world.context 0)
        (after moves (.new #v[device])).programs.tenants := by
    refine holds_of_effects (I := fun _ c programs ↦ Numbered c programs ∧ Marked c programs)
      (fun h heffect ↦ ⟨h.1.of_effect heffect, h.2.of_effect heffect⟩) _ ?_ moves
    rw [context_new, tenants_programs_new]
    exact ⟨.new device, .inl rfl⟩
  obtain ⟨⟨hdistinct, -⟩, hmarked⟩ := hkept
  rcases hmarked with hnone | ⟨q, hq, hother, hbound⟩
  · rw [hnone] at current
    cases current
  · obtain ⟨other, hslot⟩ := Slots.mem_tenants.1 hq
    have hsame : q.id = p.id := Option.some.inj (hother.symm.trans current)
    rw [Slots.eq_of_nodup_map hdistinct hslot live hsame, live] at hslot
    rwa [Option.some.inj hslot]

/-- Appending to the current program leaves it current, or none if it fails. Appending to another
program changes nothing about the current one, unless that program bears a stale mark and can be
linked, in which case it becomes the current one. -/
theorem current_after_append {inUse : δ → Option Nat} (reports : Reports inUse) (device : δ)
    (moves : List (Move 1 ε)) {p : Program 1} {stage : Stage 1}
    (live : (after moves (.new #v[device])).programs[slot]? = some p)
    (given : (after moves (.new #v[device])).stages[stageSlot]? = some stage) :
    let s := after moves (.new #v[device])
    let appended := (perform 0 (.append slot stageSlot)).run s
    let c := context 0 s.world
    let c' := context 0 appended.state.world
    (c.current = some p.id →
      (appended.value = .ok .done ∧ c'.current = some p.id ∧ inUse c'.device = some p.handle) ∨
        ((∃ e, appended.value = .error e) ∧ c'.current = none ∧ inUse c'.device = none)) ∧
    (c.current ≠ some p.id →
      (p.bound = true ∧ appended.value = .ok .done ∧ c'.current = some p.id ∧
          inUse c'.device = some p.handle) ∨
        ((p.bound = false ∨ ∃ e, appended.value = .error e) ∧ c'.current = c.current ∧
          inUse c'.device = inUse c.device)) := by
  intro s appended c c'
  obtain ⟨hvalue, hstate⟩ := run_append (κ := κ) (i := 0) live given
  change appended.value = _ at hvalue
  change c' = _ at hstate
  cases hbound : p.bound with
  | true =>
    have hdisplaces := Program.displaces_append (κ := κ) reports hbound stage c
    rw [← hstate] at hdisplaces
    generalize ((p.append stage : ContextAction δ κ _).run c).value.2 = done at hdisplaces hvalue
    cases hdisplaces with
    | taken current used =>
      exact ⟨fun _ ↦ .inl ⟨hvalue, current, used⟩, fun _ ↦ .inl ⟨rfl, hvalue, current, used⟩⟩
    | cleared e own current used =>
      exact ⟨fun _ ↦ .inr ⟨⟨_, hvalue⟩, current, used⟩, fun hother ↦ absurd own hother⟩
    | spared e other current used =>
      exact ⟨fun hown ↦ absurd hown other, fun _ ↦ .inr ⟨.inr ⟨_, hvalue⟩, current, used⟩⟩
  | false =>
    obtain ⟨-, hsame, -⟩ := Program.run_append_of_not_bound (κ := κ) hbound stage c
    have hkept : c' = c := hstate.trans hsame
    constructor
    · intro hcurrent
      rw [bound_of_current device moves live hcurrent] at hbound
      cases hbound
    · intro _
      exact .inr ⟨.inl rfl, congrArg Context.current hkept,
        congrArg (fun c ↦ inUse c.device) hkept⟩

end Session

namespace InMemory

/-- The mark of the first program is stale when a stage is there to be appended. -/
def staleRun : List (Move 1 (List Settings.Setting)) :=
  [.here (.ofSources "first" "void main() {}" ""), .here (.ofSources "second" "void main() {}" ""),
    .here (.bind "first"), .here (.bind "second"), .here (.newStage "stage" .fragment [""])]

/-- The program that is current and the one that is in use. -/
def inForce (s : Session InMemory 1) : Option ProgramId × Option Nat :=
  ((context 0 s.world).current, (context 0 s.world).device.current)

theorem id_staleRun :
    (Session.after staleRun (.new #v[new .blank])).programs["first"]?.map Program.id =
      some ⟨0⟩ := by
  decide +kernel

theorem isSome_stage_staleRun :
    ((Session.after staleRun (.new #v[new .blank])).stages["stage"]?).isSome = true := by
  decide +kernel

/-- The second program is in use, the first is still marked. -/
theorem inForce_staleRun :
    inForce (Session.after staleRun (.new #v[new .blank])) = (some ⟨1⟩, some 6) := by
  decide +kernel

theorem current_ne_staleRun {p : Program 1} (h : p.id = ⟨0⟩) :
    (context 0 (Session.after staleRun (.new #v[new .blank])).world).current ≠ some p.id := by
  rw [(Prod.mk.inj inForce_staleRun).1, h]
  decide

/-- The first program has taken the place of the second. -/
theorem inForce_append_staleRun :
    inForce ((Session.perform 0 (.append "first" "stage")).run
      (Session.after staleRun (.new #v[new .blank]))).state = (some ⟨0⟩, some 3) := by
  decide +kernel

theorem current_after_append_staleRun :
    ∃ (p : Program 1) (stage : Stage 1),
      (Session.after staleRun (.new #v[new .blank])).programs["first"]? = some p ∧
        (Session.after staleRun (.new #v[new .blank])).stages["stage"]? = some stage ∧
        let s := Session.after staleRun (.new #v[new .blank])
        let appended := (Session.perform 0 (.append "first" "stage")).run s
        let c := context 0 s.world
        let c' := context 0 appended.state.world
        c.current ≠ some p.id ∧ p.bound = true ∧ appended.value = .ok .done ∧
          c'.current = some p.id ∧ c'.device.current = some p.handle := by
  obtain ⟨p, live, hid⟩ := Option.map_eq_some_iff.1 id_staleRun
  obtain ⟨stage, given⟩ := Option.isSome_iff_exists.1 isSome_stage_staleRun
  obtain ⟨hcurrent, -⟩ := Prod.mk.inj inForce_staleRun
  obtain ⟨hafter, -⟩ := Prod.mk.inj inForce_append_staleRun
  have hother := current_ne_staleRun hid
  refine ⟨p, stage, live, given, hother, ?_⟩
  have happend := Session.current_after_append reports_current (new .blank) staleRun live given
  rcases happend.2 hother with hstolen | ⟨-, hkept, -⟩
  · exact hstolen
  · rw [hafter, hcurrent] at hkept
    cases hkept

/-- Appending to a program that is not current can make it current. -/
theorem not_forall_append_spares_current :
    ¬ ∀ (settings : Settings) (moves : List (Move 1 (List Settings.Setting)))
      (slot stageSlot : String) (p : Program 1) (stage : Stage 1),
      (Session.after moves (.new #v[new settings])).programs[slot]? = some p →
      (Session.after moves (.new #v[new settings])).stages[stageSlot]? = some stage →
      (context 0 (Session.after moves (.new #v[new settings])).world).current ≠ some p.id →
        inForce ((Session.perform 0 (.append slot stageSlot)).run
            (Session.after moves (.new #v[new settings]))).state =
          inForce (Session.after moves (.new #v[new settings])) := by
  intro hspares
  obtain ⟨p, live, hid⟩ := Option.map_eq_some_iff.1 id_staleRun
  obtain ⟨stage, given⟩ := Option.isSome_iff_exists.1 isSome_stage_staleRun
  have hother := current_ne_staleRun hid
  have hsame := hspares .blank staleRun "first" "stage" p stage live given hother
  rw [inForce_append_staleRun, inForce_staleRun] at hsame
  exact absurd hsame (by decide)

end InMemory

end Shading
