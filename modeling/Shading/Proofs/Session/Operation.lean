import Shading.Proofs.Program.Lifetime
import Shading.Proofs.Session.Change

/-!
# Operations are changes

An operation takes its tenants out of their slots, makes its changes, and puts back what is left;
whatever it does not name keeps its slot. What a whole run keeps follows from what one change
keeps.
-/

namespace Shading

open Shading.Uniform World

namespace World

variable {δ κ α : Type} {n : Nat}

theorem run_within (i : Fin n) (x : ContextAction δ κ α) (w : World δ n) :
    (within i x).run w =
      ⟨(x.run (w.context i)).value, w.set i (x.run (w.context i)).state i.isLt,
        (x.run (w.context i)).record.map (Entry.map (i, ·))⟩ := rfl

@[simp] theorem context_set_self (w : World δ n) (i : Fin n) (c : Context δ) :
    context i (w.set i c i.isLt) = c := by
  simp [context]

theorem set_context_self (w : World δ n) (i : Fin n) :
    w.set i (context i w) i.isLt = w := by
  simp [context]

end World

variable {δ κ ε : Type} [Device δ κ] [Environment δ κ ε] {n : Nat}
variable {i : Fin n} {subject : Option ProgramId}

theorem changes_releaseAll (stages : List (Stage n)) (w : World δ n)
    (programs : Multiset (Program n)) (others : Multiset (Stage n)) :
    Changes i subject ⟨w, programs, ↑stages + others⟩
      (((stages.forM Stage.release).run w).record.map .recorded)
      ⟨((stages.forM Stage.release).run w).state, programs, others⟩ := by
  induction stages generalizing w with
  | nil =>
    rw [Multiset.coe_nil, Multiset.zero_add]
    exact .refl _
  | cons stage stages ih =>
    rw [Action.run_forM_cons, List.map_append, ← Multiset.cons_coe, Multiset.cons_add]
    exact .step (.discard rfl) (ih _)

theorem changes_release (p : Program n) (w : World δ n) (programs : Multiset (Program n))
    (stages : Multiset (Stage n)) :
    Changes i subject ⟨w, p ::ₘ programs, stages⟩ ((p.release.run w).record.map .recorded)
      ⟨(p.release.run w).state, programs, stages⟩ := by
  rw [Program.release, Action.run_bind, List.map_append]
  exact .step (.retire rfl) (changes_releaseAll _ _ _ _)

theorem nextId_stageNew (type : StageType) (sources : List String) (w : World δ n) :
    (context i ((Stage.new i type sources).run w).state).nextId = (context i w).nextId := by
  rw [Stage.new, run_within, context_set_self]
  split
  · rfl
  · simp only [Context.newStage, Action.run_bind, Context.run_ask]
    split <;> rfl

theorem id_assemble (stages : List (Stage n)) (c : Context δ) :
    ((Program.assemble i stages : ContextAction δ κ _).run c).value.1.id = ⟨c.nextId⟩ := by
  rw [(Program.run_assemble i stages c).1, Program.settle_id]
  rfl

/-- The program that an attempt made, if it succeeded. -/
def made (attempt : Except ProgramError (Program n)) : Multiset (Program n) :=
  match attempt with
  | .ok p => {p}
  | .error _ => 0

theorem changes_new (stages : List (Stage n)) (w : World δ n)
    (about : subject = some ⟨(context i w).nextId⟩) (programs : Multiset (Program n))
    (others : Multiset (Stage n)) :
    Changes i subject ⟨w, programs, ↑stages + others⟩
      (((Program.new i stages).run w).record.map .recorded)
      ⟨((Program.new i stages).run w).state,
        made ((Program.new i stages).run w).value + programs, others⟩ := by
  cases stages with
  | nil =>
    have hnone : Program.new i ([] : List (Stage n)) =
        (pure (.error .noStage) : WorldAction δ κ n _) := rfl
    rw [Multiset.coe_nil, Multiset.zero_add, hnone, Action.run_pure, made, Multiset.zero_add]
    exact .refl _
  | cons stage stages =>
    have hid := id_assemble (κ := κ) (i := i) (stage :: stages) (context i w)
    cases hmake : (within i (Program.assemble i (stage :: stages)) : WorldAction δ κ n _).run w with
    | mk attempt w' record =>
      obtain ⟨p, linked⟩ := attempt
      have hassemble : Change (ε := ε) i subject ⟨w, programs, ↑(stage :: stages) + others⟩
          (record.map .recorded) ⟨w', p ::ₘ programs, others⟩ := by
        apply Change.assemble (List.cons_ne_nil _ _) hmake
        rw [about, ← hid]
        rw [run_within] at hmake
        rw [(Outcome.mk.inj hmake).1]
      simp only [Program.new, List.isEmpty_cons, Bool.false_eq_true, if_false, Action.run_bind,
        hmake]
      cases linked with
      | ok done =>
        simp only [Action.run_pure, List.append_nil, made, Multiset.singleton_add]
        exact .single hassemble
      | error e =>
        simp only [Action.run_bind, Action.run_pure, List.append_nil, List.map_append, made,
          Multiset.zero_add]
        exact .step hassemble (changes_release _ _ _ _)

theorem changes_ofSources (vertex fragment : String) (w : World δ n)
    (about : subject = some ⟨(context i w).nextId⟩) (programs : Multiset (Program n))
    (stages : Multiset (Stage n)) :
    Changes i subject ⟨w, programs, stages⟩
      (((Program.ofSources i vertex fragment).run w).record.map .recorded)
      ⟨((Program.ofSources i vertex fragment).run w).state,
        made ((Program.ofSources i vertex fragment).run w).value + programs, stages⟩ := by
  rw [Program.ofSources, Action.run_bind]
  have hfirst := nextId_stageNew (i := i) .vertex [vertex] w
  cases hone : (Stage.new i .vertex [vertex] : WorldAction δ κ n _).run w with
  | mk one w₁ record₁ =>
    rw [hone] at hfirst
    cases one with
    | error e =>
      simp only [Action.run_pure, List.append_nil, made, Multiset.zero_add]
      exact .single (.refuse hone)
    | ok first =>
      simp only [Action.run_bind, List.map_append]
      apply Changes.step (.compile hone)
      have hsecond := nextId_stageNew (i := i) .fragment [fragment] w₁
      cases htwo : (Stage.new i .fragment [fragment] : WorldAction δ κ n _).run w₁ with
      | mk two w₂ record₂ =>
        rw [htwo] at hsecond
        cases two with
        | error e =>
          simp only [Action.run_bind, Action.run_pure, List.append_nil, made, Multiset.zero_add]
          exact .step (.refuse htwo) (.single (.discard rfl))
        | ok second =>
          have hnew : Changes (κ := κ) (ε := ε) i subject _ _ _ :=
            changes_new [first, second] w₂ (by rw [about, hsecond, hfirst]) programs stages
          rw [← Multiset.cons_coe, ← Multiset.cons_coe, Multiset.coe_nil, Multiset.cons_add,
            Multiset.cons_add, Multiset.zero_add, Multiset.cons_swap] at hnew
          exact .step (.compile htwo) hnew

theorem changes_destroy (p : Program n) (w : World δ n) (about : subject = some p.id)
    (programs : Multiset (Program n)) (stages : Multiset (Stage n)) :
    Changes i subject ⟨w, p ::ₘ programs, stages⟩
      (((p.destroy i).run w).record.map .recorded)
      ⟨((p.destroy i).run w).state, programs, stages⟩ := by
  rw [Program.destroy, Action.run_bind, List.map_append]
  refine Changes.trans (y := ⟨_, _ ::ₘ programs, stages⟩) ?_ (changes_release _ _ _ _)
  rw [run_within]
  by_cases hcurrent : p.isCurrent (context i w) = true
  · have hunbind : Change (ε := ε) i subject ⟨w, p ::ₘ programs, stages⟩ _ _ :=
      .unbind (by rw [run_within]) about
    simp only [Action.run_bind, Action.run_get, hcurrent, if_true, Action.run_note, Action.run_pure,
      List.nil_append, List.append_nil, List.map_append]
    exact .step hunbind (.single .note)
  · simp only [Action.run_bind, Action.run_get, hcurrent, Bool.false_eq_true, if_false,
      Action.run_note, Action.run_pure, List.nil_append, List.append_nil, set_context_self]
    exact .single .note

theorem map_entry_id {κ : Type} (record : List (Entry κ)) : record.map (Entry.map id) = record := by
  have hid : (Entry.map id : Entry κ → Entry κ) = id := by
    funext entry
    cases entry <;> rfl
  rw [hid, List.map_id]

namespace Session

def holdings (s : Session δ n) : Holdings δ n :=
  ⟨s.world, s.programs.tenants, s.stages.tenants⟩

omit [Device δ κ] in
theorem run_onWorld {α : Type} (x : WorldAction δ κ n α) (s : Session δ n) :
    (onWorld x).run s =
      ⟨(x.run s.world).value, { s with world := (x.run s.world).state },
        (x.run s.world).record⟩ := by
  rw [onWorld, Action.run_focus, map_entry_id]

theorem changes_settleStage (name : String) (stage : Stage n) (s : Session δ n) :
    Changes i subject ⟨s.world, s.programs.tenants, stage ::ₘ s.stages.tenants⟩
      (((settleStage name stage).run s).record.map .recorded)
      ((settleStage name stage).run s).state.holdings := by
  simp only [settleStage, Action.run_bind, Action.run_get, Action.run_modify, List.nil_append]
  cases htenant : s.stages[name]? with
  | none =>
    simp only [Action.run_pure, holdings]
    rw [Slots.tenants_insert, Slots.erase_of_getElem?_eq_none htenant]
    exact .refl _
  | some tenant =>
    simp only [run_onWorld, holdings]
    rw [Slots.tenants_insert, Slots.tenants_of_getElem? htenant, Multiset.cons_swap]
    exact .single (.discard rfl)

theorem changes_settleProgram (name : String) (p : Program n) (s : Session δ n) :
    Changes i subject ⟨s.world, p ::ₘ s.programs.tenants, s.stages.tenants⟩
      (((settleProgram name p).run s).record.map .recorded)
      ((settleProgram name p).run s).state.holdings := by
  simp only [settleProgram, storeProgram, Action.run_bind, Action.run_get, Action.run_modify,
    List.nil_append]
  cases htenant : s.programs[name]? with
  | none =>
    simp only [Action.run_pure, holdings]
    rw [Slots.tenants_insert, Slots.erase_of_getElem?_eq_none htenant]
    exact .refl _
  | some tenant =>
    simp only [run_onWorld, holdings]
    rw [Slots.tenants_insert, Slots.tenants_of_getElem? htenant, Multiset.cons_swap]
    exact changes_release _ _ _ _

theorem changes_settleNewProgram (name : String) (attempt : Except ProgramError (Program n))
    (s : Session δ n) :
    Changes i subject ⟨s.world, made attempt + s.programs.tenants, s.stages.tenants⟩
      (((settleNewProgram name attempt).run s).record.map .recorded)
      ((settleNewProgram name attempt).run s).state.holdings := by
  cases attempt with
  | error e =>
    rw [made, Multiset.zero_add]
    exact .refl _
  | ok p =>
    rw [made, Multiset.singleton_add]
    simp only [settleNewProgram, Action.run_bind, Action.run_pure, List.append_nil]
    exact changes_settleProgram _ _ _

/-! ## Operations -/

omit [Device δ κ] in
theorem run_withProgram (name : String) (f : Program n → SessionAction δ κ n Answer)
    (s : Session δ n) :
    (withProgram name f).run s =
      match s.programs[name]? with
      | some p => (f p).run s
      | none => ⟨.error .noSuchProgram, s, []⟩ := by
  simp only [withProgram, Action.run_bind, Action.run_get, List.nil_append]
  cases s.programs[name]? <;> rfl

omit [Device δ κ] in
theorem run_withStage (name : String) (f : Stage n → SessionAction δ κ n Answer)
    (s : Session δ n) :
    (withStage name f).run s =
      match s.stages[name]? with
      | some stage => (f stage).run s
      | none => ⟨.error .noSuchStage, s, []⟩ := by
  simp only [withStage, Action.run_bind, Action.run_get, List.nil_append]
  cases s.stages[name]? <;> rfl

omit [Device δ κ] in
theorem run_withStages (names : List String) (f : List (Stage n) → SessionAction δ κ n Answer)
    (s : Session δ n) :
    (withStages names f).run s =
      match s.stages.takeAll names with
      | some (stages, rest) => (f stages).run { s with stages := rest }
      | none => ⟨.error .noSuchStage, s, []⟩ := by
  simp only [withStages, Action.run_bind, Action.run_get, List.nil_append]
  cases s.stages.takeAll names <;> rfl

omit [Device δ κ] in
theorem run_keepProgram (name : String) (attempt : Program n × Except ProgramError Unit)
    (s : Session δ n) :
    (keepProgram name attempt : SessionAction δ κ n Answer).run s =
      ⟨match attempt.2 with
        | .ok () => .ok .done
        | .error e => .error (.program e),
        { s with programs := s.programs.insert name attempt.1 }, []⟩ := by
  simp only [keepProgram, storeProgram, Action.run_bind, Action.run_modify, List.nil_append]
  cases attempt.2 <;> rfl

omit [Device δ κ] [Environment δ κ ε] in
theorem about_of_getElem? {operation : Operation} {s : Session δ n} {name : String} {p : Program n}
    (about : subject = s.subject (.perform i operation : Move n ε))
    (target : operation.target = some name) (hp : s.programs[name]? = some p) :
    subject = some p.id := by
  have hmakes : operation.makesProgram = false := by
    cases operation <;> first | rfl | simp [Operation.target] at target
  rw [about, Session.subject, hmakes, target]
  simp [hp]

/-- An operation on a program does what is done to the program in the slot, if there is one. -/
theorem changes_withProgram {operation : Operation} {s : Session δ n} {name : String}
    (about : subject = s.subject (.perform i operation : Move n ε))
    (target : operation.target = some name) {f : Program n → SessionAction δ κ n Answer}
    (h : ∀ p, s.programs[name]? = some p → subject = some p.id →
      Changes (ε := ε) i subject
        ⟨s.world, p ::ₘ Slots.tenants (s.programs.erase name), s.stages.tenants⟩
        (((f p).run s).record.map .recorded) ((f p).run s).state.holdings) :
    Changes (ε := ε) i subject s.holdings (((withProgram name f).run s).record.map .recorded)
      ((withProgram name f).run s).state.holdings := by
  rw [run_withProgram]
  cases hp : s.programs[name]? with
  | none => exact .refl _
  | some p =>
    rw [holdings, Slots.tenants_of_getElem? hp]
    exact h p hp (about_of_getElem? about target hp)

theorem changes_newStage (slot : String) (type : StageType) (sources : List String)
    (s : Session δ n) :
    Changes (ε := ε) i subject s.holdings
      (((perform i (.newStage slot type sources)).run s).record.map .recorded)
      ((perform i (.newStage slot type sources)).run s).state.holdings := by
  simp only [perform, Action.run_bind, run_onWorld]
  cases hnew : (Stage.new i type sources : WorldAction δ κ n _).run s.world with
  | mk attempt w' record =>
    cases attempt with
    | error e =>
      simp only [Action.run_pure, List.append_nil]
      exact .single (.refuse hnew)
    | ok stage =>
      simp only [Action.run_bind, Action.run_pure, List.append_nil, List.map_append]
      exact .step (.compile hnew) (changes_settleStage _ _ { s with world := w' })

theorem changes_set {s : Session δ n} {program name : String} {value : HostValue}
    (about : subject = s.subject (.perform i (.set program name value) : Move n ε)) :
    Changes (ε := ε) i subject s.holdings
      (((perform i (.set program name value)).run s).record.map .recorded ++
        writes (.perform i (.set program name value) : Move n ε)
          ((perform i (.set program name value)).run s).value)
      ((perform i (.set program name value)).run s).state.holdings := by
  simp only [perform, run_withProgram]
  cases hp : s.programs[program]? with
  | none => exact .refl _
  | some p =>
    have habout := about_of_getElem? about rfl hp
    simp only [within, Action.run_bind, run_onWorld, holdings, Slots.tenants_of_getElem? hp]
    cases hset : (World.within i (p.setUniform name value).run :
        WorldAction δ κ n _).run s.world with
    | mk answer w' record =>
      cases answer with
      | ok done =>
        simp only [Action.run_pure, List.append_nil, writes, Slots.tenants_of_getElem? hp]
        exact .single (.set hset habout)
      | error e =>
        simp only [Action.run_pure, List.append_nil, writes, Slots.tenants_of_getElem? hp]
        exact .single (.setFails hset habout)

theorem changes_perform (operation : Operation) (s : Session δ n)
    (about : subject = s.subject (.perform i operation : Move n ε)) :
    Changes (ε := ε) i subject s.holdings
      (((perform i operation).run s).record.map .recorded ++
        writes (.perform i operation : Move n ε) ((perform i operation).run s).value)
      ((perform i operation).run s).state.holdings := by
  cases operation with
  | newStage slot type sources =>
    simp only [writes, List.append_nil]
    exact changes_newStage slot type sources s
  | stageInfo name =>
    simp only [perform, run_withStage, writes, List.append_nil]
    cases s.stages[name]? <;> exact .refl _
  | dropStage name =>
    simp only [perform, run_withStage, writes, List.append_nil]
    cases hstage : s.stages[name]? with
    | none => exact .refl _
    | some stage =>
      simp only [eraseStage, Action.run_bind, Action.run_modify, run_onWorld, Action.run_pure,
        List.nil_append, List.append_nil, holdings, Slots.tenants_of_getElem? hstage]
      exact .single (.discard rfl)
  | collect names index =>
    simp only [perform, run_withStages, writes, List.append_nil]
    cases htake : s.stages.takeAll names with
    | none => exact .refl _
    | some taken =>
      obtain ⟨stages, rest⟩ := taken
      simp only [Action.run_bind, run_onWorld, Action.run_pure, List.append_nil, holdings,
        Slots.tenants_takeAll htake]
      exact changes_releaseAll _ _ _ _
  | newProgram slot names =>
    simp only [perform, run_withStages, writes, List.append_nil]
    cases htake : s.stages.takeAll names with
    | none => exact .refl _
    | some taken =>
      obtain ⟨stages, rest⟩ := taken
      simp only [Action.run_bind, run_onWorld, List.map_append, holdings,
        Slots.tenants_takeAll htake]
      exact .trans (changes_new _ _ about _ _)
        (changes_settleNewProgram slot _ ⟨_, rest, s.programs⟩)
  | ofSources slot vertex fragment =>
    simp only [perform, Action.run_bind, run_onWorld, writes, List.append_nil, List.map_append]
    exact .trans (changes_ofSources _ _ _ about _ _)
      (changes_settleNewProgram slot _ ⟨_, s.stages, s.programs⟩)
  | append program stage =>
    simp only [writes, List.append_nil]
    apply changes_withProgram about rfl
    intro p hp habout
    rw [run_withStage]
    cases hstage : s.stages[stage]? with
    | none =>
      rw [← Slots.tenants_of_getElem? hp]
      exact .refl _
    | some given =>
      simp only [eraseStage, within, Action.run_bind, Action.run_modify, run_onWorld,
        run_keepProgram, List.nil_append, List.append_nil, holdings,
        Slots.tenants_of_getElem? hstage, Slots.tenants_insert]
      exact .single (.append rfl habout)
  | bind name =>
    simp only [writes, List.append_nil]
    apply changes_withProgram about rfl
    intro p hp habout
    simp only [within, Action.run_bind, run_onWorld, run_keepProgram, List.append_nil, holdings,
      Slots.tenants_insert]
    exact .single (.bind rfl habout)
  | unbind name =>
    simp only [writes, List.append_nil]
    apply changes_withProgram about rfl
    intro p hp habout
    simp only [within, Action.run_bind, run_onWorld, run_keepProgram, List.append_nil, holdings,
      Slots.tenants_insert]
    exact .single (.unbind rfl habout)
  | destroy name =>
    simp only [writes, List.append_nil]
    apply changes_withProgram about rfl
    intro p hp habout
    simp only [eraseProgram, Action.run_bind, Action.run_modify, run_onWorld, Action.run_pure,
      List.nil_append, List.append_nil]
    exact changes_destroy p s.world habout _ _
  | drop name =>
    simp only [writes, List.append_nil]
    apply changes_withProgram about rfl
    intro p hp habout
    simp only [eraseProgram, Action.run_bind, Action.run_modify, run_onWorld, Action.run_pure,
      List.nil_append, List.append_nil]
    exact changes_release p s.world _ _
  | isLinked name =>
    simp only [writes, List.append_nil]
    apply changes_withProgram about rfl
    intro p hp habout
    simp only [within, Action.run_bind, run_onWorld, Action.run_pure, List.append_nil, holdings,
      Slots.tenants_of_getElem? hp]
    exact .single (.isLinked rfl habout)
  | activeUniforms name =>
    simp only [writes, List.append_nil]
    apply changes_withProgram about rfl
    intro p hp habout
    simp only [within, Action.run_bind, run_onWorld, Action.run_pure, List.append_nil, holdings,
      Slots.tenants_of_getElem? hp]
    exact .single (.activeUniforms rfl habout)
  | set program name value => exact changes_set about
  | get program name =>
    simp only [writes, List.append_nil]
    apply changes_withProgram about rfl
    intro p hp habout
    simp only [within, Action.run_bind, run_onWorld]
    cases hget : (World.within i (p.getUniform name).run : WorldAction δ κ n _).run s.world with
    | mk answer w' record =>
      cases answer <;>
      · simp only [Action.run_pure, List.append_nil, holdings, Slots.tenants_of_getElem? hp]
        exact .single (.get hget habout)
  | isCurrent name | uniforms name | descriptor name _ | stageTypes name | listing name =>
    simp only [writes, List.append_nil]
    apply changes_withProgram about rfl
    intro p hp _
    rw [← Slots.tenants_of_getElem? hp]
    exact .refl _

/-! ## Runs -/

theorem changes_move (m : Move n ε) (s : Session δ n) :
    ∃ i, Changes (ε := ε) i (s.subject m) s.holdings
      (((move m).run s).record.map .recorded ++ writes m ((move m).run s).value)
      ((move m).run s).state.holdings := by
  cases m with
  | perform i operation => exact ⟨i, changes_perform operation s rfl⟩
  | react i event =>
    refine ⟨i, ?_⟩
    simp only [move, within, Action.run_bind, run_onWorld, writes, List.append_nil, holdings]
    cases hreact : (World.within i (Context.onDevice (Environment.react event)) :
        WorldAction δ κ n _).run s.world with
    | mk answer w' record =>
      cases answer <;>
      · simp only [Action.run_pure, List.append_nil]
        exact .single (.react event hreact)

/-- An event concerns the device of its context, and reaches it by no request. -/
theorem run_move_react (i : Fin n) (event : ε) (s : Session δ n) :
    let reaction := (Environment.react event : Action κ δ _).run (s.world.context i).device
    ((move (.react i event)).run s).state =
        { s with
          world := s.world.set i { s.world.context i with device := reaction.state } i.isLt } ∧
      ((move (.react i event)).run s).record =
        (reaction.record.map (Entry.map Traffic.issued)).map (Entry.map (i, ·)) := by
  simp only [move, within, Action.run_bind, run_onWorld, run_within, Context.onDevice,
    Action.run_focus]
  split <;> exact ⟨rfl, List.append_nil _⟩

variable {I : History n κ → Holdings δ n → Prop}

theorem holds_changes {log : History n κ} {x y : Holdings δ n} {deeds : List (Deed n κ)}
    (hchange : ∀ {log x i subject deeds y}, I log x → Change (ε := ε) i subject x deeds y →
      I (log ++ deeds.map (subject, ·)) y)
    (hx : I log x) (h : Changes (ε := ε) i subject x deeds y) :
    I (log ++ deeds.map (subject, ·)) y := by
  induction h generalizing log with
  | refl x => simpa using hx
  | step h others ih =>
    rw [List.map_append, ← List.append_assoc]
    exact ih (hchange hx h)

/-- What holds at first and is kept by every change holds after every run. -/
theorem holds_after
    (hchange : ∀ {log x i subject deeds y}, I log x → Change (ε := ε) i subject x deeds y →
      I (log ++ deeds.map (subject, ·)) y)
    (s : Session δ n) (hstart : I [] s.holdings) (moves : List (Move n ε)) :
    I (history moves s) (after moves s).holdings := by
  have hrun : ∀ (moves : List (Move n ε)) (log : History n κ) (s : Session δ n),
      I log s.holdings → I (log ++ history moves s) (after moves s).holdings := by
    intro moves
    induction moves with
    | nil =>
      intro log s hs
      simpa using hs
    | cons m rest ih =>
      intro log s hs
      obtain ⟨i, hmove⟩ := changes_move m s
      have hnext := ih (log ++ deeds m s) ((move m).run s).state (holds_changes hchange hs hmove)
      rwa [List.append_assoc] at hnext
  exact hrun moves [] s hstart

end Session

end Shading
