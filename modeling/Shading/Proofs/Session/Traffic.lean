import Shading.Proofs.Program.Traffic
import Shading.Proofs.Session.Operation

/-!
# Traffic of a session

What a session does of its own accord is a sequence of changes among which there is no event from
outside. Whatever composes and holds of every request therefore holds, at every context, of a
whole operation; and what is kept by the changes of a session and by the events of a run is kept
by the run.
-/

namespace Shading

open Shading.Uniform World

/-- Surroundings in which nothing ever happens. -/
@[reducible]
def Environment.silent (δ κ : Type) : Environment δ κ Empty where
  start := pure ()
  react := nofun
  observe _ := none

/-- A change that is no event from outside. -/
abbrev OwnChange {δ κ : Type} [Device δ κ] {n : Nat} (i : Fin n) (subject : Option ProgramId) :
    Holdings δ n → List (Deed n κ) → Holdings δ n → Prop :=
  @Change δ κ Empty _ (Environment.silent δ κ) n i subject

variable {δ κ ε α : Type} {n : Nat}

theorem World.context_set (w : World δ n) (i j : Fin n) (c : Context δ) :
    context j (w.set i c i.isLt) = if i = j then c else context j w := by
  by_cases h : i = j
  · subst h
    simp [context]
  · have hne : i.val ≠ j.val := fun heq ↦ h (Fin.ext heq)
    simp [context, h, hne]

/-- What crosses the border of the device of one context. -/
def trafficAt (j : Fin n) (traffic : List (Fin n × Traffic κ)) : List (Traffic κ) :=
  traffic.filterMap fun call ↦ if call.1 = j then some call.2 else none

section TrafficAt

variable (j : Fin n)

@[simp] theorem trafficAt_append (first second : List (Fin n × Traffic κ)) :
    trafficAt j (first ++ second) = trafficAt j first ++ trafficAt j second :=
  List.filterMap_append

theorem trafficAt_map (i : Fin n) (traffic : List (Traffic κ)) :
    trafficAt j (traffic.map (i, ·)) = if i = j then traffic else [] := by
  rw [trafficAt, List.filterMap_map]
  split
  · rename_i h
    simp [h]
  · rename_i h
    simp [h]

end TrafficAt

/-- What a relation between devices says of the device of one context. -/
def AtContext (j : Fin n) (R : δ → List (Traffic κ) → δ → Prop) :
    World δ n → List (Fin n × Traffic κ) → World δ n → Prop :=
  fun w traffic w' ↦ R (context j w).device (trafficAt j traffic) (context j w').device

/-- The entries that some deeds put on record. -/
def entriesOf (deeds : List (Deed n κ)) : List (Entry (Fin n × Traffic κ)) :=
  deeds.filterMap fun
    | .recorded entry => some entry
    | .wrote _ _ => none

@[simp] theorem entriesOf_append (first second : List (Deed n κ)) :
    entriesOf (first ++ second) = entriesOf first ++ entriesOf second :=
  List.filterMap_append

@[simp] theorem entriesOf_map_recorded (record : List (Entry (Fin n × Traffic κ))) :
    entriesOf (record.map .recorded) = record := by
  rw [entriesOf, List.filterMap_map]
  exact List.filterMap_some

@[simp] theorem entriesOf_writes (m : Move n ε) (answer : Answer) :
    entriesOf (Session.writes m answer : List (Deed n κ)) = [] := by
  unfold Session.writes
  split <;> rfl

variable {R : δ → List (Traffic κ) → δ → Prop}

theorem Chains.atContext {R S T : δ → List (Traffic κ) → δ → Prop} (h : Chains R S T)
    (j : Fin n) : Chains (AtContext j R) (AtContext j S) (AtContext j T) := by
  intro w w' w'' first second earlier later
  rw [AtContext, trafficAt_append]
  exact h earlier later

theorem Composes.atContext (hR : Composes R) (j : Fin n) : Composes (AtContext j R) :=
  ⟨fun _ ↦ hR.refl _, Chains.atContext hR.trans j⟩

theorem Follows.within_self {x : ContextAction δ κ α} (hx : Follows (OnDevice R) x) (i : Fin n) :
    Follows (AtContext i R) (within i x) := by
  intro w
  rw [run_within, AtContext, callsOf_map, trafficAt_map, context_set_self, if_pos rfl]
  exact hx _

/-- What is done in one context concerns no other. -/
theorem Follows.within {x : ContextAction δ κ α} (hR : Composes R) (hx : Follows (OnDevice R) x)
    (i j : Fin n) : Follows (AtContext j R) (within i x) := by
  by_cases h : i = j
  · subst h
    exact hx.within_self i
  · intro w
    rw [run_within, AtContext, callsOf_map, trafficAt_map, context_set, if_neg h, if_neg h]
    exact hR.refl _

namespace Obeyed

variable [Device δ κ] (h : Obeyed R) (j : Fin n)

include h

theorem stageNew (i : Fin n) (type : StageType) (sources : List String) :
    Follows (AtContext j R) (Stage.new i type sources) := by
  refine Follows.within h.toComposes ?_ i j
  split
  · exact .pure h.composes _
  · apply Follows.bind h.composes (h.newStage _ _)
    intro answer
    cases answer <;> exact .bind h.composes (.note h.composes _ _) fun _ ↦ .pure h.composes _

theorem stageRelease (stage : Stage n) : Follows (AtContext j R) stage.release :=
  (h.destroyStage _).within h.toComposes _ j

theorem release (p : Program n) : Follows (AtContext j R) p.release :=
  .bind (h.toComposes.atContext j) ((h.retire p).within h.toComposes _ j) fun _ ↦
    .forM (h.toComposes.atContext j) (h.stageRelease j) _

theorem change {i : Fin n} {subject : Option ProgramId} {x y : Holdings δ n}
    {deeds : List (Deed n κ)} (hchange : OwnChange i subject x deeds y) :
    AtContext j R x.world (callsOf (entriesOf deeds)) y.world := by
  cases hchange with
  | compile hrun | refuse hrun =>
    rw [entriesOf_map_recorded]
    exact (h.stageNew j _ _ _).of_run hrun
  | discard hrun =>
    rw [entriesOf_map_recorded]
    exact (h.stageRelease j _).of_run hrun
  | assemble nonempty hrun about =>
    rw [entriesOf_map_recorded]
    exact ((h.assemble _ _).within h.toComposes _ j).of_run hrun
  | append hrun about =>
    rw [entriesOf_map_recorded]
    exact ((h.append _ _).within h.toComposes _ j).of_run hrun
  | bind hrun about =>
    rw [entriesOf_map_recorded]
    exact ((h.bind _).within h.toComposes _ j).of_run hrun
  | unbind hrun about =>
    rw [entriesOf_map_recorded]
    exact ((h.unbind _).within h.toComposes _ j).of_run hrun
  | set hrun about =>
    rw [entriesOf_append, entriesOf_map_recorded, callsOf_append]
    exact (h.toComposes.atContext j).trans
      (((h.setUniform _ _ _).within h.toComposes _ j).of_run hrun) (h.refl _)
  | setFails hrun about =>
    rw [entriesOf_map_recorded]
    exact ((h.setUniform _ _ _).within h.toComposes _ j).of_run hrun
  | get hrun about =>
    rw [entriesOf_map_recorded]
    exact ((h.getUniform _ _).within h.toComposes _ j).of_run hrun
  | isLinked hrun about =>
    rw [entriesOf_map_recorded]
    exact ((h.isLinked _).within h.toComposes _ j).of_run hrun
  | activeUniforms hrun about =>
    rw [entriesOf_map_recorded]
    exact ((h.activeUniforms _).within h.toComposes _ j).of_run hrun
  | note => exact h.refl _
  | retire hrun =>
    rw [entriesOf_map_recorded]
    exact ((h.retire _).within h.toComposes _ j).of_run hrun
  | react event => exact event.elim

end Obeyed

variable [Device δ κ]

namespace Session

/-- What an operation makes the device of its context do. -/
def issuedBy (i : Fin n) (operation : Operation) (s : Session δ n) : List κ :=
  issuedOf (trafficAt i (callsOf ((perform i operation).run s).record))

/-- An operation is a sequence of changes of the session itself. -/
theorem ownChanges_perform (i : Fin n) (operation : Operation) (s : Session δ n) :
    @Changes δ κ Empty _ (Environment.silent δ κ) n i
      (s.subject (.perform i operation : Move n Empty)) s.holdings
      (((perform i operation).run s).record.map .recorded ++
        writes (.perform i operation : Move n Empty) ((perform i operation).run s).value)
      ((perform i operation).run s).state.holdings :=
  @changes_perform δ κ Empty _ (Environment.silent δ κ) n i _ operation s rfl

/-- What every request obeys is obeyed, at every context, by every operation. -/
theorem obeys_perform (h : Obeyed R) (i : Fin n) (operation : Operation) (s : Session δ n)
    (j : Fin n) :
    AtContext j R s.world (callsOf ((perform i operation).run s).record)
      ((perform i operation).run s).state.world := by
  have hall : ∀ {x y : Holdings δ n} {deeds : List (Deed n κ)},
      @Changes δ κ Empty _ (Environment.silent δ κ) n i
        (s.subject (.perform i operation : Move n Empty)) x deeds y →
      AtContext j R x.world (callsOf (entriesOf deeds)) y.world := by
    intro x y deeds hchanges
    induction hchanges with
    | refl x => exact h.refl _
    | step hfirst others ih =>
      rw [entriesOf_append, callsOf_append]
      exact (h.toComposes.atContext j).trans (h.change j hfirst) ih
  have hperform := hall (ownChanges_perform i operation s)
  rwa [entriesOf_append, entriesOf_map_recorded, entriesOf_writes, List.append_nil] at hperform

section Access

variable {i : Fin n} {s : Session δ n} {slot : String} {p : Program n}

/-- A write through a slot is a write to the program in it. -/
theorem run_set (live : s.programs[slot]? = some p) (name : String) (value : HostValue) :
    let access := (p.setUniform name value).run.run (context i s.world)
    (perform i (.set slot name value)).run s =
      ⟨(access.value.map fun _ ↦ .done).mapError .uniform,
        { s with world := s.world.set i access.state i.isLt },
        access.record.map (Entry.map (i, ·))⟩ := by
  simp only [perform, run_withProgram, live, Session.within, Action.run_bind, run_onWorld,
    run_within]
  split
  · rename_i h
    simp [h, Except.map, Except.mapError]
  · rename_i h
    simp [h, Except.map, Except.mapError]

/-- A read through a slot is a read of the program in it. -/
theorem run_get (live : s.programs[slot]? = some p) (name : String) :
    let access := (p.getUniform name).run.run (context i s.world)
    (perform i (.get slot name)).run s =
      ⟨(access.value.map .value).mapError .uniform,
        { s with world := s.world.set i access.state i.isLt },
        access.record.map (Entry.map (i, ·))⟩ := by
  simp only [perform, run_withProgram, live, Session.within, Action.run_bind, run_onWorld,
    run_within]
  split
  · rename_i h
    simp [h, Except.map, Except.mapError]
  · rename_i h
    simp [h, Except.map, Except.mapError]

theorem issuedBy_set (live : s.programs[slot]? = some p) (name : String) (value : HostValue) :
    issuedBy i (.set slot name value) s =
      issuedOf (callsOf ((p.setUniform name value).run.run (context i s.world)).record) := by
  rw [issuedBy, run_set live, callsOf_map, trafficAt_map, if_pos rfl]

end Access

variable [Environment δ κ ε]

omit [Device δ κ] [Environment δ κ ε] in
/-- What an operation writes does not depend on which events there are. -/
theorem writes_perform (ε' : Type) (i : Fin n) (operation : Operation) (answer : Answer) :
    (writes (.perform i operation : Move n ε) answer : List (Deed n κ)) =
      writes (.perform i operation : Move n ε') answer := by
  cases operation <;> cases answer <;> rfl

/-- What is kept by every move of a run holds after it. -/
theorem after_of_moves {J : Session δ n → Prop} {moves : List (Move n ε)}
    (hmove : ∀ m ∈ moves, ∀ s, J s → J ((move m).run s).state) {s : Session δ n} (hs : J s) :
    J (after moves s) := by
  induction moves generalizing s with
  | nil => exact hs
  | cons m rest ih =>
    exact ih (fun other hother ↦ hmove other (List.mem_cons_of_mem _ hother))
      (hmove m List.mem_cons_self s hs)

/-- What is kept by the changes of a session and by the events of a run holds after the run. -/
theorem holds_along {I : History n κ → Holdings δ n → Prop} {moves : List (Move n ε)}
    (hchange : ∀ {log x i subject deeds y}, I log x → OwnChange i subject x deeds y →
      I (log ++ deeds.map (subject, ·)) y)
    (hreact : ∀ {log i event s}, .react i event ∈ moves → I log s.holdings →
      I (log ++ deeds (.react i event) s) ((move (.react i event)).run s).state.holdings)
    {s : Session δ n} (hstart : I [] s.holdings) :
    I (history moves s) (after moves s).holdings := by
  have hrun : ∀ (rest : List (Move n ε)), (∀ m ∈ rest, m ∈ moves) →
      ∀ (log : History n κ) (s : Session δ n), I log s.holdings →
        I (log ++ history rest s) (after rest s).holdings := by
    intro rest
    induction rest with
    | nil =>
      intro _ log s hs
      rwa [history_nil, List.append_nil]
    | cons m rest ih =>
      intro hsub log s hs
      have hnext : I (log ++ deeds m s) ((move m).run s).state.holdings := by
        cases m with
        | perform i operation =>
          have hwrites := writes_perform (κ := κ) (ε := ε) Empty i operation
          simp only [deeds, move, hwrites]
          exact @holds_changes δ κ Empty _ (Environment.silent δ κ) n i _ I _ _ _ _ hchange hs
            (ownChanges_perform i operation s)
        | react i event => exact hreact (hsub _ List.mem_cons_self) hs
      rw [history_cons, ← List.append_assoc]
      exact ih (fun m hm ↦ hsub m (List.mem_cons_of_mem _ hm)) _ _ hnext
  exact hrun moves (fun _ hm ↦ hm) [] s hstart

end Session

end Shading
