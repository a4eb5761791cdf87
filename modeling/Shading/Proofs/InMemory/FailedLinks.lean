import Shading.Proofs.InMemory.Calls
import Shading.Proofs.InMemory.UniformStore
import Shading.Proofs.Session.FilledSlots

/-!
# Programs that cannot be linked

On the device in memory it depends on the sources of a program alone whether it can be linked: the
device refuses sources with its marker, and what it accepts may still have declarations that cannot
be read. A program that is bound, or that grows while it bears its mark, and cannot be linked is
withdrawn: it is failed, without a table and without a mark, and it is no longer current. If it was
not current before, then the current program stays, and so does every other one in any case.
-/

namespace Shading.InMemory

open Shading.Uniform World

/-- The fault of the sources of a program: that of the device comes first. -/
def linkFault {n : Nat} (p : Program n) : Option ProgramError :=
  if p.stages.any fun stage ↦ refusesToLink stage.source.toList then some (.linkFailed linkLog)
  else
    match parse p.source with
    | .ok _ => none
    | .error e => some (.declaration e)

theorem Stored.value_submit {device : InMemory} {acts : List Act} {p : Program 1}
    (h : Stored device acts p) :
    ((p.submit : Reply _).run device).value =
      if p.stages.any fun stage ↦ refusesToLink stage.source.toList then
        .error (.linkFailed linkLog)
      else .ok () := by
  obtain ⟨image, himage, hsources⟩ := h.sources_attach
  have hrefuses : (image.attach (newSources p)).refusesToLink =
      p.stages.any fun stage ↦ refusesToLink stage.source.toList := by
    rw [Image.refusesToLink, hsources, List.any_map]
    rfl
  rw [(run_submit p device).1, himage]
  exact if_congr (by rw [hrefuses]) rfl rfl

/-- An attempt to link fails with the fault of the sources. -/
theorem Stored.settle_submit {device : InMemory} {acts : List Act} {p : Program 1}
    (h : Stored device acts p) :
    (p.settle ((p.submit : Reply _).run device).value).2 = (linkFault p).elim (.ok ()) .error := by
  rw [h.value_submit, linkFault]
  split
  · rfl
  · cases hparse : parse p.source with
    | ok uniforms =>
      rw [Program.settle_of_parse hparse]
      rfl
    | error e =>
      rw [Program.settle_of_parse_error hparse]
      rfl

section Binds

variable {c c' : Context InMemory} {acts : List Act} {p p' : Program 1}
variable {done : Except ProgramError Unit} {asked : List Request}

/-- A program that has to be linked before it is bound fails with the fault of its sources. -/
theorem done_of_binds (hstored : Stored c.device acts p) (unlinked : p.linkState ≠ .linked)
    (h : Program.Binds (κ := Request) p c p' done c' asked) :
    done = (linkFault p).elim (.ok ()) .error := by
  have hsettle := hstored.settle_submit
  cases h with
  | again linked => exact absurd linked unlinked
  | linked _ accepted parsed =>
    rw [accepted, Program.settle_of_parse parsed] at hsettle
    exact hsettle
  | dropped _ settled current | refused _ settled other =>
    rw [settled] at hsettle
    exact hsettle

/-- What an attempt that failed does to the current program and to the one in use. -/
theorem of_failed_binds {e : ProgramError}
    (h : Program.Binds (κ := Request) p c p' (.error e) c' asked) :
    p' = { p.withoutTable with bound := false } ∧
      (∀ handle, .useProgram (some handle) ∉ asked) ∧
      (c.current = some p.id → c'.current = none ∧ c'.device.current = none) ∧
      (c.current ≠ some p.id →
        c'.current = c.current ∧ c'.device.current = c.device.current) := by
  have hlink : ∀ linked handle, .useProgram (some handle) ∉ p.linkRequests linked := by
    intro linked handle hmem
    rcases Program.eq_of_mem_linkRequests hmem with ⟨stage, heq⟩ | heq <;> cases heq
  cases h with
  | dropped unlinked settled current =>
    refine ⟨rfl, ?_, fun _ ↦ ⟨rfl, rfl⟩, fun other ↦ absurd current other⟩
    intro handle hmem
    rcases List.mem_append.1 hmem with hmem | hmem
    · exact hlink _ handle hmem
    · cases List.mem_singleton.1 hmem
  | refused unlinked settled other =>
    exact ⟨rfl, hlink _, fun current ↦ absurd current other,
      fun _ ↦ ⟨rfl, current_submit p c.device⟩⟩

end Binds

/-- An operation that has to link a program before it puts it to use, and the program as it is when
it is linked. -/
inductive Relinks (s : Session InMemory 1) (slot : String) (p : Program 1) :
    Operation → Program 1 → Prop
  | bind (unlinked : p.linkState ≠ .linked) : Relinks s slot p (.bind slot) p
  | append {stageSlot : String} {stage : Stage 1} (given : s.stages[stageSlot]? = some stage)
      (marked : p.bound = true) : Relinks s slot p (.append slot stageSlot) (p.grow stage)

/-- What an operation leaves of a program that cannot be linked. -/
structure Withdrawn (slot : String) (q : Program 1) (e : ProgramError) (s : Session InMemory 1)
    (run : Outcome (Fin 1 × Traffic Request) (Session InMemory 1) Answer) : Prop where
  answer : run.value = .error (.program e)
  program : run.state.programs = s.programs.insert slot
    { q with attached := q.stages.length, linkState := .failed, uniforms := ∅, bound := false }
  unused (handle : Nat) : .useProgram (some handle) ∉ Transcript.seen InMemory run.record
  cleared (own : (context 0 s.world).current = some q.id) :
    (context 0 run.state.world).current = none ∧
      (context 0 run.state.world).device.current = none
  spared (other : (context 0 s.world).current ≠ some q.id) :
    (context 0 run.state.world).current = (context 0 s.world).current ∧
      (context 0 run.state.world).device.current = (context 0 s.world).device.current
  others {other : String} {r : Program 1} (live : s.programs[other]? = some r)
    (different : other ≠ slot) :
    run.state.programs[other]? = some r ∧
      (context 0 run.state.world).device.programs[r.handle]? =
        (context 0 s.world).device.programs[r.handle]?

section Relinks

variable {s : Session InMemory 1} {slot : String} {p q : Program 1} {operation : Operation}

theorem Relinks.unlinked (h : Relinks s slot p operation q) : q.linkState ≠ .linked := by
  cases h with
  | bind unlinked => exact unlinked
  | append given marked => nofun

theorem Relinks.handle_eq (h : Relinks s slot p operation q) : q.handle = p.handle := by
  cases h <;> rfl

theorem Relinks.stored {device : InMemory} {acts : List Act} (h : Relinks s slot p operation q)
    (hstored : Stored device acts p) : Stored device acts q := by
  cases h with
  | bind unlinked => exact hstored
  | append given marked => exact hstored.grow _

/-- Such an operation comes down to one attempt to bind. -/
theorem Relinks.exists_binds (h : Relinks s slot p operation q)
    (live : s.programs[slot]? = some p) :
    ∃ q' done c' asked, Program.Binds (κ := Request) q (context 0 s.world) q' done c' asked ∧
      let run := (Session.perform 0 operation).run s
      run.value = Session.answerTo done ∧
        run.state.programs = s.programs.insert slot q' ∧ context 0 run.state.world = c' ∧
        Transcript.seen InMemory run.record = asked := by
  cases h with
  | bind unlinked =>
    refine ⟨_, _, _, _, p.binds_bind (context 0 s.world), ?_⟩
    rw [Session.perform_bind live]
    refine ⟨rfl, rfl, context_set_self _ _ _, ?_⟩
    rw [seen_map, observed_of_plain (plain_bind p _)]
  | @append stageSlot stage given marked =>
    obtain ⟨hvalue, hstate, hrequests⟩ :=
      Program.run_append_of_bound (κ := Request) marked stage (context 0 s.world)
    have hbinds := (p.grow stage).binds_bind (κ := Request) (context 0 s.world)
    rw [← hvalue, ← hstate, ← hrequests] at hbinds
    refine ⟨_, _, _, _, hbinds, ?_⟩
    rw [Session.perform_append live given]
    refine ⟨rfl, rfl, context_set_self _ _ _, ?_⟩
    rw [seen_map, observed_of_plain (plain_append p stage _)]

theorem Relinks.value_eq {acts : List Act} (h : Relinks s slot p operation q)
    (live : s.programs[slot]? = some p) (hstored : Stored (context 0 s.world).device acts p) :
    ((Session.perform 0 operation).run s).value =
      (linkFault q).elim (.ok .done) fun e ↦ .error (.program e) := by
  obtain ⟨q', done, c', asked, hbinds, hvalue, -⟩ := h.exists_binds live
  rw [hvalue, done_of_binds (h.stored hstored) h.unlinked hbinds]
  cases linkFault q <;> rfl

theorem Relinks.withdrawn {e : ProgramError} (h : Relinks s slot p operation q)
    (live : s.programs[slot]? = some p)
    (hhandles : (s.programs.tenants.map Program.handle).Nodup)
    (failed : ((Session.perform 0 operation).run s).value = .error (.program e)) :
    Withdrawn slot q e s ((Session.perform 0 operation).run s) := by
  obtain ⟨q', done, c', asked, hbinds, hvalue, hprograms, hcontext, hseen⟩ := h.exists_binds live
  obtain rfl : done = .error e := Session.answerTo_eq_error_iff.1 (hvalue.symm.trans failed)
  obtain ⟨rfl, hunused, hcleared, hspared⟩ := of_failed_binds hbinds
  refine ⟨failed, hprograms, ?_, ?_, ?_, ?_⟩
  · rwa [hseen]
  · rwa [hcontext]
  · rwa [hcontext]
  · intro other r hr hdifferent
    have hhandle : r.handle ≠ q.handle := by
      rw [h.handle_eq]
      exact fun heq ↦ hdifferent (Slots.eq_of_nodup_map hhandles hr live heq)
    rw [hprograms, hcontext, Std.ExtTreeMap.getElem?_insert]
    refine ⟨?_, programs_of_binds hbinds hhandle⟩
    simp [hdifferent.symm, hr]

end Relinks

/-- After every run, a program that has to be linked to be put to use is withdrawn if its sources
have a fault, and the operation succeeds if they have none. -/
theorem failed_relink_withdraws (settings : Settings)
    (moves : List (Move 1 (List Settings.Setting))) {slot : String} {p q : Program 1}
    {operation : Operation}
    (live : (Session.after moves (.new #v[new settings])).programs[slot]? = some p)
    (relinks : Relinks (Session.after moves (.new #v[new settings])) slot p operation q) :
    let s := Session.after moves (.new #v[new settings])
    let run := (Session.perform 0 operation).run s
    (∀ e, linkFault q = some e → Withdrawn slot q e s run) ∧
      (linkFault q = none → run.value = .ok .done) := by
  intro s run
  obtain ⟨hkept, hstored⟩ := stored_after settings moves
  have hvalue := relinks.value_eq live (hstored p (Slots.mem_tenants.2 ⟨slot, live⟩))
  constructor
  · intro e hfault
    rw [hfault] at hvalue
    exact relinks.withdrawn live hkept.handled.distinct hvalue
  · intro hfault
    rw [hfault] at hvalue
    exact hvalue

/-- A run in which the current program is about to receive a stage that contradicts its own. -/
def contradictingRun : List (Move 1 (List Settings.Setting)) :=
  [.here (.ofSources "first" "uniform float a;" ""), .here (.ofSources "second" "" ""),
    .here (.bind "second"), .here (.bind "first"),
    .here (.newStage "stage" .fragment ["uniform vec2 a;"])]

theorem shown_contradictingRun :
    let s := Session.after contradictingRun (.new #v[new .blank])
    (do
      let p ← s.programs["first"]?
      let stage ← s.stages["stage"]?
      return (p.bound, decide ((context 0 s.world).current = some p.id),
        linkFault (p.grow stage))) =
      some (true, true, some (.declaration (.inconsistent "a"))) := by
  decide +kernel

theorem failed_relink_withdraws_contradictingRun :
    let s := Session.after contradictingRun (.new #v[new .blank])
    let run := (Session.perform 0 (.append "first" "stage")).run s
    ∃ p : Program 1, s.programs["first"]? = some p ∧ (context 0 s.world).current = some p.id ∧
      run.value = .error (.program (.declaration (.inconsistent "a"))) ∧
      run.state.programs["first"]?.map Program.linkState = some .failed ∧
      (context 0 run.state.world).current = none ∧
      (context 0 run.state.world).device.current = none := by
  intro s run
  obtain ⟨p, live, hp⟩ := Option.bind_eq_some_iff.1 shown_contradictingRun
  obtain ⟨stage, given, hshown⟩ := Option.bind_eq_some_iff.1 hp
  simp only [Option.pure_def, Option.some.injEq, Prod.mk.injEq, decide_eq_true_eq] at hshown
  obtain ⟨marked, current, hfault⟩ := hshown
  have hwithdrawn := (failed_relink_withdraws .blank contradictingRun live
    (.append given marked)).1 _ hfault
  refine ⟨p, live, current, hwithdrawn.answer, ?_, hwithdrawn.cleared current⟩
  rw [hwithdrawn.program, Std.ExtTreeMap.getElem?_insert_self]
  rfl

end Shading.InMemory
