import Shading.Proofs.InMemory.Dismissal
import Shading.Proofs.InMemory.Handles
import Shading.Proofs.InMemory.UniformStore

/-!
# Programs that cannot be made

An attempt to make a program can fail before it asked the device for anything, when one of its
stages does not compile, when the device refuses to link it, and when its declarations cannot be
read. Whatever was made until then is let go of again. On the device in memory nothing is left of
the attempt but the numbers and the handles that it used up: no image stays behind, and the current
program is not taken out of use.
-/

namespace Shading.InMemory

open Shading.Uniform World

variable {subject : Option ProgramId} {c c' c'' : Context InMemory}
variable {programs programs' : Multiset (Program 1)} {acts : List Act}

/-- Every image is under a handle that was given out. -/
def ImagesGiven (device : InMemory) : Prop :=
  ∀ handle, device.lastHandle < handle → device.programs[handle]? = none

namespace ImagesGiven

variable {device : InMemory}

/-- Changing an image gives no new handle. -/
theorem updateProgram (h : ImagesGiven device) (program : Nat) (f : Image → Image) :
    ImagesGiven (InMemory.updateProgram program f device) := by
  intro handle hlater
  rw [lastHandle_updateProgram] at hlater
  rw [programs_updateProgram, h handle hlater]
  exact ite_self none

/-- Linking gives no new handle. -/
theorem submit (h : ImagesGiven device) (p : Program 1) :
    ImagesGiven ((p.submit : Reply _).run device).state := by
  rw [(run_submit p device).2]
  exact h.updateProgram _ _

theorem of_binds {p p' : Program 1} {done : Except ProgramError Unit} {asked : List Request}
    (h : ImagesGiven c.device) (hbinds : Program.Binds (κ := Request) p c p' done c' asked) :
    ImagesGiven c'.device := by
  cases hbinds with
  | again linked => exact h
  | linked | dropped | refused => exact h.submit p

/-- No operation leaves an image behind whose handle was not given out. -/
theorem of_effect (h : ImagesGiven c.device)
    (heffect : Effect (ε := List Settings.Setting) subject c programs acts c' programs') :
    ImagesGiven c'.device := by
  cases heffect with
  | nothing | destroyStage | grow | unbind | isLinked | activeUniforms | react => exact h
  | newStage type sources =>
    rw [Context.newStage, Context.run_ask]
    rcases state_newStage type sources c.device with hstate | hstate <;> rw [hstate]
    · exact h
    · exact fun handle hlater ↦ h handle (Nat.lt_of_succ_lt hlater)
  | make nonempty about created fresh submitted =>
    rw [run_newProgram] at created
    subst created fresh submitted
    refine submit ?_ _
    intro handle hlater
    rw [Std.ExtTreeMap.getElem?_insert, if_neg (mt Std.LawfulEqCmp.compare_eq_iff_eq.1 hlater.ne)]
    exact h handle (Nat.lt_of_succ_lt hlater)
  | bind same binds about => exact h.of_binds binds
  | @set programs p name value about =>
    rw [state_setUniform]
    unfold Program.afterWrite
    split
    · unfold afterUpload
      split
      · exact h.updateProgram _ _
      · exact h
    · exact h
  | @get programs p name about =>
    rw [state_getUniform]
    exact h
  | retire =>
    rw [state_destroyProgram]
    intro handle hlater
    rw [Std.ExtTreeMap.getElem?_erase, h handle hlater]
    exact ite_self none

end ImagesGiven

/-- What was not given out yet stands for nothing. -/
structure Unclaimed (c : Context InMemory) : Prop where
  current (number : Nat) (later : c.nextId ≤ number) : c.current ≠ some ⟨number⟩
  used (handle : Nat) (later : c.device.lastHandle < handle) : c.device.current ≠ some handle
  images : ImagesGiven c.device

/-- Handles beyond the last one are free of images, of programs and of use. -/
theorem Unclaimed.of_kept (hkept : Kept c programs) (himages : ImagesGiven c.device) :
    Unclaimed c := by
  refine ⟨?_, ?_, himages⟩
  · intro number hlater hcurrent
    rcases hkept.agrees with ⟨hnone, -⟩ | ⟨p, hp, hown, -⟩
    · rw [hnone] at hcurrent
      cases hcurrent
    · have hgiven := hkept.numbered.given p.id (Multiset.mem_map_of_mem _ hp)
      rw [Option.some.inj (hown.symm.trans hcurrent)] at hgiven
      exact absurd hgiven (Nat.not_lt.2 hlater)
  · intro handle hlater hcurrent
    rcases hkept.agrees with ⟨-, hnone⟩ | ⟨p, hp, -, hused, -⟩
    · rw [hnone] at hcurrent
      cases hcurrent
    · have hgiven := hkept.handled.given p.handle (Multiset.mem_map_of_mem _ hp)
      rw [Option.some.inj (hused.symm.trans hcurrent)] at hgiven
      exact absurd hgiven (Nat.not_le.2 hlater)

/-- The handle that comes next is always free. -/
theorem unclaimed_after (settings : Settings) (moves : List (Move 1 (List Settings.Setting))) :
    Unclaimed (context 0 (Session.after moves (.new #v[new settings])).world) := by
  refine .of_kept (kept_after settings moves) ?_
  refine Session.holds_of_effects (I := fun _ c _ ↦ ImagesGiven c.device)
    (fun himages h ↦ himages.of_effect h) _ ?_ moves
  rw [Session.context_new]
  intro handle _
  exact Std.ExtTreeMap.getElem?_empty

/-! ## What is undone -/

/-- Some calls of which nothing is left but the numbers and the handles that they used up. They
neither put a program to use nor take one out of use. -/
structure Undone (c : Context InMemory) (calls : List Request) (c' : Context InMemory) : Prop where
  current : c'.current = c.current
  device : c'.device = { c.device with lastHandle := c'.device.lastHandle }
  handles : c.device.lastHandle ≤ c'.device.lastHandle
  numbers : c.nextId ≤ c'.nextId
  numbered {handle : Nat} (made : .newProgram handle ∈ calls) : c.nextId < c'.nextId
  unused (program : Option Nat) : .useProgram program ∉ calls

namespace Undone

variable {first second : List Request}

theorem nil (c : Context InMemory) : Undone c [] c :=
  ⟨rfl, rfl, le_rfl, le_rfl, fun hmade ↦ absurd hmade List.not_mem_nil,
    fun _ ↦ List.not_mem_nil⟩

/-- A call that makes no program and puts none to use leaves no more than a handle. -/
theorem of_call {request : Request} {last : Nat}
    (made : ∀ handle, request ≠ .newProgram handle)
    (unused : ∀ program, request ≠ .useProgram program) (later : c.device.lastHandle ≤ last) :
    Undone c [request] { c with device := { c.device with lastHandle := last } } := by
  refine ⟨rfl, rfl, later, le_rfl, ?_, ?_⟩
  · intro handle hmade
    exact absurd (List.mem_singleton.1 hmade).symm (made handle)
  · intro program hused
    exact unused program (List.mem_singleton.1 hused).symm

/-- What is undone twice, one after the other, is undone. -/
theorem trans (earlier : Undone c first c') (later : Undone c' second c'') :
    Undone c (first ++ second) c'' := by
  refine ⟨later.current.trans earlier.current, ?_, earlier.handles.trans later.handles,
    earlier.numbers.trans later.numbers, ?_, ?_⟩
  · rw [later.device, earlier.device]
  · intro handle hmade
    rcases List.mem_append.1 hmade with hmade | hmade
    · exact (earlier.numbered hmade).trans_le later.numbers
    · exact earlier.numbers.trans_lt (later.numbered hmade)
  · intro program hused
    rcases List.mem_append.1 hused with hused | hused
    · exact earlier.unused program hused
    · exact later.unused program hused

/-- Where everything was undone, the next handle is still free. -/
theorem unclaimed (h : Undone c first c') (hunclaimed : Unclaimed c) : Unclaimed c' := by
  refine ⟨?_, ?_, ?_⟩
  · intro number hlater
    rw [h.current]
    exact hunclaimed.current number (h.numbers.trans hlater)
  · intro handle hlater
    rw [h.device]
    exact hunclaimed.used handle (h.handles.trans_lt hlater)
  · intro handle hlater
    rw [h.device]
    exact hunclaimed.images handle (h.handles.trans_lt hlater)

end Undone

/-- A stage that is made and released at once leaves nothing but the used-up handle. -/
theorem undone_stageNew (type : StageType) (sources : List String) (w : World InMemory 1) :
    let made := (Stage.new 0 type sources : WorldAction InMemory Request 1 _).run w
    Undone (context 0 w) (Transcript.seen InMemory made.record) (context 0 made.state) := by
  simp only [Stage.new, run_within, seen_map, context_set_self]
  split
  · exact .nil _
  · rw [Action.run_bind, Context.newStage, Context.run_ask, run_newStage]
    by_cases hrefuses : (sources.any fun source ↦ refusesToCompile source.toList) = true
    · rw [if_pos hrefuses]
      exact .of_call (by simp) (by simp) le_rfl
    · rw [if_neg hrefuses]
      exact .of_call (by simp) (by simp) (Nat.le_succ _)

theorem undone_stageRelease (stage : Stage 1) (w : World InMemory 1) :
    let released := (stage.release : WorldAction InMemory Request 1 Unit).run w
    Undone (context 0 w) (Transcript.seen InMemory released.record)
      (context 0 released.state) := by
  intro released
  have hseen : Transcript.seen InMemory released.record = [.destroyStage stage.handle] :=
    seen_releaseAll [stage] w
  have hstate : released.state = w := congrArg Outcome.state (run_stageRelease stage w)
  rw [hseen, hstate]
  exact .of_call (by simp) (by simp) le_rfl

/-- A program that was made and released again leaves the images as they were. -/
theorem device_unmade {p : Program 1} {device : InMemory} (himages : ImagesGiven device)
    (hhandle : p.handle = device.lastHandle + 1) :
    let made := ((Device.newProgram : Reply Nat).run device).state
    let linked := ((p.submit : Reply _).run made).state
    { linked with programs := linked.programs.erase p.handle } =
      { device with lastHandle := device.lastHandle + 1 } := by
  intro made linked
  have hlinked : linked = _ := (run_submit p made).2
  have hprograms : linked.programs.erase p.handle = device.programs := by
    apply Std.ExtTreeMap.ext_getElem?
    intro other
    rw [Std.ExtTreeMap.getElem?_erase, hlinked, programs_updateProgram]
    by_cases hsame : p.handle = other
    · subst hsame
      simp [himages p.handle (by omega)]
    · simp [hsame, made, ← hhandle, Std.ExtTreeMap.getElem?_insert]
  rw [hprograms, hlinked, settings_updateProgram, current_updateProgram, lastHandle_updateProgram]
  rfl

/-- What is left of a program that is released as soon as it is made, and what is seen of it. -/
theorem run_assemble_release (given : List (Stage 1)) {w : World InMemory 1}
    (hunclaimed : Unclaimed (context 0 w)) :
    let c := context 0 w
    let fresh := Program.fresh ⟨c.nextId⟩ (c.device.lastHandle + 1) (0 : Fin 1) given
    let made := (within 0 (Program.assemble 0 given) : WorldAction InMemory Request 1 _).run w
    let released := (made.value.1.release : WorldAction InMemory Request 1 _).run made.state
    context 0 released.state =
        { c with
          device := { c.device with lastHandle := c.device.lastHandle + 1 }
          nextId := c.nextId + 1 } ∧
      (∃ linked, Transcript.seen InMemory made.record =
        .newProgram fresh.handle :: fresh.linkRequests linked) ∧
      Transcript.seen InMemory released.record =
        .destroyProgram fresh.handle ::
          made.value.1.stages.map fun stage ↦ .destroyStage stage.handle := by
  intro c fresh made released
  let linked := (fresh.submit : Reply _).run ((Device.newProgram : Reply Nat).run c.device).state
  obtain ⟨hvalue, hstate, hrequests⟩ := Program.run_assemble (κ := Request) 0 given c
  have hprogram : made.value.1 = (fresh.settle linked.value).1 := congrArg Prod.fst hvalue
  have hid : made.value.1.id = ⟨c.nextId⟩ := by rw [hprogram, Program.settle_id]; rfl
  have hhandle : made.value.1.handle = fresh.handle := by rw [hprogram, Program.settle_handle]
  have hcontext : context 0 made.state =
      { c with device := linked.state, nextId := c.nextId + 1 } :=
    (context_set_self w 0 _).trans hstate
  -- neither the context nor the device knows the number and the handle of the program
  have hother : (context 0 made.state).current ≠ some made.value.1.id := by
    rw [hcontext, hid]
    exact hunclaimed.current _ le_rfl
  have hunused : (context 0 made.state).device.current ≠ some made.value.1.handle := by
    have hcurrent : linked.state.current = c.device.current := current_submit fresh _
    rw [hcontext, hhandle, hcurrent]
    exact hunclaimed.used _ (Nat.lt_succ_self _)
  obtain ⟨hreleased, hfarewell⟩ := run_release (iff_of_false hother hunused)
  refine ⟨?_, ⟨linked.value.isOk, ?_⟩, ?_⟩
  · have hunmade : { linked.state with programs := linked.state.programs.erase fresh.handle } = _ :=
      device_unmade (p := fresh) hunclaimed.images rfl
    calc context 0 released.state
        = without (context 0 made.state) made.value.1 := by
          rw [hreleased]
          exact context_set_self _ _ _
      _ = { c with
            device := { linked.state with programs := linked.state.programs.erase fresh.handle }
            nextId := c.nextId + 1 } := by
          rw [without, if_neg hother, if_neg hother, hcontext, hhandle]
      _ = _ := by rw [hunmade]
  · calc Transcript.seen InMemory made.record
        = requests
            ((Program.assemble 0 given : ContextAction InMemory Request _).run c).record := by
          rw [← observed_of_plain (plain_assemble 0 given c)]
          exact seen_map _
      _ = _ := hrequests
  · rw [hfarewell, farewell, if_neg hother, hhandle]
    rfl

/-- A program that is released as soon as it is made is undone, whether it was linked or not. -/
theorem undone_assemble (given : List (Stage 1)) {w : World InMemory 1}
    (hunclaimed : Unclaimed (context 0 w)) :
    let made := (within 0 (Program.assemble 0 given) : WorldAction InMemory Request 1 _).run w
    let released := (made.value.1.release : WorldAction InMemory Request 1 _).run made.state
    Undone (context 0 w)
      (Transcript.seen InMemory made.record ++ Transcript.seen InMemory released.record)
      (context 0 released.state) := by
  intro made released
  obtain ⟨hleft, ⟨linked, hmade⟩, hreleased⟩ := run_assemble_release given hunclaimed
  rw [hleft, hmade, hreleased]
  refine ⟨rfl, rfl, Nat.le_succ _, Nat.le_succ _, fun _ ↦ Nat.lt_succ_self _, ?_⟩
  intro program hused
  rcases List.mem_append.1 hused with hused | hused
  · rcases List.mem_cons.1 hused with heq | hused
    · cases heq
    · rcases Program.eq_of_mem_linkRequests hused with ⟨stage, heq⟩ | heq <;> cases heq
  · rcases List.mem_cons.1 hused with heq | hused
    · cases heq
    · obtain ⟨stage, -, heq⟩ := List.mem_map.1 hused
      cases heq

/-- A program that cannot be made has given back all it took. -/
theorem undone_new {given : List (Stage 1)} {w : World InMemory 1} {e : ProgramError}
    (hunclaimed : Unclaimed (context 0 w))
    (failed : ((Program.new 0 given : WorldAction InMemory Request 1 _).run w).value = .error e) :
    let made := (Program.new 0 given : WorldAction InMemory Request 1 _).run w
    Undone (context 0 w) (Transcript.seen InMemory made.record) (context 0 made.state) := by
  cases given with
  | nil => exact .nil _
  | cons stage given =>
    have hundone := undone_assemble (stage :: given) hunclaimed
    simp only [Program.new, List.isEmpty_cons, Bool.false_eq_true, if_false,
      Action.run_bind] at failed ⊢
    generalize (within 0 (Program.assemble 0 (stage :: given)) :
      WorldAction InMemory Request 1 _).run w = made at hundone failed ⊢
    obtain ⟨⟨p, linked⟩, w', record⟩ := made
    cases linked with
    | ok done => cases failed
    | error cause =>
      simp only [Action.run_bind, Action.run_pure, List.append_nil, Transcript.seen_append]
      exact hundone

/-- The same holds where the stages were made on the way. -/
theorem undone_ofSources {vertex fragment : String} {w : World InMemory 1} {e : ProgramError}
    (hunclaimed : Unclaimed (context 0 w))
    (failed : ((Program.ofSources 0 vertex fragment : WorldAction InMemory Request 1 _).run
      w).value = .error e) :
    let made := (Program.ofSources 0 vertex fragment : WorldAction InMemory Request 1 _).run w
    Undone (context 0 w) (Transcript.seen InMemory made.record) (context 0 made.state) := by
  have hfirst := undone_stageNew .vertex [vertex] w
  simp only [Program.ofSources, Action.run_bind] at failed ⊢
  generalize (Stage.new 0 .vertex [vertex] : WorldAction InMemory Request 1 _).run w = first
    at hfirst failed ⊢
  obtain ⟨one, w₁, record₁⟩ := first
  cases one with
  | error cause =>
    simp only [Action.run_pure, List.append_nil]
    exact hfirst
  | ok vertexStage =>
    have hsecond := undone_stageNew .fragment [fragment] w₁
    simp only [Action.run_bind, Transcript.seen_append] at failed ⊢
    generalize (Stage.new 0 .fragment [fragment] : WorldAction InMemory Request 1 _).run w₁ = second
      at hsecond failed ⊢
    obtain ⟨two, w₂, record₂⟩ := second
    cases two with
    | error cause =>
      simp only [Action.run_bind, Action.run_pure, List.append_nil]
      exact hfirst.trans (hsecond.trans (undone_stageRelease vertexStage w₂))
    | ok fragmentStage =>
      have hthird := hsecond.unclaimed (hfirst.unclaimed hunclaimed)
      exact hfirst.trans (hsecond.trans (undone_new hthird failed))

/-! ## Attempts through slots -/

/-- An operation that makes a program of stages from slots or of two sources, the stages that it is
given, and those that stay in their slots. -/
inductive Constructs (s : Session InMemory 1) :
    Operation → List (Stage 1) → Slots (Stage 1) → Prop
  | new {slot : String} {names : List String} {given : List (Stage 1)} {rest : Slots (Stage 1)}
      (taken : s.stages.takeAll names = some (given, rest)) :
      Constructs s (.newProgram slot names) given rest
  | ofSources (slot vertex fragment : String) :
      Constructs s (.ofSources slot vertex fragment) [] s.stages

section Constructs

variable {s : Session InMemory 1} {operation : Operation} {given : List (Stage 1)}
variable {rest : Slots (Stage 1)}

/-- An attempt through slots undoes what the attempt itself undoes. -/
theorem Constructs.undone {e : ProgramError} (h : Constructs s operation given rest)
    (hunclaimed : Unclaimed (context 0 s.world))
    (failed : ((Session.perform 0 operation).run s).value = .error (.program e)) :
    let run := (Session.perform 0 operation).run s
    run.state.programs = s.programs ∧ run.state.stages = rest ∧
      Undone (context 0 s.world) (Transcript.seen InMemory run.record)
        (context 0 run.state.world) := by
  cases h with
  | new taken =>
    simp only [Session.perform_newProgram taken] at failed ⊢
    obtain ⟨hvalue, hrun⟩ := Session.run_settleNewProgram_of_fault failed
    rw [hrun]
    exact ⟨rfl, rfl, undone_new hunclaimed hvalue⟩
  | ofSources slot vertex fragment =>
    simp only [Session.perform_ofSources] at failed ⊢
    obtain ⟨hvalue, hrun⟩ := Session.run_settleNewProgram_of_fault failed
    rw [hrun]
    exact ⟨rfl, rfl, undone_ofSources hunclaimed hvalue⟩

/-- The stages that were given have left their slots for good. -/
theorem Constructs.tenants_stages (h : Constructs s operation given rest) :
    s.stages.tenants = ↑given + rest.tenants := by
  cases h with
  | new taken => exact Slots.tenants_takeAll taken
  | ofSources slot vertex fragment => rw [Multiset.coe_nil, Multiset.zero_add]

end Constructs

/-- What is seen of an operation accounts for what the session holds before and after it. -/
theorem runs_seen {s : Session InMemory 1} (hbounded : Bounded s.programs.tenants)
    (operation : Operation) :
    let run := (Session.perform 0 operation).run s
    Ledger.Runs s.ledger ((Transcript.seen InMemory run.record).filterMap Request.usage)
      run.state.ledger := by
  intro run
  have hseen : (Transcript.seen InMemory run.record).filterMap Request.usage =
      (trafficAt 0 (callsOf run.record)).filterMap seen := by
    rw [Transcript.seen_eq_filterMap, trafficAt, List.filterMap_filterMap,
      List.filterMap_filterMap]
    congr 1
    funext call
    obtain ⟨i, traffic⟩ := call
    rw [if_pos (Fin.fin_one_eq_zero i)]
    cases traffic <;> rfl
  rw [hseen]
  exact (Session.obeys_perform obeyed_numbers 0 operation s 0).refines _ _
    (Session.runs_perform hbounded 0 operation).1

/-- What is left of an attempt to make a program that failed: numbers and handles that are used up.
All that was made is released within the attempt, and so are the stages that were given to it. -/
structure LeavesNoTrace (given : List (Stage 1)) (rest : Slots (Stage 1)) (s : Session InMemory 1)
    (run : Outcome (Fin 1 × Traffic Request) (Session InMemory 1) Answer) : Prop where
  programs : run.state.programs = s.programs
  stages : run.state.stages = rest
  current : (context 0 run.state.world).current = (context 0 s.world).current
  device : (context 0 run.state.world).device =
    { (context 0 s.world).device with
      lastHandle := (context 0 run.state.world).device.lastHandle }
  unused (program : Option Nat) : .useProgram program ∉ Transcript.seen InMemory run.record
  releasedPrograms (program : Nat) :
    let told := (Transcript.seen InMemory run.record).filterMap Request.usage
    told.count (.deleteProgram program) = told.count (.createProgram program)
  releasedStages (stage : Nat) :
    let told := (Transcript.seen InMemory run.record).filterMap Request.usage
    told.count (.deleteStage stage) =
      told.count (.createStage stage) + (given.map fun given ↦ given.handle).count stage
  retired {handle : Nat} (made : .newProgram handle ∈ Transcript.seen InMemory run.record)
    (later : List (Move 1 (List Settings.Setting))) :
    let last := Session.after later run.state
    Vacant ⟨(context 0 s.world).nextId⟩ (context 0 last.world) last.programs.tenants

theorem Constructs.leavesNoTrace {s : Session InMemory 1} {operation : Operation}
    {given : List (Stage 1)} {rest : Slots (Stage 1)} {e : ProgramError}
    (h : Constructs s operation given rest) (hunclaimed : Unclaimed (context 0 s.world))
    (hbounded : Bounded s.programs.tenants)
    (hnumbered : Numbered (context 0 s.world) s.programs.tenants)
    (failed : ((Session.perform 0 operation).run s).value = .error (.program e)) :
    LeavesNoTrace given rest s ((Session.perform 0 operation).run s) := by
  obtain ⟨hprograms, hstages, hundone⟩ := h.undone hunclaimed failed
  have hruns := runs_seen hbounded operation
  generalize (Session.perform 0 operation).run s = run at hprograms hstages hundone hruns
  refine ⟨hprograms, hstages, hundone.current, hundone.device, hundone.unused, ?_, ?_, ?_⟩
  · intro program told
    have hsame : run.state.ledger.programCount program = s.ledger.programCount program := by
      rw [Session.ledger, hprograms]
      rfl
    have hcounts := hruns.programCount program
    rw [hsame] at hcounts
    exact (Nat.add_left_cancel hcounts).symm
  · intro stage told
    have hgiven : s.ledger.stageCount stage =
        (given.map fun given ↦ given.handle).count stage + run.state.ledger.stageCount stage := by
      rw [Ledger.stageCount, Session.ledger, h.tenants_stages, Ledger.stages_ofHeld_coe_add,
        Multiset.count_add, Ledger.stageCount, Session.ledger, hprograms, hstages]
      exact congrArg (· + _) (Multiset.coe_count _ _)
    have hcounts : s.ledger.stageCount stage + told.count (.createStage stage) =
        run.state.ledger.stageCount stage + told.count (.deleteStage stage) :=
      hruns.stageCount stage
    omega
  · intro handle made later last
    have hvacant : Vacant ⟨(context 0 s.world).nextId⟩ (context 0 run.state.world)
        run.state.programs.tenants := by
      refine ⟨hundone.numbered made, ?_⟩
      rw [hprograms]
      exact fun hmem ↦ Nat.lt_irrefl _ (hnumbered.given _ hmem)
    exact Session.holds_of_effects (I := fun _ ↦ Vacant ⟨(context 0 s.world).nextId⟩)
      (fun hvacant h ↦ hvacant.of_effect h) _ hvacant later

/-- After every run, an attempt to make a program that fails leaves no trace. -/
theorem failed_construction_leaves_no_trace (settings : Settings)
    (moves : List (Move 1 (List Settings.Setting))) {operation : Operation}
    {given : List (Stage 1)} {rest : Slots (Stage 1)} {e : ProgramError}
    (constructs : Constructs (Session.after moves (.new #v[new settings])) operation given rest)
    (failed : ((Session.perform 0 operation).run
      (Session.after moves (.new #v[new settings]))).value = .error (.program e)) :
    let s := Session.after moves (.new #v[new settings])
    LeavesNoTrace given rest s ((Session.perform 0 operation).run s) := by
  obtain ⟨hkept, hstored⟩ := stored_after settings moves
  exact constructs.leavesNoTrace (unclaimed_after settings moves)
    (fun p hp ↦ (hstored p hp).bounded) hkept.numbered failed

/-- A run after which a program is current, and two stages contradict each other. -/
def quarrellingRun : List (Move 1 (List Settings.Setting)) :=
  [.here (.ofSources "shown" "uniform float a;" ""), .here (.bind "shown"),
    .here (.newStage "one" .vertex ["uniform float b;"]),
    .here (.newStage "two" .fragment ["uniform vec2 b;"])]

/-- Two stages that declare one uniform in two ways. -/
theorem failed_construction_leaves_no_trace_quarrellingRun :
    let s := Session.after quarrellingRun (.new #v[new .blank])
    let run := (Session.perform 0 (.newProgram "broken" ["one", "two"])).run s
    let told := (Transcript.seen InMemory run.record).filterMap Request.usage
    run.value = .error (.program (.declaration (.inconsistent "b"))) ∧
      (context 0 run.state.world).device.programs = (context 0 s.world).device.programs ∧
      told.count (.deleteProgram 6) = told.count (.createProgram 6) ∧
      told.count (.deleteStage 4) = told.count (.createStage 4) + 1 ∧
      ∀ later, let last := Session.after later run.state
        Vacant ⟨1⟩ (context 0 last.world) last.programs.tenants := by
  intro s run told
  have hgiven : (s.stages.takeAll ["one", "two"]).map
      (fun taken ↦ taken.1.map fun stage ↦ stage.handle) = some [4, 5] := by
    decide +kernel
  have hfails : run.value = .error (.program (.declaration (.inconsistent "b"))) :=
    Session.eq_error_of_map (by decide +kernel)
  have hmade : .newProgram 6 ∈ Transcript.seen InMemory run.record := by decide +kernel
  have hnext : (context 0 s.world).nextId = 1 := by decide +kernel
  obtain ⟨⟨given, rest⟩, taken, hhandles⟩ := Option.map_eq_some_iff.1 hgiven
  have htrace := failed_construction_leaves_no_trace .blank quarrellingRun (.new taken) hfails
  have hstage := htrace.releasedStages 4
  rw [hhandles] at hstage
  refine ⟨hfails, ?_, htrace.releasedPrograms 6, hstage, ?_⟩
  · rw [htrace.device]
  · intro later
    have hretired := htrace.retired hmade later
    rwa [hnext] at hretired

end Shading.InMemory
