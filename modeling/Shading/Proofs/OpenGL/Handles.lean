import Shading.Proofs.InMemory.Handles
import Shading.Proofs.OpenGL.Replay

/-!
# Handles of an OpenGL driver

A back end answers a request by several calls, by other calls than the request says, or by none at
all, and it makes a shader that it lets go of before the request is answered. Still every request
does to the handles of the driver what it says: the calls in between name what is alive anyway.
Nothing is assumed of the driver, not even that it gives no handle twice. No shader has the handle
zero, and putting zero to use puts no program to use.
-/

namespace Shading.OpenGL

variable {γ : Type} [Driver γ]

/-- What a call tells of the handles that it gives, names or deletes. -/
def Call.usage : Call → Option Usage
  | createShader _ shader => if shader = 0 then none else some (.createStage shader)
  | shaderSource shader _ | compileShader shader => some (.nameStage shader)
  | getShader shader _ _ | getShaderInfoLog shader _ => some (.nameStage shader)
  | deleteShader shader => some (.deleteStage shader)
  | createProgram program => some (.createProgram program)
  | attachShader program shader => some (.attach program shader)
  | linkProgram program | getProgram program _ _ => some (.nameProgram program)
  | getProgramInfoLog program _ | getActiveUniform program _ _ => some (.nameProgram program)
  | getUniformLocation program _ _ => some (.nameProgram program)
  | getUniformInts program _ | getUniformFloats program _ => some (.nameProgram program)
  | useProgram program => if program = 0 then none else some (.nameProgram program)
  | deleteProgram program => some (.deleteProgram program)
  | getCurrentProgram _ | uniform .. => none

namespace Backend

/-- What the driver is told of handles. -/
def seen : Traffic Call → Option Usage
  | .issued call => call.usage
  | .request _ => none

theorem filterMap_seen_ask (calls : List Call) (r : Request) :
    (calls.map Traffic.issued ++ [Traffic.request r]).filterMap seen =
      calls.filterMap Call.usage := by
  have hissued : seen ∘ Traffic.issued = Call.usage := rfl
  rw [List.filterMap_append, List.filterMap_map, hissued]
  exact List.append_nil _

/-- What the driver is told of handles comes down to what the requests tell. -/
def Faithful (_ : Backend γ) (traffic : List (Traffic Call)) (_ : Backend γ) : Prop :=
  Refines seen traffic

section Answers

omit [Driver γ]

variable {α : Type} {x : Action Call (Backend γ) α} {request : α → Request}

/-- Calls stand for a request if every ledger that takes the one takes the others. -/
theorem faithful_ask
    (h : ∀ b l l', Ledger.Runs l (request (x.run b).value).usage.toList l' →
      Ledger.Runs l ((callsOf (x.run b).record).filterMap Call.usage) l') :
    Follows (OnDevice Faithful) (Context.ask x request) := by
  apply Follows.ask
  intro b l l' hruns
  rw [filterMap_requested_ask] at hruns
  rw [filterMap_seen_ask]
  exact h b l l' hruns

/-- Some requests are answered by what they say. -/
theorem faithful_of_usage_eq
    (h : ∀ b, (callsOf (x.run b).record).filterMap Call.usage =
      (request (x.run b).value).usage.toList) :
    Follows (OnDevice Faithful) (Context.ask x request) := by
  apply faithful_ask
  intro b l l' hruns
  rwa [h b]

/-- A request that names a program may be answered by any number of calls that do. -/
theorem faithful_of_repeats {program : Nat}
    (hx : Follows (Repeats Call.usage (.nameProgram program)) x)
    (hrequest : ∀ answer, (request answer).usage = some (.nameProgram program)) :
    Follows (OnDevice Faithful) (Context.ask x request) := by
  apply faithful_ask
  intro b l l' hruns
  rw [hrequest, Option.toList_some] at hruns
  obtain ⟨rfl, hstep⟩ := hruns.of_nameProgram
  exact .of_forall_eq hstep (hx b)

theorem repeats_command (f : γ → γ) {call : Call} {usage : Usage}
    (hcall : call.usage = some usage) : Follows (Repeats Call.usage usage) (command f call) := by
  intro b other hother
  simpa [command, callsOf, hcall] using hother

/-- A query names its program and does no more. -/
theorem repeats_query (f : γ → α) {call : α → Call} {usage : Usage}
    (hcall : ∀ answer, (call answer).usage = some usage) :
    Follows (Repeats Call.usage usage) (query f call) := by
  intro b other hother
  simpa [query, callsOf, hcall] using hother

end Answers

section Programs

variable (program : Nat)

theorem repeats_isLinked :
    Follows (Repeats Call.usage (.nameProgram program))
      (isLinked program : Action Call (Backend γ) _) :=
  have hR := composes_repeats Call.usage (.nameProgram program)
  .bind hR (repeats_query _ fun _ ↦ rfl) fun _ ↦ .pure hR _

theorem repeats_linkProgram :
    Follows (Repeats Call.usage (.nameProgram program))
      (linkProgram program : Action Call (Backend γ) _) := by
  have hR := composes_repeats (σ := Backend γ) Call.usage (.nameProgram program)
  apply Follows.bind hR (repeats_command _ rfl)
  intro _
  apply Follows.bind hR (repeats_isLinked program)
  intro linked
  split
  · exact .pure hR _
  · apply Follows.bind hR (repeats_query _ fun _ ↦ rfl)
    intro size
    apply Follows.bind hR (repeats_query _ fun _ ↦ rfl)
    intro written
    exact .pure hR _

theorem repeats_readNames (size : Nat) (indices : List Nat) (front : List UInt8) :
    Follows (Repeats Call.usage (.nameProgram program))
      (readNames program size indices front : Action Call (Backend γ) _) := by
  have hR := composes_repeats (σ := Backend γ) Call.usage (.nameProgram program)
  induction indices generalizing front with
  | nil => exact .pure hR _
  | cons index rest ih =>
    apply Follows.bind hR (repeats_query _ fun _ ↦ rfl)
    intro written
    exact .bind hR (ih _) fun _ ↦ .pure hR _

theorem repeats_activeUniforms :
    Follows (Repeats Call.usage (.nameProgram program))
      (activeUniforms program : Action Call (Backend γ) _) := by
  have hR := composes_repeats (σ := Backend γ) Call.usage (.nameProgram program)
  apply Follows.bind hR (repeats_query _ fun _ ↦ rfl)
  intro count
  apply Follows.bind hR (repeats_query _ fun _ ↦ rfl)
  intro longest
  apply Follows.bind hR (repeats_readNames program _ _ _)
  exact fun _ ↦ .bind hR (.note hR _ _) fun _ ↦ .pure hR _

/-- The driver is not asked for a name that it cannot read. -/
theorem repeats_uniformLocation (name : String) :
    Follows (Repeats Call.usage (.nameProgram program))
      (uniformLocation program name : Action Call (Backend γ) _) := by
  have hR := composes_repeats (σ := Backend γ) Call.usage (.nameProgram program)
  unfold uniformLocation
  split
  · exact .pure hR _
  · exact .bind hR (repeats_query _ fun _ ↦ rfl) fun _ ↦ .pure hR _

theorem repeats_queryInts (location : Int) (size : Nat) :
    Follows (Repeats Call.usage (.nameProgram program))
      (queryInts program location size : Action Call (Backend γ) _) :=
  have hR := composes_repeats Call.usage (.nameProgram program)
  .bind hR (repeats_query _ fun _ ↦ rfl) fun _ ↦ .pure hR _

theorem repeats_queryFloats (location : Int) (size : Nat) :
    Follows (Repeats Call.usage (.nameProgram program))
      (queryFloats program location size : Action Call (Backend γ) _) :=
  have hR := composes_repeats Call.usage (.nameProgram program)
  .bind hR (repeats_query _ fun _ ↦ rfl) fun _ ↦ .pure hR _

/-- A program is put to use by one call, or it was in use already. -/
theorem repeats_useProgram :
    Follows (Repeats Call.usage (.nameProgram program))
      (Device.useProgram (some program) : Action Call (Backend γ) Unit) := by
  intro b usage husage
  rw [device_useProgram, run_useProgram] at husage
  split at husage
  · simp at husage
  · rw [callsOf_append, callsOf_borrowNotes] at husage
    by_cases hzero : program = 0
    · simp [callsOf, Call.usage, hzero] at husage
    · simpa [callsOf, Call.usage, hzero] using husage

end Programs

section Stages

variable (type : StageType) (sources : List String)

/-- What there is to do with a shader that the driver has made. -/
def compile (shader : Nat) : Action Call (Backend γ) Int := do
  command (Driver.shaderSource shader sources) (.shaderSource shader sources)
  command (Driver.compileShader shader) (.compileShader shader)
  query (Driver.shaderParameter shader .compileStatus) (.getShader shader .compileStatus)

/-- A stage is made in two parts, of which the first gives the handle. -/
theorem newStage_eq :
    (newStage type sources : Action Call (Backend γ) _) =
      if sources.any holdsZero then return .error (.compilationFailed type zeroInSource)
      else do
        let shader ← create (Driver.createShader type) (.createShader type)
        if shader = 0 then return .error (.compilationFailed type noShader)
        else
          let status ← compile sources shader
          if status = 1 then return .ok shader
          else return .error (← rejectShader type shader) := by
  simp only [newStage, compile, bind_assoc]

/-- A source with a zero makes no call at all. -/
theorem run_newStage (b : Backend γ) :
    let created := (create (Driver.createShader type) (.createShader type)).run b
    let compiled := (compile sources created.value).run created.state
    let rejected := (rejectShader type created.value).run compiled.state
    (newStage type sources : Action Call (Backend γ) _).run b =
      if sources.any holdsZero then ⟨.error (.compilationFailed type zeroInSource), b, []⟩
      else if created.value = 0 then
        ⟨.error (.compilationFailed type noShader), created.state, created.record⟩
      else if compiled.value = 1 then
        ⟨.ok created.value, compiled.state, created.record ++ compiled.record⟩
      else
        ⟨.error rejected.value, rejected.state,
          created.record ++ compiled.record ++ rejected.record⟩ := by
  intro created compiled rejected
  rw [newStage_eq]
  split
  · rfl
  rw [Action.run_bind]
  by_cases hnone : created.value = 0
  · simp [created, hnone]
  by_cases hstatus : compiled.value = 1
  · simp [created, compiled, hnone, hstatus]
  · simp [created, compiled, rejected, hnone, hstatus]

theorem repeats_compile (shader : Nat) :
    Follows (Repeats Call.usage (.nameStage shader))
      (compile sources shader : Action Call (Backend γ) _) :=
  have hR := composes_repeats Call.usage (.nameStage shader)
  .bind hR (repeats_command _ rfl) fun _ ↦ .bind hR (repeats_command _ rfl) fun _ ↦
    repeats_query _ fun _ ↦ rfl

theorem usages_rejectShader (shader : Nat) (b : Backend γ) :
    (callsOf ((rejectShader type shader : Action Call (Backend γ) _).run b).record).filterMap
      Call.usage = [.nameStage shader, .nameStage shader] ++ [.deleteStage shader] := rfl

theorem usages_create {shader : Nat} (hsome : shader ≠ 0) :
    (callsOf [.call (.createShader type shader)]).filterMap Call.usage = [.createStage shader] := by
  simp [callsOf, Call.usage, hsome]

/-- A shader that does not compile is gone before anybody learns of it. -/
theorem faithful_newStage :
    Follows (OnDevice Faithful)
      (Context.newStage type sources : ContextAction (Backend γ) Call _) := by
  apply faithful_ask
  intro b l l' hruns
  have hrun : (Device.newStage type sources : Action Call (Backend γ) _).run b = _ :=
    run_newStage type sources b
  generalize hcreated : (create (Driver.createShader type) (.createShader type)).run b = created
    at hrun
  have hrecord : created.record = [.call (.createShader type created.value)] := by
    rw [← hcreated]
    rfl
  rw [hrun] at hruns ⊢
  by_cases hzero : sources.any holdsZero
  · rw [if_pos hzero] at hruns ⊢
    exact hruns
  by_cases hnone : created.value = 0
  · rw [if_neg hzero, if_pos hnone] at hruns ⊢
    rw [hrecord, hnone]
    exact hruns
  generalize hcompiled : (compile sources created.value).run created.state = compiled
    at hrun hruns ⊢
  let names := (callsOf compiled.record).filterMap Call.usage
  have hnames : ∀ usage ∈ names, usage = .nameStage created.value := by
    have hcompile := repeats_compile sources created.value created.state
    rwa [hcompiled] at hcompile
  by_cases hstatus : compiled.value = 1
  · rw [if_neg hzero, if_neg hnone, if_pos hstatus] at hruns ⊢
    rw [callsOf_append, List.filterMap_append, hrecord, usages_create type hnone]
    exact .stageNames hruns.of_single hnames
  · rw [if_neg hzero, if_neg hnone, if_neg hstatus] at hruns ⊢
    rw [callsOf_append, callsOf_append, List.filterMap_append, List.filterMap_append, hrecord,
      usages_create type hnone, usages_rejectShader]
    have hall : ∀ usage ∈ names ++ [.nameStage created.value, .nameStage created.value],
        usage = .nameStage created.value := by
      rw [List.forall_mem_append]
      exact ⟨hnames, by simp⟩
    cases hruns
    have hgone : Ledger.Runs l _ l := .stageGone hall
    simpa [names] using hgone

end Stages

theorem faithful_useProgram (program : Option Nat) :
    Follows (OnDevice Faithful)
      (Context.useProgram program : ContextAction (Backend γ) Call Unit) := by
  cases program with
  | some program => exact faithful_of_repeats (repeats_useProgram program) fun _ ↦ rfl
  | none =>
    apply faithful_of_usage_eq
    intro b
    rw [device_useProgram, run_useProgram]
    split
    · rw [callsOf_borrowNotes]
      rfl
    · rw [callsOf_append, callsOf_borrowNotes]
      rfl

/-- Taking a program out of use to destroy it names no program. -/
theorem faithful_destroyProgram (program : Nat) :
    Follows (OnDevice Faithful)
      (Context.destroyProgram program : ContextAction (Backend γ) Call Unit) := by
  apply faithful_of_usage_eq
  intro b
  rw [run_destroyProgram]
  split <;> rfl

/-- Every request is stood for by its calls. -/
theorem obeyed_faithful : Obeyed (Faithful (γ := γ)) where
  toComposes := Refines.composes
  newStage := faithful_newStage
  destroyStage _ := faithful_of_usage_eq fun _ ↦ rfl
  newProgram := faithful_of_usage_eq fun _ ↦ rfl
  attachStage _ _ := faithful_of_usage_eq fun _ ↦ rfl
  linkProgram program := faithful_of_repeats (repeats_linkProgram program) fun _ ↦ rfl
  isLinked program := faithful_of_repeats (repeats_isLinked program) fun _ ↦ rfl
  destroyProgram := faithful_destroyProgram
  useProgram := faithful_useProgram
  activeUniforms program := faithful_of_repeats (repeats_activeUniforms program) fun _ ↦ rfl
  uniformLocation program name :=
    faithful_of_repeats (repeats_uniformLocation program name) fun _ ↦ rfl
  upload _ _ _ := faithful_of_usage_eq fun _ ↦ rfl
  queryInts program location size :=
    faithful_of_repeats (repeats_queryInts program location size) fun _ ↦ rfl
  queryFloats program location size :=
    faithful_of_repeats (repeats_queryFloats program location size) fun _ ↦ rfl

/-- The calls of a whole run are in order because its requests are. -/
theorem orderly_wholeTraffic {ε : Type} [Environment (Backend γ) Call ε] (b : Backend γ)
    (moves : List (Move 1 ε)) :
    Orderly ((Session.wholeTraffic moves (Session.new #v[b])).filterMap seen) := by
  have hfaithful : Refines seen (Session.wholeTraffic moves (Session.new #v[b])) :=
    Session.obeys_wholeTraffic obeyed_faithful (fun _ _ ↦ .nil) (Session.new #v[b]) moves
  exact hfaithful.orderly

end Backend

end OpenGL

open OpenGL Backend Session

/-- Whatever fails on the way, a session that has ended has let go once of every program and every
stage, and has asked nothing of them before or after their time. If a driver gives a handle more
than once, it gets it back as often. -/
theorem handles_released_once (settings : InMemory.Settings)
    (steps : List (Move 1 (List InMemory.Settings.Setting))) {γ ε : Type} [Driver γ]
    [Environment (Backend γ) Call ε] (b : Backend γ) (moves : List (Move 1 ε)) :
    ReleasedOnce
        ((wholeTraffic steps (Session.new #v[InMemory.new settings])).filterMap InMemory.seen) ∧
      let told := (wholeTraffic moves (Session.new #v[b])).filterMap Backend.seen
      Orderly told ∧ ((told.filterMap Usage.made).Nodup → ReleasedOnce told) := by
  obtain ⟨horderly, hmade⟩ := InMemory.orderly_wholeTraffic settings steps
  have htold := Backend.orderly_wholeTraffic b moves
  exact ⟨horderly.releasedOnce hmade, htold, htold.releasedOnce⟩

/-- Sources that do not compile, one of them next to one that does, a source that no driver can
read, no sources at all, and a stage that does not link. -/
def faultyRun : List (Move 1 Event) :=
  [.here (.newStage "broken" .vertex ["COMPILE_ERROR"]),
    .here (.ofSources "half" "" "COMPILE_ERROR"), .here (.newStage "unreadable" .vertex ["\x00"]),
    .here (.newProgram "bare" []),
    .here (.ofSources "whole" "" ""), .here (.bind "whole"),
    .here (.newStage "stage" .fragment ["LINK_ERROR"]), .here (.append "whole" "stage"),
    .here (.newStage "spare" .vertex [""])]

theorem handles_released_once_faultyRun :
    let told := (wholeTraffic faultyRun
      (Session.new #v[opened (Scripted.new .blank)])).filterMap Backend.seen
    told.filterMap Usage.made = [1, 2, 3, 4, 5, 6, 7, 8] ∧ ReleasedOnce told := by
  intro told
  have hmade : told.filterMap Usage.made = [1, 2, 3, 4, 5, 6, 7, 8] := by
    decide +kernel
  refine ⟨hmade, (handles_released_once .blank [] (opened (Scripted.new .blank)) faultyRun).2.2 ?_⟩
  have hdistinct : [1, 2, 3, 4, 5, 6, 7, 8].Nodup := by
    decide
  exact hmade.symm ▸ hdistinct

end Shading
