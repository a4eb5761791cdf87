import Shading.Proofs.Program.Traffic
import Shading.Proofs.Session.OneContext

/-!
# What operations ask for

Every operation has a few requests that it can make, whatever the device answers and whatever the
session holds. Only four of them attach stages or link, and besides uniform access and the question
for the active uniforms only binding and appending put a program to use.
-/

namespace Shading

open Shading.Uniform World

/-- The requests that an operation can make. -/
def Operation.mayAsk (operation : Operation) (request : Request) : Bool :=
  match operation with
  | .newStage .. => (request matches .newStage .. | .destroyStage _)
  | .dropStage _ | .collect .. => (request matches .destroyStage _)
  | .newProgram .. =>
    (request matches .newProgram _ | .attachStage .. | .linkProgram .. | .destroyProgram _ |
      .destroyStage _)
  | .ofSources .. =>
    (request matches .newStage .. | .newProgram _ | .attachStage .. | .linkProgram .. |
      .destroyProgram _ | .destroyStage _)
  | .append .. | .bind _ => (request matches .attachStage .. | .linkProgram .. | .useProgram _)
  | .unbind _ => (request matches .useProgram none)
  | .destroy _ => (request matches .useProgram none | .destroyProgram _ | .destroyStage _)
  | .drop _ => (request matches .destroyProgram _ | .destroyStage _)
  | .isLinked _ => (request matches .isLinked _)
  | .activeUniforms _ => (request matches .activeUniforms _)
  | .set .. => (request matches .activeUniforms _ | .uniformLocation .. | .upload ..)
  | .get .. =>
    (request matches .activeUniforms _ | .uniformLocation .. | .queryInts .. | .queryFloats ..)
  | .stageInfo _ | .isCurrent _ | .uniforms _ | .descriptor .. | .stageTypes _ | .listing _ => false

variable {κ μ σ τ δ α β : Type} {n : Nat}

/-- Every call has the property. -/
def Only (P : κ → Prop) (_ : σ) (calls : List κ) (_ : σ) : Prop :=
  ∀ call ∈ calls, P call

/-- What every call satisfies, all calls of a sequence do. -/
theorem composes_only (P : κ → Prop) : Composes (Only (σ := σ) P) := by
  refine ⟨fun _ _ h ↦ absurd h List.not_mem_nil, ?_⟩
  intro s s' s'' first second earlier later call hcall
  exact (List.mem_append.1 hcall).elim (earlier call) (later call)

theorem follows_only_focus {P : κ → Prop} {part : σ → τ} {restore : τ → σ → σ} {rename : μ → κ}
    {x : Action μ τ α} (hx : Follows (Only fun call ↦ P (rename call)) x) :
    Follows (Only P) (Action.focus part restore rename x) := by
  intro s call hcall
  rw [Action.run_focus, callsOf_map] at hcall
  obtain ⟨inner, hinner, rfl⟩ := List.mem_map.1 hcall
  exact hx _ inner hinner

/-- What the device does by itself does not count. -/
def Traffic.Asks (P : Request → Prop) : Traffic κ → Prop
  | request asked => P asked
  | .issued _ => True

/-- The action makes only requests with the property. -/
abbrev Asks (P : Request → Prop) (x : ContextAction δ κ α) : Prop :=
  Follows (Only (Traffic.Asks P)) x

/-- The same for an action in a world or in a session. -/
abbrev AsksIn (P : Request → Prop) (x : Action (Fin n × Traffic κ) σ α) : Prop :=
  Follows (Only fun call ↦ call.2.Asks P) x

/-- What is told as asked was a call. -/
theorem mem_callsOf_of_asked {request : Request} {record : List (Entry (Fin n × Traffic κ))}
    (h : .asked request ∈ (record.map Deed.recorded).filterMap Deed.act) :
    ∃ i, (i, .request request) ∈ callsOf record := by
  obtain ⟨deed, hdeed, hact⟩ := List.mem_filterMap.1 h
  obtain ⟨entry, hentry, rfl⟩ := List.mem_map.1 hdeed
  rcases entry with ⟨i, other | call⟩ | ⟨level, text⟩
  · cases hact
    exact ⟨i, List.mem_filterMap.2 ⟨_, hentry, rfl⟩⟩
  · cases hact
  · cases hact

section Combining

variable {P : Request → Prop}

/-- The request itself must be allowed. -/
theorem asks_ask {x : Action κ δ α} {request : α → Request} (h : ∀ answer, P (request answer)) :
    Asks P (Context.ask x request) := by
  intro c call hcall
  rw [Context.run_ask, callsOf_append, callsOf_map] at hcall
  rcases List.mem_append.1 hcall with hcall | hcall
  · obtain ⟨issued, -, rfl⟩ := List.mem_map.1 hcall
    trivial
  · rw [List.mem_singleton.1 hcall]
    exact h _

/-- Every request on record was allowed. -/
theorem Asks.of_mem_requests {x : ContextAction δ κ α} (hx : Asks P x) {c : Context δ}
    {request : Request} (h : request ∈ requests (x.run c).record) : P request := by
  obtain ⟨entry, hentry, hrequest⟩ := List.mem_filterMap.1 h
  have hcall : Traffic.request request ∈ callsOf (x.run c).record := by
    rcases entry with ⟨other | call⟩ | ⟨level, text⟩
    · cases hrequest
      exact List.mem_filterMap.2 ⟨_, hentry, rfl⟩
    · cases hrequest
    · cases hrequest
  exact hx c _ hcall

theorem asks_pure (a : α) : Asks P (pure a : ContextAction δ κ α) :=
  .pure (composes_only _) a

theorem asks_note (level : Level) (text : String) :
    Asks P (Action.note level text : ContextAction δ κ Unit) :=
  .note (composes_only _) level text

theorem asks_get : Asks P (get : ContextAction δ κ (Context δ)) :=
  .get (composes_only _)

theorem asks_setCurrent (current : Option ProgramId) :
    Asks P (Context.setCurrent current : ContextAction δ κ Unit) :=
  (composes_only _).refl

theorem asks_newId : Asks P (Context.newId : ContextAction δ κ ProgramId) :=
  (composes_only _).refl

theorem Asks.bind {x : ContextAction δ κ α} {f : α → ContextAction δ κ β} (hx : Asks P x)
    (hf : ∀ a, Asks P (f a)) : Asks P (x >>= f) :=
  Follows.bind (composes_only _) hx hf

theorem AsksIn.pure (a : α) : AsksIn P (Pure.pure a : Action (Fin n × Traffic κ) σ α) :=
  Follows.pure (composes_only _) a

theorem AsksIn.bind {x : Action (Fin n × Traffic κ) σ α} {f : α → Action (Fin n × Traffic κ) σ β}
    (hx : AsksIn P x) (hf : ∀ a, AsksIn P (f a)) : AsksIn P (x >>= f) :=
  Follows.bind (composes_only _) hx hf

/-- What is allowed in a context is allowed in the session. -/
theorem Asks.within {x : ContextAction δ κ α} (hx : Asks P x) (i : Fin n) :
    AsksIn P (within i x) :=
  follows_only_focus hx

theorem AsksIn.onWorld {x : WorldAction δ κ n α} (hx : AsksIn P x) :
    AsksIn P (Session.onWorld x) :=
  follows_only_focus hx

theorem asksIn_modify (f : Session δ n → Session δ n) :
    AsksIn P (modify f : SessionAction δ κ n PUnit) :=
  (composes_only _).refl

theorem asksIn_get : AsksIn P (get : SessionAction δ κ n (Session δ n)) :=
  .get (composes_only _)

end Combining

section Worlds

variable [Device δ κ] {P : Request → Prop} (i : Fin n)

/-- To make a stage asks to compile. -/
theorem asksIn_stageNew (type : StageType) (sources : List String)
    (hcompile : ∀ handle, P (.newStage type handle)) :
    AsksIn P (Stage.new i type sources : WorldAction δ κ n _) := by
  apply Asks.within
  split
  · exact asks_pure _
  · apply Asks.bind (asks_ask fun _ ↦ hcompile _)
    intro answer
    cases answer <;> exact .bind (asks_note _ _) fun _ ↦ asks_pure _

variable (hstage : ∀ stage, P (.destroyStage stage))

include hstage

theorem asksIn_stageRelease (stage : Stage n) :
    AsksIn P (stage.release : WorldAction δ κ n Unit) :=
  (asks_ask fun _ ↦ hstage _).within _

theorem asksIn_releaseAll (stages : List (Stage n)) :
    AsksIn P (stages.forM Stage.release : WorldAction δ κ n Unit) :=
  .forM (composes_only _) (asksIn_stageRelease hstage) _

variable (hprogram : ∀ program, P (.destroyProgram program))

include hprogram

theorem asksIn_release (p : Program n) : AsksIn P (p.release : WorldAction δ κ n Unit) := by
  apply AsksIn.bind
  · apply Asks.within
    exact p.follows_retire (composes_only _) asks_setCurrent fun _ ↦ asks_ask fun _ ↦ hprogram _
  · exact fun _ ↦ asksIn_releaseAll hstage _

/-- To destroy a program may ask to take it out of use first. -/
theorem asksIn_destroy (p : Program n) (huse : P (.useProgram none)) :
    AsksIn P (p.destroy i : WorldAction δ κ n Unit) := by
  refine .bind (Asks.within (.bind asks_get fun c ↦ ?_) _) fun p ↦ asksIn_release hstage hprogram p
  have hunbind : Asks P (p.unbind : ContextAction δ κ _) :=
    p.follows_unbind (composes_only _) asks_setCurrent (asks_ask fun _ ↦ huse)
  split
  · exact hunbind.bind fun _ ↦ .bind (asks_note _ _) fun _ ↦ asks_pure _
  · exact .bind (asks_pure _) fun _ ↦ .bind (asks_note _ _) fun _ ↦ asks_pure _

variable (hmake : ∀ handle, P (.newProgram handle))
  (hattach : ∀ program stage, P (.attachStage program stage))
  (hlink : ∀ program linked, P (.linkProgram program linked))

include hmake hattach hlink

theorem asksIn_new (stages : List (Stage n)) :
    AsksIn P (Program.new i stages : WorldAction δ κ n _) := by
  unfold Program.new
  split
  · exact .pure _
  apply AsksIn.bind
  · apply Asks.within
    exact Program.follows_assemble (composes_only _) (fun _ _ ↦ asks_ask fun _ ↦ hattach _ _)
      (fun _ ↦ asks_ask fun _ ↦ hlink _ _) (asks_ask hmake) asks_newId i stages
  · rintro ⟨p, linked⟩
    cases linked with
    | ok done => exact .pure _
    | error e => exact .bind (asksIn_release hstage hprogram p) fun _ ↦ .pure _

/-- To make a program from sources asks to compile, to link and to release. -/
theorem asksIn_ofSources (vertex fragment : String)
    (hcompile : ∀ type handle, P (.newStage type handle)) :
    AsksIn P (Program.ofSources i vertex fragment : WorldAction δ κ n _) := by
  unfold Program.ofSources
  apply AsksIn.bind (asksIn_stageNew i _ _ (hcompile _))
  intro first
  cases first with
  | error e => exact .pure _
  | ok first =>
    apply AsksIn.bind (asksIn_stageNew i _ _ (hcompile _))
    intro second
    cases second with
    | error e => exact .bind (asksIn_stageRelease hstage first) fun _ ↦ .pure _
    | ok second => exact asksIn_new i hstage hprogram hmake hattach hlink _

end Worlds

namespace Session

section Slots

variable {P : Request → Prop}

theorem asksIn_withStage (name : String) {f : Stage n → SessionAction δ κ n Answer}
    (hf : ∀ stage, AsksIn P (f stage)) : AsksIn P (withStage name f) := by
  apply AsksIn.bind asksIn_get
  intro s
  cases s.stages[name]? with
  | some stage => exact hf stage
  | none => exact .pure _

theorem asksIn_withProgram (name : String) {f : Program n → SessionAction δ κ n Answer}
    (hf : ∀ p, AsksIn P (f p)) : AsksIn P (withProgram name f) := by
  apply AsksIn.bind asksIn_get
  intro s
  cases s.programs[name]? with
  | some p => exact hf p
  | none => exact .pure _

theorem asksIn_withStages (names : List String) {f : List (Stage n) → SessionAction δ κ n Answer}
    (hf : ∀ stages, AsksIn P (f stages)) : AsksIn P (withStages names f) := by
  apply AsksIn.bind asksIn_get
  intro s
  cases s.stages.takeAll names with
  | some taken => exact .bind (asksIn_modify _) fun _ ↦ hf _
  | none => exact .pure _

theorem asksIn_keepProgram (name : String) (attempt : Program n × Except ProgramError Unit) :
    AsksIn P (keepProgram name attempt : SessionAction δ κ n Answer) := by
  apply AsksIn.bind (asksIn_modify _)
  intro _
  cases attempt.2 <;> exact .pure _

variable [Device δ κ] (hstage : ∀ stage, P (.destroyStage stage))

include hstage

theorem asksIn_settleStage (name : String) (stage : Stage n) :
    AsksIn P (settleStage name stage : SessionAction δ κ n Unit) := by
  apply AsksIn.bind asksIn_get
  intro s
  apply AsksIn.bind (asksIn_modify _)
  intro _
  cases s.stages[name]? with
  | some tenant => exact (asksIn_stageRelease hstage tenant).onWorld
  | none => exact .pure _

/-- The tenant that has to leave is released. -/
theorem asksIn_settleNewProgram (hprogram : ∀ program, P (.destroyProgram program)) (name : String)
    (made : Except ProgramError (Program n)) :
    AsksIn P (settleNewProgram name made : SessionAction δ κ n Answer) := by
  cases made with
  | error e => exact .pure _
  | ok p =>
    refine .bind (.bind asksIn_get fun s ↦ .bind (asksIn_modify _) fun _ ↦ ?_) fun _ ↦ .pure _
    cases s.programs[name]? with
    | some tenant => exact (asksIn_release hstage hprogram tenant).onWorld
    | none => exact .pure _

end Slots

variable [Device δ κ]

/-- Whatever the device answers, an operation makes only the requests that it can make. -/
theorem asksIn_perform (i : Fin n) (operation : Operation) :
    AsksIn (fun request ↦ operation.mayAsk request = true)
      (perform i operation : SessionAction δ κ n Answer) := by
  have hone := composes_only (κ := Traffic κ) (σ := Context δ)
    (Traffic.Asks fun request ↦ operation.mayAsk request = true)
  cases operation with
  | newStage slot type sources =>
    apply AsksIn.bind (asksIn_stageNew i type sources fun _ ↦ rfl).onWorld
    intro stage
    cases stage with
    | ok stage => exact .bind (asksIn_settleStage (fun _ ↦ rfl) slot stage) fun _ ↦ .pure _
    | error e => exact .pure _
  | stageInfo name => exact asksIn_withStage name fun _ ↦ .pure _
  | dropStage name =>
    refine asksIn_withStage name fun stage ↦ .bind (asksIn_modify _) fun _ ↦ ?_
    exact .bind (asksIn_stageRelease (fun _ ↦ rfl) stage).onWorld fun _ ↦ .pure _
  | collect names index =>
    refine asksIn_withStages names fun stages ↦ ?_
    exact .bind (asksIn_releaseAll (fun _ ↦ rfl) stages).onWorld fun _ ↦ .pure _
  | newProgram slot names =>
    refine asksIn_withStages names fun stages ↦ ?_
    apply AsksIn.bind (asksIn_new i (fun _ ↦ rfl) (fun _ ↦ rfl) (fun _ ↦ rfl) (fun _ _ ↦ rfl)
      (fun _ _ ↦ rfl) stages).onWorld
    exact asksIn_settleNewProgram (fun _ ↦ rfl) (fun _ ↦ rfl) slot
  | ofSources slot vertex fragment =>
    apply AsksIn.bind (asksIn_ofSources i (fun _ ↦ rfl) (fun _ ↦ rfl) (fun _ ↦ rfl) (fun _ _ ↦ rfl)
      (fun _ _ ↦ rfl) vertex fragment fun _ _ ↦ rfl).onWorld
    exact asksIn_settleNewProgram (fun _ ↦ rfl) (fun _ ↦ rfl) slot
  | append program stage =>
    refine asksIn_withProgram program fun p ↦ asksIn_withStage stage fun given ↦ ?_
    refine .bind (asksIn_modify _) fun _ ↦ .bind (Asks.within ?_ i).onWorld (asksIn_keepProgram _)
    exact p.follows_append hone asks_setCurrent (fun _ _ ↦ asks_ask fun _ ↦ rfl)
      (fun _ ↦ asks_ask fun _ ↦ rfl) (fun _ ↦ asks_ask fun _ ↦ rfl) given
  | bind name =>
    refine asksIn_withProgram name fun p ↦ .bind (Asks.within ?_ i).onWorld (asksIn_keepProgram _)
    exact p.follows_bind hone asks_setCurrent (fun _ _ ↦ asks_ask fun _ ↦ rfl)
      (fun _ ↦ asks_ask fun _ ↦ rfl) (fun _ ↦ asks_ask fun _ ↦ rfl)
  | unbind name =>
    refine asksIn_withProgram name fun p ↦ .bind (Asks.within ?_ i).onWorld fun _ ↦
      asksIn_keepProgram _ _
    exact p.follows_unbind hone asks_setCurrent (asks_ask fun _ ↦ rfl)
  | destroy name =>
    refine asksIn_withProgram name fun p ↦ .bind (asksIn_modify _) fun _ ↦ ?_
    refine .bind (AsksIn.onWorld ?_) fun _ ↦ .pure _
    exact asksIn_destroy i (fun _ ↦ rfl) (fun _ ↦ rfl) p rfl
  | drop name =>
    refine asksIn_withProgram name fun p ↦ .bind (asksIn_modify _) fun _ ↦ ?_
    exact .bind (asksIn_release (fun _ ↦ rfl) (fun _ ↦ rfl) p).onWorld fun _ ↦ .pure _
  | isCurrent name => exact asksIn_withProgram name fun _ ↦ .bind asksIn_get fun _ ↦ .pure _
  | isLinked name | activeUniforms name =>
    refine asksIn_withProgram name fun _ ↦ .bind (Asks.within ?_ i).onWorld fun _ ↦ .pure _
    exact asks_ask fun _ ↦ rfl
  | uniforms name | descriptor name _ | stageTypes name | listing name =>
    exact asksIn_withProgram name fun _ ↦ .pure _
  | set program name value =>
    refine asksIn_withProgram program fun p ↦ .bind (Asks.within ?_ i).onWorld fun answer ↦ ?_
    · exact Program.follows_setUniform name hone (asks_ask fun _ ↦ rfl)
        (fun _ ↦ asks_ask fun _ ↦ rfl) (fun _ _ _ ↦ asks_ask fun _ ↦ rfl) value
    · cases answer <;> exact .pure _
  | get program name =>
    refine asksIn_withProgram program fun p ↦ .bind (Asks.within ?_ i).onWorld fun answer ↦ ?_
    · exact Program.follows_getUniform name hone (asks_ask fun _ ↦ rfl)
        (fun _ ↦ asks_ask fun _ ↦ rfl) (fun _ _ ↦ asks_ask fun _ ↦ rfl)
        (fun _ _ ↦ asks_ask fun _ ↦ rfl)
    · cases answer <;> exact .pure _

/-- No operation asks for what it may not ask. -/
theorem mayAsk_of_asked {ε : Type} [Environment δ κ ε] {i : Fin n} {operation : Operation}
    {s : Session δ n} {request : Request}
    (h : .asked request ∈ actsOf (deeds (.perform i operation : Move n ε) s)) :
    operation.mayAsk request = true := by
  rw [deeds, actsOf_map, List.filterMap_append] at h
  rcases List.mem_append.1 h with hrecorded | hwritten
  · obtain ⟨j, hcall⟩ := mem_callsOf_of_asked hrecorded
    exact asksIn_perform i operation s _ hcall
  · obtain ⟨deed, hdeed, hact⟩ := List.mem_filterMap.1 hwritten
    -- what is written is no request
    unfold writes at hdeed
    split at hdeed
    · rw [List.mem_singleton.1 hdeed] at hact
      cases hact
    · cases hdeed

end Session

end Shading
