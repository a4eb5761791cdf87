import Shading.Proofs.Session.Operation

/-!
# Sessions with one context

With a single context a change comes down to what it does to that context and to the programs, the
requests it makes, and the writes it completes. What is told of a program is the sequence of the
acts of all moves about it.
-/

namespace Shading

open Shading.Uniform World

-- The only context is found through this instance everywhere, whatever else is imported.
instance World.neZero_one : @NeZero Nat Zero.ofOfNat0 1 := ⟨Nat.one_ne_zero⟩

/-- An operation in the only context. -/
def Move.here {ε : Type} (operation : Operation) : Move 1 ε :=
  .perform 0 operation

/-- An event in the only context. -/
def Move.occurs {ε : Type} (event : ε) : Move 1 ε :=
  .react 0 event

inductive Act
  | asked (request : Request)
  | wrote (name : String) (data : Data)

def Deed.act {n : Nat} {κ : Type} : Deed n κ → Option Act
  | .recorded (.call (_, .request request)) => some (.asked request)
  | .recorded _ => none
  | .wrote name data => some (.wrote name data)

/-- What is told of all programs. -/
def actsOf {n : Nat} {κ : Type} (history : History n κ) : List Act :=
  history.filterMap fun deed ↦ deed.2.act

/-- The acts of the moves about one program. -/
def actsAbout {n : Nat} {κ : Type} (history : History n κ) (id : ProgramId) : List Act :=
  history.filterMap fun deed ↦ if deed.1 = some id then deed.2.act else none

def asked {κ : Type} (record : List (Entry (Traffic κ))) : List Act :=
  (requests record).map .asked

def written (name : String) (data : Data) : Except UniformError Unit → List Act
  | .ok () => [.wrote name data]
  | .error _ => []

/-- What is told of every program after some more acts, all about one of them. -/
def extend (past : ProgramId → List Act) (subject : Option ProgramId) (acts : List Act)
    (id : ProgramId) : List Act :=
  if subject = some id then past id ++ acts else past id

section Acts

variable {n : Nat} {κ : Type}

theorem actsOf_append (first second : History n κ) :
    actsOf (first ++ second) = actsOf first ++ actsOf second :=
  List.filterMap_append

theorem actsOf_map (subject : Option ProgramId) (deeds : List (Deed n κ)) :
    actsOf (deeds.map (subject, ·)) = deeds.filterMap Deed.act :=
  List.filterMap_map

theorem actsAbout_append (first second : History n κ) (id : ProgramId) :
    actsAbout (first ++ second) id = actsAbout first id ++ actsAbout second id :=
  List.filterMap_append

theorem actsAbout_extend (log : History n κ) (subject : Option ProgramId)
    (deeds : List (Deed n κ)) :
    actsAbout (log ++ deeds.map (subject, ·)) =
      extend (actsAbout log) subject (deeds.filterMap Deed.act) := by
  funext id
  rw [actsAbout_append, extend]
  by_cases hsubject : subject = some id
  · simp [actsAbout, List.filterMap_map, hsubject]
  · simp [actsAbout, List.filterMap_map, hsubject]

theorem filterMap_act_recorded (i : Fin n) (record : List (Entry (Traffic κ))) :
    ((record.map (Entry.map (i, ·))).map Deed.recorded).filterMap Deed.act = asked record := by
  induction record with
  | nil => rfl
  | cons entry rest ih =>
    rcases entry with ⟨_ | _⟩ | ⟨_, _⟩
    · exact congrArg (_ :: ·) ih
    · exact ih
    · exact ih

theorem asked_ask {δ α : Type} (x : Action κ δ α) (request : α → Request) (c : Context δ) :
    asked ((Context.ask x request).run c).record =
      [.asked (request (x.run c.device).value)] := by
  rw [asked, Context.run_ask, requests_append, requests_map_issued]
  rfl

end Acts

section Deeds

variable {δ κ ε : Type} [Device δ κ] [Environment δ κ ε] {n : Nat}

/-- The acts of a move are about its subject. -/
theorem actsAbout_deeds (m : Move n ε) (s : Session δ n) (id : ProgramId) :
    actsAbout (Session.deeds m s) id =
      if s.subject m = some id then actsOf (Session.deeds m s) else [] := by
  have hextend := congrFun (actsAbout_extend ([] : History n κ) (s.subject m)
    (((Session.move m).run s).record.map Deed.recorded ++
      Session.writes m ((Session.move m).run s).value)) id
  rw [List.nil_append] at hextend
  rw [Session.deeds, hextend, extend, actsOf_map]
  rfl

theorem actsOf_deeds_react (i : Fin n) (event : ε) (s : Session δ n) :
    actsOf (Session.deeds (.react i event) s) = [] := by
  have hwrites : (Session.writes (.react i event : Move n ε)
      ((Session.move (.react i event)).run s).value : List (Deed n κ)) = [] := rfl
  rw [Session.deeds, actsOf_map, hwrites, (Session.run_move_react i event s).2, List.append_nil,
    filterMap_act_recorded, asked, requests_map_issued, List.map_nil]

end Deeds

/-- What a change does to the only context and to its programs. -/
inductive Effect {δ κ ε : Type} [Device δ κ] [Environment δ κ ε] (subject : Option ProgramId) :
    Context δ → Multiset (Program 1) → List Act → Context δ → Multiset (Program 1) → Prop
  | nothing {c programs} : Effect subject c programs [] c programs
  | newStage {c programs} (type : StageType) (sources : List String) :
      Effect subject c programs (asked ((Context.newStage type sources).run c).record)
        ((Context.newStage type sources).run c).state programs
  | destroyStage {c programs} (stage : Nat) :
      Effect subject c programs (asked ((Context.destroyStage stage).run c).record)
        ((Context.destroyStage stage).run c).state programs
  | make {c programs p made linked} {stages : List (Stage 1)} (nonempty : stages ≠ [])
      (about : subject = some ⟨c.nextId⟩)
      (created : (Device.newProgram : Action κ δ Nat).run c.device = made)
      (fresh : p = Program.fresh ⟨c.nextId⟩ made.value 0 stages)
      (submitted : (p.submit : Action κ δ _).run made.state = linked) :
      Effect subject c programs
        ((.newProgram made.value :: p.linkRequests linked.value.isOk).map .asked)
        { c with device := linked.state, nextId := c.nextId + 1 }
        ((p.settle linked.value).1 ::ₘ programs)
  | grow {c programs p} (stage : Stage 1) (unmarked : p.bound = false)
      (about : subject = some p.id) :
      Effect subject c (p ::ₘ programs) [] c (p.grow stage ::ₘ programs)
  | bind {c c' programs p q q' done requests} (same : q = p ∨ ∃ stage, q = p.grow stage)
      (binds : Program.Binds (κ := κ) q c q' done c' requests) (about : subject = some p.id) :
      Effect subject c (p ::ₘ programs) (requests.map .asked) c' (q' ::ₘ programs)
  | unbind {c programs p} (about : subject = some p.id) :
      Effect subject c (p ::ₘ programs) [.asked (.useProgram none)]
        { c with
          device := ((Device.useProgram none : Action κ δ _).run c.device).state
          current := none }
        ({ p with bound := false } ::ₘ programs)
  | set {c programs p} (name : String) (value : HostValue) (about : subject = some p.id) :
      Effect subject c (p ::ₘ programs)
        (asked ((p.setUniform name value).run.run c).record ++
          written name value.toData ((p.setUniform name value).run.run c).value)
        ((p.setUniform name value).run.run c).state (p ::ₘ programs)
  | get {c programs p} (name : String) (about : subject = some p.id) :
      Effect subject c (p ::ₘ programs) (asked ((p.getUniform name).run.run c).record)
        ((p.getUniform name).run.run c).state (p ::ₘ programs)
  | isLinked {c programs p} (about : subject = some p.id) :
      Effect subject c (p ::ₘ programs) (asked ((Context.isLinked p.handle).run c).record)
        ((Context.isLinked p.handle).run c).state (p ::ₘ programs)
  | activeUniforms {c programs p} (about : subject = some p.id) :
      Effect subject c (p ::ₘ programs) (asked ((Context.activeUniforms p.handle).run c).record)
        ((Context.activeUniforms p.handle).run c).state (p ::ₘ programs)
  | retire {c programs p} :
      Effect subject c (p ::ₘ programs) [.asked (.destroyProgram p.handle)]
        { c with
          device := ((Device.destroyProgram p.handle : Action κ δ _).run c.device).state
          current := if c.current = some p.id then none else c.current }
        programs
  | react {c programs} (event : ε) :
      Effect subject c programs []
        { c with device := ((Environment.react event : Action κ δ _).run c.device).state } programs

variable {δ κ ε : Type} [Device δ κ] [Environment δ κ ε]
variable {subject : Option ProgramId}

namespace Effect

theorem of_stageNew (type : StageType) (sources : List String) (w : World δ 1)
    (programs : Multiset (Program 1)) :
    Effect (κ := κ) (ε := ε) subject (context 0 w) programs
      ((((Stage.new 0 type sources).run w).record.map Deed.recorded).filterMap Deed.act)
      (context 0 ((Stage.new 0 type sources).run w).state) programs := by
  rw [Stage.new, run_within, context_set_self, filterMap_act_recorded]
  by_cases hempty : sources.isEmpty = true
  · rw [if_pos hempty]
    exact .nothing
  rw [if_neg hempty]
  have hnew : Effect (κ := κ) (ε := ε) subject (context 0 w) programs _ _ programs :=
    .newStage type sources
  rw [Action.run_bind]
  cases hstage :
      ((Context.newStage type sources : ContextAction δ κ _).run (context 0 w)).value with
  | error e => simpa [asked] using hnew
  | ok handle => simpa [asked] using hnew

omit [Device δ κ] in
theorem of_within {α : Type} {x : ContextAction δ κ α} {w w' : World δ 1} {value : α}
    {record : List (Entry (Fin 1 × Traffic κ))}
    (h : (within 0 x).run w = ⟨value, w', record⟩) :
    value = (x.run (context 0 w)).value ∧ context 0 w' = (x.run (context 0 w)).state ∧
      (record.map Deed.recorded).filterMap Deed.act = asked (x.run (context 0 w)).record := by
  rw [run_within] at h
  obtain ⟨rfl, rfl, rfl⟩ := Outcome.mk.inj h
  exact ⟨rfl, context_set_self _ _ _, filterMap_act_recorded _ _⟩

theorem of_change {i : Fin 1} {x y : Holdings δ 1} {deeds : List (Deed 1 κ)}
    (h : Change (ε := ε) i subject x deeds y) :
    Effect (κ := κ) (ε := ε) subject (context 0 x.world) x.programs (deeds.filterMap Deed.act)
      (context 0 y.world) y.programs := by
  obtain rfl : i = 0 := Fin.fin_one_eq_zero i
  cases h with
  | @compile w _ programs _ type sources _ _ h | @refuse w _ programs _ type sources _ _ h =>
    have hnew : Effect (κ := κ) (ε := ε) subject _ _ _ _ _ := of_stageNew type sources w programs
    rw [h] at hnew
    exact hnew
  | @discard _ _ _ _ stage _ h =>
    rw [Stage.release, Fin.fin_one_eq_zero stage.home] at h
    obtain ⟨-, hstate, hacts⟩ := of_within h
    rw [hstate, hacts]
    exact .destroyStage stage.handle
  | @assemble w _ programs given _ p linked _ nonempty h about =>
    obtain ⟨hvalue, hstate, hacts⟩ := of_within h
    obtain ⟨hmade, hcontext, hrequests⟩ := Program.run_assemble (κ := κ) 0 given (context 0 w)
    have hp : p = _ := congrArg Prod.fst (hvalue.trans hmade)
    have hid : p.id = ⟨(context 0 w).nextId⟩ := by
      rw [hp, Program.settle_id]
      rfl
    rw [hstate, hacts, hcontext, asked, hrequests, hp]
    exact .make nonempty (about.trans (congrArg some hid)) rfl rfl rfl
  | @append w _ programs _ p p' stage _ _ h about =>
    obtain ⟨hvalue, hstate, hacts⟩ := of_within h
    rw [hstate, hacts]
    cases hbound : p.bound with
    | true =>
      obtain ⟨hgrown, hcontext, hrequests⟩ :=
        Program.run_append_of_bound (κ := κ) hbound stage (context 0 w)
      have hbinds := (p.grow stage).binds_bind (κ := κ) (context 0 w)
      rw [← hgrown, ← hcontext, ← hrequests, ← hvalue] at hbinds
      exact .bind (.inr ⟨stage, rfl⟩) hbinds about
    | false =>
      obtain ⟨hgrown, hcontext, hrequests⟩ :=
        Program.run_append_of_not_bound (κ := κ) hbound stage (context 0 w)
      have hp : p' = p.grow stage := congrArg Prod.fst (hvalue.trans hgrown)
      rw [hcontext, asked, hrequests, hp]
      exact .grow stage hbound about
  | @bind w _ programs _ p _ _ _ h about =>
    obtain ⟨hvalue, hstate, hacts⟩ := of_within h
    have hbinds := p.binds_bind (κ := κ) (context 0 w)
    rw [← hvalue] at hbinds
    rw [hstate, hacts]
    exact .bind (.inl rfl) hbinds about
  | @unbind w _ _ _ p _ _ h about =>
    obtain ⟨hvalue, hstate, hacts⟩ := of_within h
    obtain ⟨hmarked, hcontext, hrequests⟩ := p.run_unbind (κ := κ) (context 0 w)
    rw [hstate, hacts, hcontext, asked, hrequests, hvalue, hmarked]
    exact .unbind about
  | @set w _ programs _ p name value _ h about =>
    obtain ⟨hvalue, hstate, hacts⟩ := of_within h
    rw [hstate, List.filterMap_append, hacts]
    have hset : Effect (κ := κ) (ε := ε) subject (context 0 w) (p ::ₘ programs) _ _ _ :=
      .set name value about
    rw [← hvalue] at hset
    exact hset
  | @setFails w _ programs _ p name value _ _ h about =>
    obtain ⟨hvalue, hstate, hacts⟩ := of_within h
    rw [hstate, hacts]
    have hset : Effect (κ := κ) (ε := ε) subject (context 0 w) (p ::ₘ programs) _ _ _ :=
      .set name value about
    rw [← hvalue, written, List.append_nil] at hset
    exact hset
  | get h about =>
    obtain ⟨-, hstate, hacts⟩ := of_within h
    rw [hstate, hacts]
    exact .get _ about
  | isLinked h about =>
    obtain ⟨-, hstate, hacts⟩ := of_within h
    rw [hstate, hacts]
    exact .isLinked about
  | activeUniforms h about =>
    obtain ⟨-, hstate, hacts⟩ := of_within h
    rw [hstate, hacts]
    exact .activeUniforms about
  | note => exact .nothing
  | @retire w _ _ _ p _ h =>
    rw [Fin.fin_one_eq_zero p.home] at h
    obtain ⟨-, hstate, hacts⟩ := of_within h
    obtain ⟨hcontext, hrequests⟩ := p.run_retire (κ := κ) (context 0 w)
    rw [hstate, hacts, hcontext, asked, hrequests]
    exact .retire
  | react event h =>
    obtain ⟨-, hstate, hacts⟩ := of_within h
    have hrequests : ∀ (x : Action κ δ (Except StateError Unit)) (c : Context δ),
        asked ((Context.onDevice x).run c).record = [] := by
      intro x c
      rw [asked, Context.onDevice, Action.run_focus, requests_map_issued, List.map_nil]
    rw [hstate, hacts, hrequests]
    exact .react event

end Effect

namespace Session

variable {I : (ProgramId → List Act) → Context δ → Multiset (Program 1) → Prop}

/-- What holds of a session and is kept by every effect holds after every run. -/
theorem holds_of_effects
    (heffect : ∀ {past c programs subject acts c' programs'}, I past c programs →
      Effect (ε := ε) subject c programs acts c' programs' →
        I (extend past subject acts) c' programs')
    (s : Session δ 1) (hstart : I (fun _ ↦ []) (s.world.context 0) s.programs.tenants)
    (moves : List (Move 1 ε)) :
    I (actsAbout (history moves s)) ((after moves s).world.context 0)
      (after moves s).programs.tenants := by
  refine holds_after (I := fun log x ↦ I (actsAbout log) (context 0 x.world) x.programs)
    ?_ s hstart moves
  intro log x i subject deeds y hx h
  rw [actsAbout_extend]
  exact heffect hx (.of_change h)

omit [Device δ κ] [Environment δ κ ε] in
@[simp] theorem context_new (device : δ) :
    context 0 (new #v[device]).world = Context.new device := by
  simp [context, new]

omit [Device δ κ] [Environment δ κ ε] in
@[simp] theorem tenants_programs_new (device : δ) : (new #v[device]).programs.tenants = 0 :=
  Slots.tenants_empty

end Session

end Shading
