import Shading.Proofs.InMemory.CurrentProgram
import Shading.Proofs.Session.Traffic

/-!
# Several contexts

With several contexts a program may be asked for in a context that did not make it. Every context
numbers its programs from zero and every device hands out handles of its own, so neither number nor
handle tells the programs of two contexts apart.

A change concerns one context. It makes a program there, puts one to use, takes one out of use,
lets go of one, or leaves numbers, handles and programs in use as they are.
-/

namespace Shading

open Shading.Uniform World

variable {n : Nat}

/-- A request is on record just if it is among the calls. -/
theorem mem_callsOf_iff {κ : Type} {record : List (Entry (Traffic κ))} {request : Request} :
    .request request ∈ callsOf record ↔ request ∈ requests record := by
  simp only [callsOf, requests, List.mem_filterMap]
  constructor
  · rintro ⟨entry, hentry, hcall⟩
    cases entry with
    | call call => exact ⟨_, hentry, by rw [Option.some.inj hcall]⟩
    | note level text => cases hcall
  · rintro ⟨entry, hentry, hrequest⟩
    split at hrequest
    · exact ⟨_, hentry, congrArg _ (congrArg _ (Option.some.inj hrequest))⟩
    · cases hrequest

/-- Whether some deeds made a request in a context. -/
def Requested {κ : Type} (deeds : List (Deed n κ)) (i : Fin n) (request : Request) : Prop :=
  .recorded (.call (i, .request request)) ∈ deeds

/-- A request within a context is one of that context and of no other. -/
theorem requested_within {κ : Type} {j : Fin n} {record : List (Entry (Traffic κ))} {i : Fin n}
    {request : Request} :
    Requested ((record.map (Entry.map (j, ·))).map .recorded) i request ↔
      i = j ∧ .request request ∈ callsOf record := by
  have hmem : Requested ((record.map (Entry.map (j, ·))).map .recorded) i request ↔
      ((i, .request request) : Fin n × Traffic κ) ∈
        callsOf (record.map (Entry.map (j, ·))) := by
    rw [Requested, callsOf, List.mem_filterMap]
    constructor
    · intro h
      obtain ⟨entry, hentry, heq⟩ := List.mem_map.1 h
      exact ⟨entry, hentry, by rw [Deed.recorded.inj heq]⟩
    · rintro ⟨entry, hentry, hcall⟩
      cases entry with
      | call call =>
        rw [← Option.some.inj hcall]
        exact List.mem_map_of_mem hentry
      | note level text => cases hcall
  rw [hmem, callsOf_map, List.mem_map]
  constructor
  · rintro ⟨call, hcall, heq⟩
    obtain ⟨rfl, rfl⟩ := Prod.mk.inj heq
    exact ⟨rfl, hcall⟩
  · rintro ⟨rfl, hcall⟩
    exact ⟨_, hcall, rfl⟩

namespace InMemory

/-! ## What a change does -/

/-- The context that made a program, the number it has there, and its handle there. -/
def identity (p : Program n) : Fin n × ProgramId × Nat :=
  (p.home, p.id, p.handle)

/-- Requests that make a program or put one to use. -/
def marks : Request → Bool
  | .newProgram _ | .useProgram (some _) => true
  | _ => false

/-- What leaves numbers, handles and programs in use as they are. -/
structure Calm (c : Context InMemory) (traffic : List (Traffic Request)) (c' : Context InMemory) :
    Prop where
  current : c'.current = c.current
  nextId : c'.nextId = c.nextId
  inUse : c'.device.current = c.device.current
  lastHandle : c.device.lastHandle ≤ c'.device.lastHandle
  unmarked : ∀ request, .request request ∈ traffic → marks request = false

theorem composes_calm : Composes Calm := by
  refine ⟨fun c ↦ ⟨rfl, rfl, rfl, le_rfl, fun _ h ↦ by cases h⟩, ?_⟩
  intro c c' c'' first second earlier later
  refine ⟨later.current.trans earlier.current, later.nextId.trans earlier.nextId,
    later.inUse.trans earlier.inUse, earlier.lastHandle.trans later.lastHandle, ?_⟩
  intro request h
  rcases List.mem_append.1 h with h | h
  · exact earlier.unmarked request h
  · exact later.unmarked request h

/-- A request that leaves the current program alone and marks nothing. -/
theorem calm_ask {α : Type} {x : Reply α} {request : α → Request}
    (hkeeps : ∀ d, (x.run d).state.current = d.current ∧
      d.lastHandle ≤ (x.run d).state.lastHandle)
    (hrequest : ∀ a, marks (request a) = false) : Follows Calm (Context.ask x request) := by
  intro c
  rw [Context.run_ask]
  refine ⟨rfl, rfl, (hkeeps c.device).1, (hkeeps c.device).2, ?_⟩
  intro r hr
  rw [mem_callsOf_iff, requests_append, requests_map_issued, List.nil_append] at hr
  rw [List.mem_singleton.1 hr]
  exact hrequest _

/-- Making a stage comes down to an action that is calm. -/
theorem calm_stageNew (i : Fin n) (type : StageType) (sources : List String) :
    ∃ x : ContextAction InMemory Request _, Stage.new i type sources = within i x ∧
      Follows Calm x := by
  refine ⟨_, rfl, ?_⟩
  split
  · exact .pure composes_calm _
  · apply Follows.bind composes_calm
    · refine calm_ask (fun d ↦ ?_) fun _ ↦ rfl
      rcases state_newStage type sources d with h | h <;> rw [h]
      · exact ⟨rfl, le_rfl⟩
      · exact ⟨rfl, Nat.le_succ _⟩
    · intro answer
      cases answer <;> exact .bind composes_calm (.note composes_calm _ _) fun _ ↦
        .pure composes_calm _

theorem calm_destroyStage (stage : Nat) : Follows Calm (Context.destroyStage stage) :=
  calm_ask (fun _ ↦ ⟨rfl, le_rfl⟩) fun _ ↦ rfl

theorem calm_isLinked (program : Nat) : Follows Calm (Context.isLinked program) :=
  calm_ask (fun _ ↦ ⟨rfl, le_rfl⟩) fun _ ↦ rfl

theorem calm_activeUniforms (program : Nat) : Follows Calm (Context.activeUniforms program) :=
  calm_ask (fun _ ↦ ⟨rfl, le_rfl⟩) fun _ ↦ rfl

theorem calm_uniformLocation (program : Nat) (name : String) :
    Follows Calm (Context.uniformLocation program name) := by
  refine calm_ask (fun d ↦ ?_) fun _ ↦ rfl
  rw [run_uniformLocation]
  exact ⟨rfl, le_rfl⟩

/-- To write a uniform is calm. -/
theorem calm_setUniform (p : Program n) (name : String) (value : HostValue) :
    Follows Calm (p.setUniform name value).run := by
  refine Program.follows_setUniform name composes_calm (calm_activeUniforms _)
    (calm_uniformLocation _) ?_ value
  intro location count data
  exact calm_ask (fun d ↦ by simp) fun _ ↦ rfl

/-- To read one is calm as well. -/
theorem calm_getUniform (p : Program n) (name : String) :
    Follows Calm (p.getUniform name).run := by
  refine Program.follows_getUniform name composes_calm (calm_activeUniforms _)
    (calm_uniformLocation _) ?_ ?_
  · exact fun location size ↦ calm_ask (fun d ↦ ⟨rfl, le_rfl⟩) fun _ ↦ rfl
  · exact fun location size ↦ calm_ask (fun d ↦ ⟨rfl, le_rfl⟩) fun _ ↦ rfl

/-- What a change does in one context, for the program that it is about. -/
inductive Doing (subject : Option ProgramId) (j : Fin n) : Context InMemory →
    Multiset (Program n) → List (Traffic Request) → Context InMemory → Multiset (Program n) → Prop
  | calm {c c' programs programs' traffic} (calm : Calm c traffic c')
      (same : programs'.map identity = programs.map identity) :
      Doing subject j c programs traffic c' programs'
  | make {c c' programs p traffic} (about : subject = some p.id) (number : p.id = ⟨c.nextId⟩)
      (home : p.home = j) (handle : p.handle = c'.device.lastHandle)
      (fresh : c.device.lastHandle < c'.device.lastHandle) (current : c'.current = c.current)
      (nextId : c'.nextId = c.nextId + 1) (inUse : c'.device.current = c.device.current)
      (made : ∀ request, .request request ∈ traffic → marks request = true →
        request = .newProgram p.handle)
      (asked : .request (.newProgram p.handle) ∈ traffic) :
      Doing subject j c programs traffic c' (p ::ₘ programs)
  | use {c c' programs programs' traffic} (id : ProgramId) (handle : Nat)
      (about : subject = some id) (current : c'.current = some id) (nextId : c'.nextId = c.nextId)
      (inUse : c'.device.current = some handle)
      (lastHandle : c.device.lastHandle ≤ c'.device.lastHandle)
      (used : ∀ request, .request request ∈ traffic → marks request = true →
        request = .useProgram (some handle))
      (asked : .request (.useProgram (some handle)) ∈ traffic)
      (same : programs'.map identity = programs.map identity) :
      Doing subject j c programs traffic c' programs'
  | clear {c c' programs programs' traffic} (current : c'.current = none)
      (nextId : c'.nextId = c.nextId)
      (lastHandle : c.device.lastHandle ≤ c'.device.lastHandle)
      (unmarked : ∀ request, .request request ∈ traffic → marks request = false)
      (same : programs'.map identity = programs.map identity) :
      Doing subject j c programs traffic c' programs'
  | retire {c c' programs p traffic} (home : p.home = j)
      (current : c'.current = if c.current = some p.id then none else c.current)
      (nextId : c'.nextId = c.nextId)
      (inUse : c'.device.current =
        if c.device.current = some p.handle then none else c.device.current)
      (lastHandle : c.device.lastHandle ≤ c'.device.lastHandle)
      (unmarked : ∀ request, .request request ∈ traffic → marks request = false) :
      Doing subject j c (p ::ₘ programs) traffic c' programs

/-- What some deeds did, all in one context. -/
def Done (subject : Option ProgramId) (w : World InMemory n) (programs : Multiset (Program n))
    (deeds : List (Deed n Request)) (w' : World InMemory n) (programs' : Multiset (Program n)) :
    Prop :=
  ∃ (j : Fin n) (c' : Context InMemory) (traffic : List (Traffic Request)),
    w' = w.set j c' j.isLt ∧
    (∀ i request, Requested deeds i request ↔ i = j ∧ .request request ∈ traffic) ∧
    Doing subject j (context j w) programs traffic c' programs'

/-- What a context has done by itself, seen from the session. -/
theorem Done.of_within {α : Type} {subject : Option ProgramId} {j : Fin n}
    {x : ContextAction InMemory Request α} {w w' : World InMemory n} {value : α}
    {record : List (Entry (Fin n × Traffic Request))}
    (hrun : (within j x).run w = ⟨value, w', record⟩) {programs programs' : Multiset (Program n)}
    (h : value = (x.run (context j w)).value →
      Doing subject j (context j w) programs (callsOf (x.run (context j w)).record)
        (x.run (context j w)).state programs') :
    Done subject w programs (record.map .recorded) w' programs' := by
  rw [run_within] at hrun
  obtain ⟨rfl, rfl, rfl⟩ := Outcome.mk.inj hrun
  exact ⟨j, _, _, rfl, fun i request ↦ requested_within, h rfl⟩

/-- A calm action is the doing of its context and spares all programs. -/
theorem Done.of_calm {α : Type} {subject : Option ProgramId} {j : Fin n}
    {x : ContextAction InMemory Request α} (hx : Follows Calm x) {w w' : World InMemory n}
    {value : α} {record : List (Entry (Fin n × Traffic Request))}
    (hrun : (within j x).run w = ⟨value, w', record⟩) {programs : Multiset (Program n)} :
    Done subject w programs (record.map .recorded) w' programs :=
  .of_within hrun fun _ ↦ .calm (hx _) rfl

/-- Linking makes and uses no program. -/
theorem unmarked_linkRequests (p : Program n) (linked : Bool) :
    ∀ request ∈ p.linkRequests linked, marks request = false := by
  intro request h
  rcases Program.eq_of_mem_linkRequests h with ⟨stage, rfl⟩ | rfl <;> rfl

/-- The only marked request of several is the last one. -/
theorem eq_last_of_marks {first : List Request} {last request : Request}
    (hfirst : ∀ r ∈ first, marks r = false) (hmem : request ∈ first ++ [last])
    (hmarks : marks request = true) : request = last := by
  rcases List.mem_append.1 hmem with h | h
  · rw [hfirst request h] at hmarks
    cases hmarks
  · exact List.mem_singleton.1 h

/-- Binding puts the program to use, or takes it out of use, or does neither. -/
theorem doing_of_binds {subject : Option ProgramId} {j : Fin n} {p q q' : Program n}
    {c c' : Context InMemory} {done : Except ProgramError Unit} {programs : Multiset (Program n)}
    {record : List (Entry (Traffic Request))} {asked : List Request}
    (hasked : requests record = asked) (same : identity q = identity p)
    (about : subject = some p.id)
    (binds : Program.Binds (κ := Request) q c q' done c' asked) :
    Doing subject j c (p ::ₘ programs) (callsOf record) c' (q' ::ₘ programs) := by
  have hidentity : (q' ::ₘ programs).map identity = (p ::ₘ programs).map identity := by
    rw [Multiset.map_cons, Multiset.map_cons, ← same]
    cases binds <;> rfl
  have hid : q.id = p.id := congrArg (fun t ↦ t.2.1) same
  have hlink := unmarked_linkRequests q
  have hlast := lastHandle_submit q c.device
  cases binds with
  | again linked =>
    refine .use p.id q.handle about (congrArg some hid) rfl rfl le_rfl ?_ ?_ hidentity
    · intro request h hmarks
      rw [mem_callsOf_iff, hasked] at h
      exact List.mem_singleton.1 h
    · rw [mem_callsOf_iff, hasked]
      exact List.mem_singleton_self _
  | linked unlinked accepted parsed =>
    refine .use p.id q.handle about (congrArg some hid) rfl rfl hlast.ge ?_ ?_ hidentity
    · intro request h hmarks
      rw [mem_callsOf_iff, hasked] at h
      exact eq_last_of_marks (hlink true) h hmarks
    · rw [mem_callsOf_iff, hasked]
      exact List.mem_append_right _ (List.mem_singleton_self _)
  | dropped unlinked settled current =>
    refine .clear rfl rfl hlast.ge ?_ hidentity
    intro request h
    rw [mem_callsOf_iff, hasked, List.mem_append, List.mem_singleton] at h
    rcases h with h | rfl
    · exact hlink _ request h
    · rfl
  | refused unlinked settled other =>
    refine .calm ⟨rfl, rfl, current_submit q c.device, hlast.ge, ?_⟩ hidentity
    intro request h
    rw [mem_callsOf_iff, hasked] at h
    exact hlink _ request h

/-- Every change is the doing of one context. -/
theorem done_of_change {i : Fin n} {subject : Option ProgramId} {x y : Holdings InMemory n}
    {deeds : List (Deed n Request)}
    (h : Change (ε := List Settings.Setting) i subject x deeds y) :
    Done subject x.world x.programs deeds y.world y.programs := by
  cases h with
  | @compile _ _ _ _ type sources _ _ hrun | @refuse _ _ _ _ type sources _ _ hrun =>
    obtain ⟨a, ha, hcalm⟩ := calm_stageNew i type sources
    rw [ha] at hrun
    exact .of_calm hcalm hrun
  | discard hrun => exact .of_calm (calm_destroyStage _) hrun
  | @assemble w _ programs given _ p linked _ nonempty hrun about =>
    refine .of_within hrun fun hvalue ↦ ?_
    obtain ⟨hmade, hstate, hrequests⟩ := Program.run_assemble (κ := Request) i given (context i w)
    obtain rfl : p = _ := congrArg Prod.fst (hvalue.trans hmade)
    rw [hstate]
    refine .make about (Program.settle_id _ _) (Program.settle_home _ _) ?_ ?_ rfl rfl ?_ ?_ ?_
    · rw [Program.settle_handle, lastHandle_submit]
      rfl
    · rw [lastHandle_submit]
      exact Nat.lt_succ_self _
    · rw [current_submit]
      rfl
    · intro request h hmarks
      rw [mem_callsOf_iff, hrequests, List.mem_cons] at h
      rcases h with rfl | h
      · rw [Program.settle_handle]
        rfl
      · rw [unmarked_linkRequests _ _ request h] at hmarks
        cases hmarks
    · rw [mem_callsOf_iff, hrequests, Program.settle_handle]
      exact List.mem_cons_self
  | @append w _ programs _ p p' stage _ _ hrun about =>
    refine .of_within hrun fun hvalue ↦ ?_
    cases hbound : p.bound with
    | true =>
      obtain ⟨hgrown, hstate, hrequests⟩ :=
        Program.run_append_of_bound (κ := Request) hbound stage (context i w)
      have hbinds := (p.grow stage).binds_bind (κ := Request) (context i w)
      rw [← hgrown, ← hstate, ← hrequests, ← hvalue] at hbinds
      have hsame : identity (p.grow stage) = identity p := rfl
      exact doing_of_binds rfl hsame about hbinds
    | false =>
      obtain ⟨hgrown, hstate, hrequests⟩ :=
        Program.run_append_of_not_bound (κ := Request) hbound stage (context i w)
      obtain rfl : p' = p.grow stage := congrArg Prod.fst (hvalue.trans hgrown)
      have hnames : (p.grow stage ::ₘ programs).map identity = (p ::ₘ programs).map identity := by
        rw [Multiset.map_cons, Multiset.map_cons]
        rfl
      rw [hstate]
      refine .calm ⟨rfl, rfl, rfl, le_rfl, ?_⟩ hnames
      intro request h
      rw [mem_callsOf_iff, hrequests] at h
      cases h
  | @bind w _ programs _ p _ _ _ hrun about =>
    refine .of_within hrun fun hvalue ↦ ?_
    have hbinds := p.binds_bind (κ := Request) (context i w)
    rw [← hvalue] at hbinds
    exact doing_of_binds rfl rfl about hbinds
  | @unbind w _ _ _ p _ _ hrun about =>
    refine .of_within hrun fun hvalue ↦ ?_
    obtain ⟨hmarked, hstate, hrequests⟩ := p.run_unbind (κ := Request) (context i w)
    rw [hvalue, hmarked, hstate]
    refine .clear rfl rfl le_rfl ?_ ?_
    · intro request h
      rw [mem_callsOf_iff, hrequests, List.mem_singleton] at h
      rw [h]
      rfl
    · rw [Multiset.map_cons, Multiset.map_cons]
      rfl
  | set hrun about =>
    obtain ⟨j, c', traffic, hworld, hrequested, hdoing⟩ :=
      Done.of_calm (calm_setUniform _ _ _) hrun
    refine ⟨j, c', traffic, hworld, ?_, hdoing⟩
    intro i request
    rw [← hrequested i request, Requested, Requested, List.mem_append, List.mem_singleton]
    exact or_iff_left nofun
  | setFails hrun about => exact .of_calm (calm_setUniform _ _ _) hrun
  | get hrun about => exact .of_calm (calm_getUniform _ _) hrun
  | isLinked hrun about => exact .of_calm (calm_isLinked _) hrun
  | activeUniforms hrun about => exact .of_calm (calm_activeUniforms _) hrun
  | note =>
    refine ⟨i, _, [], (set_context_self _ _).symm, ?_, .calm (composes_calm.refl _) rfl⟩
    intro i request
    rw [Requested, List.mem_singleton]
    exact ⟨nofun, nofun⟩
  | @retire w _ _ _ p _ hrun =>
    refine .of_within hrun fun _ ↦ ?_
    obtain ⟨hstate, hrequests⟩ := p.run_retire (κ := Request) (context p.home w)
    rw [hstate, state_destroyProgram]
    refine .retire rfl rfl rfl rfl le_rfl ?_
    intro request h
    rw [mem_callsOf_iff, hrequests, List.mem_singleton] at h
    rw [h]
    rfl
  | react event hrun =>
    refine .of_within hrun fun _ ↦ .calm ⟨rfl, rfl, rfl, le_rfl, ?_⟩ rfl
    intro request h
    rw [mem_callsOf_iff, Context.onDevice, Action.run_focus, requests_map_issued] at h
    cases h

/-- A program with this number was made in a context, and got this handle. -/
def Made (log : History n Request) (i : Fin n) (id : ProgramId) (handle : Nat) : Prop :=
  (some id, .recorded (.call (i, .request (.newProgram handle)))) ∈ log

/-- A program with this number and this handle was put to use in a context. -/
def Used (log : History n Request) (i : Fin n) (id : ProgramId) (handle : Nat) : Prop :=
  (some id, .recorded (.call (i, .request (.useProgram (some handle))))) ∈ log

/-- Everything that was put to use, in order: where, and under which number and handle. -/
def uses (log : History n Request) : List (Fin n × ProgramId × Nat) :=
  log.filterMap fun
    | (some id, .recorded (.call (i, .request (.useProgram (some handle))))) =>
      some (i, id, handle)
    | _ => none

section Log

variable {log : History n Request} {subject : Option ProgramId} {deeds : List (Deed n Request)}
variable {i : Fin n} {id : ProgramId} {handle : Nat}

/-- Uses can be read off the log. -/
theorem used_iff_mem_uses : Used log i id handle ↔ (i, id, handle) ∈ uses log := by
  rw [Used, uses, List.mem_filterMap]
  constructor
  · intro h
    exact ⟨_, h, rfl⟩
  · rintro ⟨deed, hdeed, heq⟩
    split at heq
    · obtain ⟨rfl, hrest⟩ := Prod.mk.inj (Option.some.inj heq)
      obtain ⟨rfl, rfl⟩ := Prod.mk.inj hrest
      exact hdeed
    · cases heq

theorem mem_append_map_iff {deed : Deed n Request} :
    (some id, deed) ∈ log ++ deeds.map (subject, ·) ↔
      (some id, deed) ∈ log ∨ subject = some id ∧ deed ∈ deeds := by
  rw [List.mem_append, List.mem_map]
  constructor
  · rintro (h | ⟨deed', h, heq⟩)
    · exact .inl h
    · obtain ⟨rfl, rfl⟩ := Prod.mk.inj heq
      exact .inr ⟨rfl, h⟩
  · rintro (h | ⟨rfl, h⟩)
    · exact .inl h
    · exact .inr ⟨deed, h, rfl⟩

theorem made_append_iff :
    Made (log ++ deeds.map (subject, ·)) i id handle ↔
      Made log i id handle ∨ subject = some id ∧ Requested deeds i (.newProgram handle) :=
  mem_append_map_iff

theorem used_append_iff :
    Used (log ++ deeds.map (subject, ·)) i id handle ↔
      Used log i id handle ∨ subject = some id ∧ Requested deeds i (.useProgram (some handle)) :=
  mem_append_map_iff

end Log

section Doing

variable {subject : Option ProgramId} {j : Fin n} {c c' : Context InMemory}
variable {programs programs' : Multiset (Program n)} {traffic : List (Traffic Request)}

/-- Numbers are never taken back. -/
theorem Doing.nextId_le (h : Doing subject j c programs traffic c' programs') :
    c.nextId ≤ c'.nextId := by
  cases h with
  | calm calm => exact calm.nextId.ge
  | make about number home handle fresh current nextId => exact nextId ▸ Nat.le_succ _
  | use _ _ _ _ nextId => exact nextId.ge
  | clear _ nextId => exact nextId.ge
  | retire _ _ nextId => exact nextId.ge

/-- Handles are never taken back. -/
theorem Doing.lastHandle_le (h : Doing subject j c programs traffic c' programs') :
    c.device.lastHandle ≤ c'.device.lastHandle := by
  cases h with
  | calm calm => exact calm.lastHandle
  | make about number home handle fresh => exact fresh.le
  | use _ _ _ _ _ _ lastHandle => exact lastHandle
  | clear _ _ lastHandle => exact lastHandle
  | retire _ _ _ _ lastHandle => exact lastHandle

/-- A program that is made has the next number and a handle above all earlier ones. -/
theorem Doing.made (h : Doing subject j c programs traffic c' programs') :
    (programs'.map identity ≤ programs.map identity ∧
        ∀ handle, .request (.newProgram handle) ∉ traffic) ∨
      ∃ handle, programs'.map identity = (j, ⟨c.nextId⟩, handle) ::ₘ programs.map identity ∧
        c.device.lastHandle < handle ∧ handle = c'.device.lastHandle ∧
        subject = some ⟨c.nextId⟩ ∧ c'.nextId = c.nextId + 1 ∧
        ∀ other, .request (.newProgram other) ∈ traffic ↔ other = handle := by
  cases h with
  | calm calm same =>
    refine .inl ⟨same.le, fun handle h ↦ ?_⟩
    cases calm.unmarked _ h
  | @make _ _ p _ about number home handle fresh current nextId inUse made asked =>
    refine .inr ⟨p.handle, ?_, handle ▸ fresh, handle, about.trans (congrArg some number), nextId,
      ?_⟩
    · rw [Multiset.map_cons, identity, number, home]
    · intro other
      refine ⟨fun h ↦ Request.newProgram.inj (made _ h rfl), ?_⟩
      rintro rfl
      exact asked
  | use id _ about current nextId inUse lastHandle used asked same =>
    refine .inl ⟨same.le, fun handle h ↦ ?_⟩
    cases used _ h rfl
  | clear _ _ _ unmarked same =>
    refine .inl ⟨same.le, fun handle h ↦ ?_⟩
    cases unmarked _ h
  | retire _ _ _ _ _ unmarked =>
    rw [Multiset.map_cons]
    refine .inl ⟨Multiset.le_cons_self _ _, fun handle h ↦ ?_⟩
    cases unmarked _ h

/-- A program that was not among the others has a handle above all earlier ones. -/
theorem Doing.mem_of_mem (h : Doing subject j c programs traffic c' programs') {i : Fin n}
    {id : ProgramId} {handle : Nat} (hmem : (i, id, handle) ∈ programs'.map identity)
    (hold : i ≠ j ∨ handle ≤ c.device.lastHandle) : (i, id, handle) ∈ programs.map identity := by
  rcases h.made with ⟨hle, -⟩ | ⟨fresh, hmade, hfresh, -⟩
  · exact Multiset.mem_of_le hle hmem
  · rw [hmade, Multiset.mem_cons] at hmem
    refine hmem.resolve_left fun heq ↦ ?_
    obtain ⟨rfl, -, rfl⟩ : i = j ∧ id = ⟨c.nextId⟩ ∧ handle = fresh := by
      simpa using heq
    exact hold.elim (absurd rfl) (Nat.not_le_of_lt hfresh)

end Doing

/-! ## Invariants -/

/-- Programs of one context have different handles, and everything that lives was made under its
number and handle; a number was never given twice. -/
structure Told (log : History n Request) (w : World InMemory n)
    (programs : Multiset (Fin n × ProgramId × Nat)) : Prop where
  distinct : (programs.map fun t ↦ (t.1, t.2.2)).Nodup
  given : ∀ i id handle, (i, id, handle) ∈ programs →
    handle ≤ (context i w).device.lastHandle
  made : ∀ i id handle, (i, id, handle) ∈ programs → Made log i id handle
  numbered : ∀ i id handle, Made log i id handle → id.index < (context i w).nextId
  once : ∀ i id handle other, Made log i id handle → Made log i id other → other = handle

section Told

variable {log : History n Request} {subject : Option ProgramId} {w : World InMemory n}
variable {programs programs' : Multiset (Program n)} {deeds : List (Deed n Request)} {j : Fin n}
variable {c' : Context InMemory}

theorem context_set_le (f : Context InMemory → Nat) (h : f (context j w) ≤ f c') (i : Fin n) :
    f (context i w) ≤ f (context i (w.set j c' j.isLt)) := by
  rw [context_set]
  split
  · rename_i heq
    exact heq ▸ h
  · exact le_rfl

/-- Where no program is made, nothing new is told. -/
theorem Told.of_none_made (htold : Told log w (programs.map identity))
    (hnext : (context j w).nextId ≤ c'.nextId)
    (hlast : (context j w).device.lastHandle ≤ c'.device.lastHandle)
    (hle : programs'.map identity ≤ programs.map identity)
    (hnone : ∀ i handle, ¬ Requested deeds i (.newProgram handle)) :
    Told (log ++ deeds.map (subject, ·)) (w.set j c' j.isLt) (programs'.map identity) := by
  have hsame : ∀ i id handle, Made (log ++ deeds.map (subject, ·)) i id handle ↔
      Made log i id handle := by
    intro i id handle
    rw [made_append_iff]
    exact or_iff_left fun h ↦ hnone i handle h.2
  refine ⟨Multiset.nodup_of_le (Multiset.map_le_map hle) htold.distinct, ?_, ?_, ?_, ?_⟩
  · intro i id handle h
    exact (htold.given i id handle (Multiset.mem_of_le hle h)).trans
      (context_set_le (·.device.lastHandle) hlast i)
  · intro i id handle h
    exact (hsame i id handle).2 (htold.made i id handle (Multiset.mem_of_le hle h))
  · intro i id handle h
    exact (htold.numbered i id handle ((hsame i id handle).1 h)).trans_le
      (context_set_le (·.nextId) hnext i)
  · intro i id handle other h hother
    exact htold.once i id handle other ((hsame i id handle).1 h) ((hsame i id other).1 hother)

/-- A program that is made has a number and a handle that nothing was told of. -/
theorem Told.of_made (htold : Told log w (programs.map identity)) {fresh : Nat}
    (hmade : programs'.map identity =
      (j, ⟨(context j w).nextId⟩, fresh) ::ₘ programs.map identity)
    (hfresh : (context j w).device.lastHandle < fresh) (hhandle : fresh = c'.device.lastHandle)
    (hsubject : subject = some ⟨(context j w).nextId⟩)
    (hnumber : c'.nextId = (context j w).nextId + 1)
    (hasked : ∀ i handle, Requested deeds i (.newProgram handle) ↔ i = j ∧ handle = fresh) :
    Told (log ++ deeds.map (subject, ·)) (w.set j c' j.isLt) (programs'.map identity) := by
  have hcase : ∀ {i id handle}, Made (log ++ deeds.map (subject, ·)) i id handle →
      Made log i id handle ∨ i = j ∧ id = ⟨(context j w).nextId⟩ ∧ handle = fresh := by
    intro i id handle h
    rw [made_append_iff, hasked, hsubject] at h
    rcases h with h | ⟨hid, hi, hh⟩
    · exact .inl h
    · exact .inr ⟨hi, (Option.some.inj hid).symm, hh⟩
  have hnew : Made (log ++ deeds.map (subject, ·)) j ⟨(context j w).nextId⟩ fresh := by
    rw [made_append_iff, hasked]
    exact .inr ⟨hsubject, rfl, rfl⟩
  have hmem : ∀ {i id handle}, (i, id, handle) ∈ programs'.map identity →
      (i = j ∧ id = ⟨(context j w).nextId⟩ ∧ handle = fresh) ∨
        (i, id, handle) ∈ programs.map identity := by
    intro i id handle h
    rw [hmade, Multiset.mem_cons] at h
    simpa using h
  refine ⟨?_, ?_, ?_, ?_, ?_⟩
  · rw [hmade, Multiset.map_cons, Multiset.nodup_cons]
    refine ⟨?_, htold.distinct⟩
    intro hsame
    obtain ⟨⟨i, id, handle⟩, hold, heq⟩ := Multiset.mem_map.1 hsame
    obtain ⟨rfl, rfl⟩ := Prod.mk.inj heq
    exact Nat.not_lt_of_le (htold.given _ _ _ hold) hfresh
  · intro i id handle h
    rcases hmem h with ⟨rfl, -, rfl⟩ | hold
    · rw [context_set_self]
      exact hhandle.le
    · exact (htold.given i id handle hold).trans
        (context_set_le (·.device.lastHandle) (hhandle ▸ hfresh.le) i)
  · intro i id handle h
    rcases hmem h with ⟨rfl, rfl, rfl⟩ | hold
    · exact hnew
    · exact made_append_iff.2 (.inl (htold.made i id handle hold))
  · intro i id handle h
    rcases hcase h with h | ⟨rfl, rfl, -⟩
    · exact (htold.numbered i id handle h).trans_le
        (context_set_le (·.nextId) (hnumber ▸ Nat.le_succ _) i)
    · rw [context_set_self, hnumber]
      exact Nat.lt_succ_self _
  · intro i id handle other h hother
    rcases hcase h with h | ⟨rfl, rfl, rfl⟩ <;> rcases hcase hother with hother | ⟨hi, hid, hh⟩
    · exact htold.once i id handle other h hother
    · subst hi hid
      exact absurd (htold.numbered _ _ _ h) (Nat.lt_irrefl _)
    · exact absurd (htold.numbered _ _ _ hother) (Nat.lt_irrefl _)
    · exact hh

/-- What the log tells stays true of every program that lives on. -/
theorem Told.of_done {w' : World InMemory n} (htold : Told log w (programs.map identity))
    (h : Done subject w programs deeds w' programs') :
    Told (log ++ deeds.map (subject, ·)) w' (programs'.map identity) := by
  obtain ⟨j, c', traffic, rfl, hrequested, hdoing⟩ := h
  rcases hdoing.made with ⟨hle, hnone⟩ | ⟨fresh, hmade, hfresh, hhandle, hsubject, hnumber, hasked⟩
  · refine htold.of_none_made hdoing.nextId_le hdoing.lastHandle_le hle ?_
    intro i handle hasked
    exact hnone handle ((hrequested i _).1 hasked).2
  · refine htold.of_made hmade hfresh hhandle hsubject hnumber ?_
    intro i handle
    rw [hrequested, hasked]

end Told

/-- The program that is current in a context was put to use there, and is in use there until it
is destroyed. -/
def Current (log : History n Request) (w : World InMemory n)
    (programs : Multiset (Fin n × ProgramId × Nat)) : Prop :=
  ∀ i id, (context i w).current = some id → ∃ handle, Used log i id handle ∧
    ((context i w).device.current = some handle ∨
      handle ≤ (context i w).device.lastHandle ∧ ∀ other, (i, other, handle) ∉ programs)

/-- The current program of a context is always one that the log saw put to use there. -/
theorem Current.of_done {log : History n Request} {subject : Option ProgramId}
    {w w' : World InMemory n} {programs programs' : Multiset (Program n)}
    {deeds : List (Deed n Request)} (htold : Told log w (programs.map identity))
    (hcurrent : Current log w (programs.map identity))
    (h : Done subject w programs deeds w' programs') :
    Current (log ++ deeds.map (subject, ·)) w' (programs'.map identity) := by
  obtain ⟨j, c', traffic, rfl, hrequested, hdoing⟩ := h
  have hused : ∀ {i id handle}, Used log i id handle →
      Used (log ++ deeds.map (subject, ·)) i id handle :=
    fun h ↦ used_append_iff.2 (.inl h)
  intro i id hid
  by_cases hij : j = i
  · subst hij
    rw [context_set_self] at hid ⊢
    -- what holds of a program that was current before and still is
    have hkeep : (context j w).current = some id →
        c'.device.current = (context j w).device.current →
        ∃ handle, Used (log ++ deeds.map (subject, ·)) j id handle ∧
          (c'.device.current = some handle ∨ handle ≤ c'.device.lastHandle ∧
            ∀ other, (j, other, handle) ∉ programs'.map identity) := by
      intro hid hinUse
      obtain ⟨handle, hwas, huses | ⟨hle, hgone⟩⟩ := hcurrent j id hid
      · exact ⟨handle, hused hwas, .inl (hinUse.trans huses)⟩
      · refine ⟨handle, hused hwas, .inr ⟨hle.trans hdoing.lastHandle_le, fun other hmem ↦ ?_⟩⟩
        exact hgone other (hdoing.mem_of_mem hmem (.inr hle))
    cases hdoing with
    | calm calm => exact hkeep (calm.current ▸ hid) calm.inUse
    | make _ _ _ _ _ current _ inUse => exact hkeep (current ▸ hid) inUse
    | use id' handle about current nextId inUse lastHandle used asked =>
      obtain rfl : id' = id := Option.some.inj (current.symm.trans hid)
      exact ⟨handle, used_append_iff.2 (.inr ⟨about, (hrequested _ _).2 ⟨rfl, asked⟩⟩), .inl inUse⟩
    | clear current =>
      rw [current] at hid
      cases hid
    | @retire _ _ p _ home current nextId inUse lastHandle unmarked =>
      rw [current] at hid
      split at hid
      · cases hid
      by_cases hdestroyed : (context j w).device.current = some p.handle
      · have hp : (j, p.id, p.handle) ∈ (p ::ₘ programs').map identity := by
          rw [Multiset.map_cons, identity, home]
          exact Multiset.mem_cons_self _ _
        obtain ⟨handle, hwas, halive⟩ := hcurrent j id hid
        refine ⟨handle, hused hwas, .inr ?_⟩
        rcases halive with huses | ⟨hle, hgone⟩
        · obtain rfl : p.handle = handle := Option.some.inj (hdestroyed.symm.trans huses)
          refine ⟨(htold.given _ _ _ hp).trans lastHandle, fun other hmem ↦ ?_⟩
          have hdistinct := htold.distinct
          rw [Multiset.map_cons, Multiset.map_cons, Multiset.nodup_cons] at hdistinct
          refine hdistinct.1 (Multiset.mem_map.2 ⟨_, hmem, ?_⟩)
          rw [identity, home]
        · refine ⟨hle.trans lastHandle, fun other hmem ↦ hgone other ?_⟩
          rw [Multiset.map_cons]
          exact Multiset.mem_cons_of_mem hmem
      · exact hkeep hid (by rw [inUse, if_neg hdestroyed])
  · rw [context_set, if_neg hij] at hid ⊢
    obtain ⟨handle, hwas, huses | ⟨hle, hgone⟩⟩ := hcurrent i id hid
    · exact ⟨handle, hused hwas, .inl huses⟩
    · refine ⟨handle, hused hwas, .inr ⟨hle, fun other hmem ↦ ?_⟩⟩
      exact hgone other (hdoing.mem_of_mem hmem (.inl (Ne.symm hij)))

end InMemory

end Shading
