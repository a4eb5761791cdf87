import Shading.Proofs.Session.Ledger
import Shading.Proofs.Session.OneContext
import Shading.Proofs.Session.Traffic

/-!
# What a session releases

What a session holds is a ledger: its programs, each with the stages that were attached so far, and
all of their stages together with those in slots. Every change of the session is a run of that
ledger, whether or not the change succeeds. When the session ends nothing is left, so the requests
of all its operations, its end included, tell of every handle in good order.

A device answers each request by calls of its own. What they tell of handles is in good order as
well if it comes down, request by request, to what the requests tell.
-/

namespace Shading

open Shading.Uniform World

variable {δ κ : Type} {n : Nat}

def Request.usage : Request → Option Usage
  | newStage _ stage => stage.map .createStage
  | destroyStage stage => some (.deleteStage stage)
  | newProgram program => some (.createProgram program)
  | attachStage program stage => some (.attach program stage)
  | linkProgram program _ | isLinked program | activeUniforms program => some (.nameProgram program)
  | uniformLocation program _ _ => some (.nameProgram program)
  | queryInts program _ _ | queryFloats program _ _ => some (.nameProgram program)
  | useProgram program => program.map .nameProgram
  | destroyProgram program => some (.deleteProgram program)
  | upload .. => none

/-- The view of somebody who sees the requests only. -/
def Traffic.requested : Traffic κ → Option Usage
  | request r => r.usage
  | issued _ => none

theorem filterMap_requested_callsOf (record : List (Entry (Traffic κ))) :
    (callsOf record).filterMap Traffic.requested = (requests record).filterMap Request.usage := by
  induction record with
  | nil => rfl
  | cons entry rest ih =>
    rcases entry with ⟨request | call⟩ | ⟨level, text⟩
    · simp only [callsOf, requests, List.filterMap_cons, Traffic.requested] at ih ⊢
      rw [ih]
    · exact ih
    · exact ih

@[simp] theorem filterMap_requested_ask (calls : List κ) (r : Request) :
    (calls.map Traffic.issued ++ [Traffic.request r]).filterMap Traffic.requested =
      r.usage.toList := by
  have hissued : Traffic.requested ∘ (Traffic.issued : κ → Traffic κ) = fun _ ↦ none := rfl
  rw [List.filterMap_append, List.filterMap_map, hissued, List.filterMap_none, List.nil_append]
  cases h : r.usage <;> simp [Traffic.requested, h]

def Stage.handles (stages : List (Stage n)) : Multiset Nat :=
  ↑(stages.map fun stage ↦ stage.handle)

/-- The handle of a program, with those of the stages that were attached so far. -/
def Program.entry (p : Program n) : Nat × Multiset Nat :=
  (p.handle, Stage.handles (p.stages.take p.attached))

theorem Program.entry_le (p : Program n) : p.entry.2 ≤ Stage.handles p.stages :=
  Multiset.coe_le.2 ((List.take_sublist _ _).map _).subperm

def Ledger.ofHeld (programs : Multiset (Program n)) (stages : Multiset (Stage n)) : Ledger where
  programs := programs.map Program.entry
  stages := (programs.map fun p ↦ Stage.handles p.stages).sum + stages.map fun stage ↦ stage.handle
  covered := by
    rw [Multiset.map_map]
    exact (Multiset.sum_map_le_sum_map _ _ fun p _ ↦ p.entry_le).trans (Multiset.le_add_right _ _)

namespace Ledger

variable (p : Program n) (programs : Multiset (Program n)) (stages : Multiset (Stage n))

@[simp] theorem programs_ofHeld_cons :
    (ofHeld (p ::ₘ programs) stages).programs = p.entry ::ₘ (ofHeld programs stages).programs :=
  Multiset.map_cons _ _ _

@[simp] theorem stages_ofHeld_cons :
    (ofHeld (p ::ₘ programs) stages).stages =
      Stage.handles p.stages + (ofHeld programs stages).stages := by
  simp only [ofHeld, Multiset.map_cons, Multiset.sum_cons, add_assoc]

@[simp] theorem stages_ofHeld_cons_stage (stage : Stage n) :
    (ofHeld programs (stage ::ₘ stages)).stages =
      stage.handle ::ₘ (ofHeld programs stages).stages := by
  simp only [ofHeld, Multiset.map_cons, Multiset.add_cons]

@[simp] theorem stages_ofHeld_coe_add (given : List (Stage n)) :
    (ofHeld programs (↑given + stages)).stages =
      Stage.handles given + (ofHeld programs stages).stages := by
  simp only [ofHeld, Multiset.map_add, Multiset.map_coe, Stage.handles]
  rw [add_left_comm]

theorem ofHeld_zero : ofHeld (0 : Multiset (Program n)) 0 = empty := by
  ext1 <;> rfl

variable {p programs stages} {q : Program n}

/-- What a ledger knows of a program is its handle, its stages and how many are attached. -/
theorem ofHeld_congr (handle : q.handle = p.handle) (same : q.stages = p.stages)
    (attached : q.attached = p.attached) :
    ofHeld (q ::ₘ programs) stages = ofHeld (p ::ₘ programs) stages := by
  have hentry : q.entry = p.entry := by
    simp only [Program.entry, handle, same, attached]
  ext1
  · rw [programs_ofHeld_cons, programs_ofHeld_cons, hentry]
  · rw [stages_ofHeld_cons, stages_ofHeld_cons, same]

theorem step_nameProgram :
    Step (ofHeld (p ::ₘ programs) stages) (.nameProgram p.handle)
      (ofHeld (p ::ₘ programs) stages) := by
  apply Step.nameProgram
  rw [programs_ofHeld_cons, Multiset.map_cons]
  exact Multiset.mem_cons_self _ _

/-- A program that grows by a stage takes it over. -/
theorem ofHeld_grow (hbounded : p.attached ≤ p.stages.length) (stage : Stage n) :
    ofHeld (p.grow stage ::ₘ programs) stages = ofHeld (p ::ₘ programs) (stage ::ₘ stages) := by
  have hentry : (p.grow stage).entry = p.entry := by
    simp only [Program.entry, Program.grow, List.take_append_of_le_length hbounded]
  ext1
  · rw [programs_ofHeld_cons, programs_ofHeld_cons, hentry]
    rfl
  · rw [stages_ofHeld_cons, stages_ofHeld_cons, stages_ofHeld_cons_stage]
    have hstages : Stage.handles (p.grow stage).stages =
        stage.handle ::ₘ Stage.handles p.stages := by
      simp only [Stage.handles, Program.grow, List.map_append, List.map_cons, List.map_nil]
      rw [← Multiset.coe_add, Multiset.coe_singleton, add_comm, Multiset.singleton_add]
    rw [hstages, Multiset.cons_add, Multiset.add_cons]

section Linking

/-- Whatever the device answers, an attempt to link attaches the stages that are new. -/
theorem runs_linkRequests (linked : Bool) (handle : q.handle = p.handle)
    (same : q.stages = p.stages) (attached : q.attached = p.stages.length) :
    Runs (ofHeld (p ::ₘ programs) stages) ((p.linkRequests linked).filterMap Request.usage)
      (ofHeld (q ::ₘ programs) stages) := by
  have husages : (p.linkRequests linked).filterMap Request.usage =
      ((p.stages.drop p.attached).map fun stage ↦ stage.handle).map (.attach p.handle) ++
        [.nameProgram p.handle] := by
    rw [Program.linkRequests, List.filterMap_append, List.filterMap_map, List.map_map]
    exact congrArg (· ++ _) (congrFun List.filterMap_eq_map _)
  have hentry : q.entry =
      (p.handle, Stage.handles (p.stages.drop p.attached) + p.entry.2) := by
    have htake : p.stages.take p.stages.length =
        p.stages.take p.attached ++ p.stages.drop p.attached := by
      rw [List.take_length, List.take_append_drop]
    simp only [Program.entry, handle, same, attached, htake, Stage.handles, List.map_append]
    rw [add_comm, Multiset.coe_add]
  have hattach : Runs (ofHeld (p ::ₘ programs) stages)
      (((p.stages.drop p.attached).map fun stage ↦ stage.handle).map (.attach p.handle))
      (ofHeld (q ::ₘ programs) stages) := by
    refine .attachAll (programs_ofHeld_cons p programs stages) ?_ ?_
    · rw [programs_ofHeld_cons, hentry]
      rfl
    · rw [stages_ofHeld_cons, stages_ofHeld_cons, same]
  rw [husages, ← handle]
  rw [← handle] at hattach
  exact hattach.append (.single step_nameProgram)

variable [Device δ κ] {c c' : Context δ} {done : Except ProgramError Unit} {asked : List Request}

theorem runs_binds (h : Program.Binds (κ := κ) p c q done c' asked) :
    Runs (ofHeld (p ::ₘ programs) stages) (asked.filterMap Request.usage)
      (ofHeld (q ::ₘ programs) stages) := by
  have hlink : ∀ q linked, q.handle = p.handle → q.stages = p.stages →
      q.attached = p.stages.length →
        Runs (ofHeld (p ::ₘ programs) stages) ((p.linkRequests linked).filterMap Request.usage)
          (ofHeld (q ::ₘ programs) stages) :=
    fun q linked ↦ runs_linkRequests linked
  cases h with
  | again linked =>
    have hsame : ofHeld ({ p with bound := true } ::ₘ programs) stages =
        ofHeld (p ::ₘ programs) stages := ofHeld_congr rfl rfl rfl
    rw [hsame]
    exact .single step_nameProgram
  | @linked uniforms unlinked accepted parsed =>
    rw [List.filterMap_append]
    refine (hlink { p.withTable uniforms with bound := true } true rfl rfl rfl).append ?_
    exact .single step_nameProgram
  | dropped unlinked settled current =>
    rw [List.filterMap_append]
    exact (hlink { p.withoutTable with bound := false } _ rfl rfl rfl).append .nil
  | refused unlinked settled other =>
    exact hlink { p.withoutTable with bound := false } _ rfl rfl rfl

end Linking

end Ledger

/-- Whoever sees the calls sees one usage, any number of times. -/
def Repeats {σ : Type} (view : κ → Option Usage) (usage : Usage) (_ : σ) (calls : List κ)
    (_ : σ) : Prop :=
  ∀ other ∈ calls.filterMap view, other = usage

theorem composes_repeats {σ : Type} (view : κ → Option Usage) (usage : Usage) :
    Composes (Repeats (σ := σ) view usage) := by
  refine ⟨fun _ _ h ↦ absurd h List.not_mem_nil, ?_⟩
  intro s s' s'' first second earlier later other hother
  rw [List.filterMap_append, List.mem_append] at hother
  exact hother.elim (earlier other) (later other)

/-- Some traffic whose requests name one program and do nothing to any handle. -/
abbrev Names (program : Nat) : Context δ → List (Traffic κ) → Context δ → Prop :=
  OnDevice (Repeats Traffic.requested (.nameProgram program))

namespace Names

variable {program : Nat} {α : Type}

theorem ask {x : Action κ δ α} {request : α → Request}
    (h : ∀ answer, (request answer).usage = none ∨
      (request answer).usage = some (.nameProgram program)) :
    Follows (Names program) (Context.ask x request) := by
  intro c usage husage
  rw [filterMap_requested_callsOf, Context.run_ask, requests_append, requests_map_issued] at husage
  rcases h (x.run c.device).value with hnone | hname
  · simp [hnone] at husage
  · simpa [hname] using husage

variable [Device δ κ] (p : Program n) (name : String)

theorem setUniform (value : HostValue) :
    Follows (Names p.handle) (p.setUniform name value : AccessAction δ κ _).run :=
  Program.follows_setUniform name (composes_repeats _ _).onDevice (ask fun _ ↦ .inr rfl)
    (fun _ ↦ ask fun _ ↦ .inr rfl) (fun _ _ _ ↦ ask fun _ ↦ .inl rfl) value

theorem getUniform :
    Follows (Names p.handle) (p.getUniform name : AccessAction δ κ _).run :=
  Program.follows_getUniform name (composes_repeats _ _).onDevice (ask fun _ ↦ .inr rfl)
    (fun _ ↦ ask fun _ ↦ .inr rfl) (fun _ _ ↦ ask fun _ ↦ .inr rfl) fun _ _ ↦ ask fun _ ↦ .inr rfl

end Names

/-! ## Changes -/

/-- What the requests on record tell of handles. -/
def usagesOf (record : List (Entry (Fin 1 × Traffic κ))) : List Usage :=
  (trafficAt 0 (callsOf record)).filterMap Traffic.requested

@[simp] theorem usagesOf_append (first second : List (Entry (Fin 1 × Traffic κ))) :
    usagesOf (first ++ second) = usagesOf first ++ usagesOf second := by
  rw [usagesOf, callsOf_append, trafficAt_append, List.filterMap_append]
  rfl

/-- What is done within the only context is told by the record of that context. -/
theorem of_within_eq {α : Type} {i : Fin 1} {x : ContextAction δ κ α} {w w' : World δ 1} {value : α}
    {record : List (Entry (Fin 1 × Traffic κ))} (h : (within i x).run w = ⟨value, w', record⟩) :
    value = (x.run (context 0 w)).value ∧
      usagesOf record = (requests (x.run (context 0 w)).record).filterMap Request.usage := by
  obtain rfl : i = 0 := Fin.fin_one_eq_zero i
  rw [run_within] at h
  obtain ⟨rfl, -, rfl⟩ := Outcome.mk.inj h
  rw [usagesOf, callsOf_map, trafficAt_map, if_pos rfl, filterMap_requested_callsOf]
  exact ⟨rfl, rfl⟩

theorem Ledger.runs_names {α : Type} {i : Fin 1} {x : ContextAction δ κ α} {p : Program 1}
    {programs : Multiset (Program 1)} {stages : Multiset (Stage 1)}
    (hx : Follows (Names p.handle) x) {w w' : World δ 1} {value : α}
    {record : List (Entry (Fin 1 × Traffic κ))} (h : (within i x).run w = ⟨value, w', record⟩) :
    Runs (ofHeld (p ::ₘ programs) stages) (usagesOf record) (ofHeld (p ::ₘ programs) stages) := by
  rw [(of_within_eq h).2, ← filterMap_requested_callsOf]
  exact .of_forall_eq step_nameProgram (hx _)

/-- No program counts more stages as attached than it has. -/
def Bounded (programs : Multiset (Program n)) : Prop :=
  ∀ p ∈ programs, p.attached ≤ p.stages.length

namespace Bounded

variable {p : Program n} {programs : Multiset (Program n)}

theorem head (h : Bounded (p ::ₘ programs)) : p.attached ≤ p.stages.length :=
  h p (Multiset.mem_cons_self p programs)

theorem tail (h : Bounded (p ::ₘ programs)) : Bounded programs :=
  fun other hother ↦ h other (Multiset.mem_cons_of_mem hother)

theorem cons (h : Bounded programs) (hp : p.attached ≤ p.stages.length) :
    Bounded (p ::ₘ programs) := by
  intro other hother
  rcases Multiset.mem_cons.1 hother with rfl | hother
  · exact hp
  · exact h other hother

end Bounded

variable [Device δ κ]

theorem Program.Binds.bounded {p p' : Program n} {c c' : Context δ}
    {done : Except ProgramError Unit} {asked : List Request}
    (h : Program.Binds (κ := κ) p c p' done c' asked) (hp : p.attached ≤ p.stages.length) :
    p'.attached ≤ p'.stages.length := by
  cases h with
  | again linked => exact hp
  | linked | dropped | refused => exact le_rfl

theorem usagesOf_stageNew {i : Fin 1} {type : StageType} {sources : List String} {w w' : World δ 1}
    {value : Except StageError (Stage 1)} {record : List (Entry (Fin 1 × Traffic κ))}
    (h : (Stage.new i type sources).run w = ⟨value, w', record⟩) :
    usagesOf record =
      (value.toOption.map fun stage ↦ Usage.createStage stage.handle).toList := by
  obtain ⟨rfl, husages⟩ := of_within_eq h
  rw [husages]
  split
  · rfl
  · simp only [Context.newStage, Action.run_bind, Context.run_ask, requests_append,
      requests_map_issued, List.filterMap_append]
    cases ((Device.newStage type sources : Action κ δ _).run (context 0 w).device).value <;> rfl

namespace Ledger

variable {programs : Multiset (Program n)} {stages : Multiset (Stage n)} {p : Program n}

/-- Whatever comes of a program that is made, it has the stages and owns its handle. -/
theorem runs_assemble (i : Fin n) (given : List (Stage n)) (c : Context δ) :
    let made := (Program.assemble i given : ContextAction δ κ _).run c
    Runs (ofHeld programs (↑given + stages)) ((requests made.record).filterMap Request.usage)
        (ofHeld (made.value.1 ::ₘ programs) stages) ∧
      made.value.1.attached ≤ made.value.1.stages.length := by
  intro made
  obtain ⟨hvalue, -, hrequests⟩ := Program.run_assemble (κ := κ) i given c
  generalize (Device.newProgram : Action κ δ Nat).run c.device = created at hvalue hrequests
  let fresh := Program.fresh ⟨c.nextId⟩ created.value i given
  have hcreate : Step (ofHeld programs (↑given + stages)) (.createProgram fresh.handle)
      (ofHeld (fresh ::ₘ programs) stages) := by
    apply Step.createProgram
    · exact programs_ofHeld_cons _ _ _
    · rw [stages_ofHeld_cons, stages_ofHeld_coe_add]
      rfl
  have hsettled : made.value.1.handle = fresh.handle ∧ made.value.1.stages = fresh.stages ∧
      made.value.1.attached = fresh.stages.length := by
    rw [hvalue]
    rcases fresh.settle_cases _ with ⟨uniforms, -, -, h⟩ | ⟨e, -, h⟩ <;> rw [h] <;>
      exact ⟨rfl, rfl, rfl⟩
  obtain ⟨hhandle, hstages, hattached⟩ := hsettled
  rw [hrequests]
  refine ⟨.cons hcreate (runs_linkRequests _ hhandle hstages hattached), ?_⟩
  rw [hattached, hstages]

theorem runs_append (hp : p.attached ≤ p.stages.length) (stage : Stage n) (c : Context δ) :
    let grown := (p.append stage : ContextAction δ κ _).run c
    Runs (ofHeld (p ::ₘ programs) (stage ::ₘ stages))
        ((requests grown.record).filterMap Request.usage)
        (ofHeld (grown.value.1 ::ₘ programs) stages) ∧
      grown.value.1.attached ≤ grown.value.1.stages.length := by
  intro grown
  have hgrown : (p.grow stage).attached ≤ (p.grow stage).stages.length := by
    rw [Program.grow, List.length_append]
    exact hp.trans (Nat.le_add_right _ _)
  rw [← ofHeld_grow hp]
  cases hbound : p.bound with
  | true =>
    obtain ⟨hvalue, -, hrequests⟩ := Program.run_append_of_bound (κ := κ) hbound stage c
    have hbinds := (p.grow stage).binds_bind (κ := κ) c
    rw [← hvalue, ← hrequests] at hbinds
    exact ⟨runs_binds hbinds, hbinds.bounded hgrown⟩
  | false =>
    obtain ⟨hvalue, -, hrequests⟩ := Program.run_append_of_not_bound (κ := κ) hbound stage c
    dsimp only [grown]
    rw [hvalue, hrequests]
    exact ⟨.nil, hgrown⟩

/-- The stages of a program outlive it. -/
theorem step_retire :
    Step (ofHeld (p ::ₘ programs) stages) (.deleteProgram p.handle)
      (ofHeld programs (↑p.stages + stages)) := by
  refine .deleteProgram p.handle (programs_ofHeld_cons _ _ _) ?_
  rw [stages_ofHeld_cons, stages_ofHeld_coe_add]

end Ledger

/-- Every change of a session is a run of what it holds. -/
theorem runs_change {i : Fin 1} {subject : Option ProgramId} {x y : Holdings δ 1}
    {deeds : List (Deed 1 κ)} (hbounded : Bounded x.programs) (h : OwnChange i subject x deeds y) :
    Ledger.Runs (.ofHeld x.programs x.stages) (usagesOf (entriesOf deeds))
        (.ofHeld y.programs y.stages) ∧ Bounded y.programs := by
  cases h with
  | @compile _ _ _ _ _ _ stage _ hrun =>
    rw [entriesOf_map_recorded, usagesOf_stageNew hrun]
    exact ⟨.single (.createStage stage.handle rfl (Ledger.stages_ofHeld_cons_stage _ _ _)),
      hbounded⟩
  | refuse hrun =>
    rw [entriesOf_map_recorded, usagesOf_stageNew hrun]
    exact ⟨.nil, hbounded⟩
  | @discard _ _ _ _ stage _ hrun =>
    have husages := (of_within_eq hrun).2
    simp only [Context.destroyStage, Context.run_ask, requests_append,
      requests_map_issued] at husages
    rw [entriesOf_map_recorded, husages]
    exact ⟨.single (.deleteStage stage.handle rfl (Ledger.stages_ofHeld_cons_stage _ _ _)),
      hbounded⟩
  | @assemble w _ programs given _ p linked _ nonempty hrun about =>
    obtain ⟨hvalue, husages⟩ := of_within_eq hrun
    have hp : p = _ := congrArg Prod.fst hvalue
    obtain ⟨hruns, hattached⟩ := Ledger.runs_assemble (κ := κ) i given (context 0 w)
    rw [entriesOf_map_recorded, husages, hp]
    exact ⟨hruns, hbounded.cons hattached⟩
  | @append w _ programs _ p p' stage _ _ hrun about =>
    obtain ⟨hvalue, husages⟩ := of_within_eq hrun
    have hp : p' = _ := congrArg Prod.fst hvalue
    obtain ⟨hruns, hattached⟩ := Ledger.runs_append (κ := κ) hbounded.head stage (context 0 w)
    rw [entriesOf_map_recorded, husages, hp]
    exact ⟨hruns, hbounded.tail.cons hattached⟩
  | @bind w _ programs _ p _ _ _ hrun about =>
    obtain ⟨hvalue, husages⟩ := of_within_eq hrun
    have hbinds := p.binds_bind (κ := κ) (context 0 w)
    rw [← hvalue] at hbinds
    rw [entriesOf_map_recorded, husages]
    exact ⟨Ledger.runs_binds hbinds, hbounded.tail.cons (hbinds.bounded hbounded.head)⟩
  | @unbind w _ programs stages p _ _ hrun about =>
    obtain ⟨hvalue, husages⟩ := of_within_eq hrun
    obtain ⟨hmarked, -, hrequests⟩ := p.run_unbind (κ := κ) (context 0 w)
    have hsame : Ledger.ofHeld ({ p with bound := false } ::ₘ programs) stages =
        .ofHeld (p ::ₘ programs) stages := Ledger.ofHeld_congr rfl rfl rfl
    rw [entriesOf_map_recorded, husages, hrequests, hvalue, hmarked, hsame]
    exact ⟨.nil, hbounded.tail.cons hbounded.head⟩
  | set hrun about =>
    rw [entriesOf_append, entriesOf_map_recorded, usagesOf_append]
    exact ⟨(Ledger.runs_names (Names.setUniform _ _ _) hrun).append .nil, hbounded⟩
  | setFails hrun about =>
    rw [entriesOf_map_recorded]
    exact ⟨Ledger.runs_names (Names.setUniform _ _ _) hrun, hbounded⟩
  | get hrun about =>
    rw [entriesOf_map_recorded]
    exact ⟨Ledger.runs_names (Names.getUniform _ _) hrun, hbounded⟩
  | isLinked hrun about =>
    rw [entriesOf_map_recorded]
    exact ⟨Ledger.runs_names (Names.ask fun _ ↦ .inr rfl) hrun, hbounded⟩
  | activeUniforms hrun about =>
    rw [entriesOf_map_recorded]
    exact ⟨Ledger.runs_names (Names.ask fun _ ↦ .inr rfl) hrun, hbounded⟩
  | note => exact ⟨.nil, hbounded⟩
  | @retire w _ programs _ p _ hrun =>
    have husages := (of_within_eq hrun).2
    rw [(p.run_retire (κ := κ) (context 0 w)).2] at husages
    rw [entriesOf_map_recorded, husages]
    exact ⟨.single Ledger.step_retire, hbounded.tail⟩
  | react event => exact event.elim

theorem runs_changes {i : Fin 1} {subject : Option ProgramId} {x y : Holdings δ 1}
    {deeds : List (Deed 1 κ)} (hbounded : Bounded x.programs)
    (h : @Changes δ κ Empty _ (Environment.silent δ κ) 1 i subject x deeds y) :
    Ledger.Runs (.ofHeld x.programs x.stages) (usagesOf (entriesOf deeds))
        (.ofHeld y.programs y.stages) ∧ Bounded y.programs := by
  induction h with
  | refl x => exact ⟨.nil, hbounded⟩
  | step hfirst others ih =>
    obtain ⟨hruns, hnext⟩ := runs_change hbounded hfirst
    obtain ⟨hrest, hlast⟩ := ih hnext
    rw [entriesOf_append, usagesOf_append]
    exact ⟨hruns.append hrest, hlast⟩

/-! ## Runs of a session -/

namespace Session

/-- At the end the programs in slots are released, and after them the stages. -/
theorem run_close (s : Session δ n) :
    let programs := (s.programs.toList.map Prod.snd).forM Program.release
    let stages := (s.stages.toList.map Prod.snd).forM Stage.release
    (close : SessionAction δ κ n Unit).run s =
      let o := (programs >>= fun _ ↦ stages : WorldAction δ κ n Unit).run s.world
      ⟨(), ⟨o.state, ∅, ∅⟩, o.record⟩ := by
  intro programs stages
  have hforM : ∀ {α : Type} (entries : List (String × α)) (f : α → WorldAction δ κ n Unit),
      (entries.forM fun entry ↦ f entry.2) = (entries.map Prod.snd).forM f := by
    intro α entries f
    induction entries with
    | nil => rfl
    | cons entry rest ih => exact congrArg (f entry.2 >>= fun _ ↦ ·) ih
  simp only [close, Action.run_bind, Action.run_get, Action.run_modify, List.nil_append,
    run_onWorld, hforM]
  rfl

section Closing

variable {ε : Type} [Environment δ κ ε] {i : Fin n} {subject : Option ProgramId}

theorem changes_releasePrograms (released : List (Program n)) (w : World δ n)
    (stages : Multiset (Stage n)) :
    Changes (ε := ε) i subject ⟨w, ↑released, stages⟩
      (((released.forM Program.release).run w).record.map .recorded)
      ⟨((released.forM Program.release).run w).state, 0, stages⟩ := by
  induction released generalizing w with
  | nil => exact .refl _
  | cons p rest ih =>
    rw [Action.run_forM_cons, List.map_append, ← Multiset.cons_coe]
    exact (changes_release p w ↑rest stages).trans (ih _)

/-- When a session ends it lets go of all it holds. -/
theorem changes_close (s : Session δ n) :
    Changes (ε := ε) i subject s.holdings
      (((close : SessionAction δ κ n Unit).run s).record.map .recorded)
      ⟨((close : SessionAction δ κ n Unit).run s).state.world, 0, 0⟩ := by
  rw [run_close]
  simp only [Action.run_bind, List.map_append]
  refine (changes_releasePrograms _ _ _).trans ?_
  have hstages : s.stages.tenants = ↑(s.stages.toList.map Prod.snd) + 0 := (add_zero _).symm
  rw [hstages]
  exact changes_releaseAll _ _ _ _

end Closing

section Runs

variable {ε : Type} [Environment δ κ ε]

/-- What crosses the border of the device in the operations of a run. -/
def trafficAlong : List (Move 1 ε) → Session δ 1 → List (Traffic κ)
  | [], _ => []
  | .perform i operation :: rest, s =>
    let performed := (perform i operation).run s
    trafficAt 0 (callsOf performed.record) ++ trafficAlong rest performed.state
  | .react i event :: rest, s => trafficAlong rest ((move (.react i event)).run s).state

/-- The traffic of a whole session, its end included. -/
def wholeTraffic (moves : List (Move 1 ε)) (s : Session δ 1) : List (Traffic κ) :=
  trafficAlong moves s ++
    trafficAt 0 (callsOf ((close : SessionAction δ κ 1 Unit).run (after moves s)).record)

def ledger (s : Session δ 1) : Ledger :=
  .ofHeld s.programs.tenants s.stages.tenants

omit [Environment δ κ ε] in
theorem runs_perform {s : Session δ 1} (hbounded : Bounded s.programs.tenants) (i : Fin 1)
    (operation : Operation) :
    Ledger.Runs s.ledger (usagesOf ((perform i operation).run s).record)
        ((perform i operation).run s).state.ledger ∧
      Bounded ((perform i operation).run s).state.programs.tenants := by
  have hchanges := runs_changes hbounded (ownChanges_perform i operation s)
  rwa [entriesOf_append, entriesOf_map_recorded, entriesOf_writes, List.append_nil] at hchanges

theorem runs_trafficAlong (moves : List (Move 1 ε)) {s : Session δ 1}
    (hbounded : Bounded s.programs.tenants) :
    Ledger.Runs s.ledger ((trafficAlong moves s).filterMap Traffic.requested)
        (after moves s).ledger ∧ Bounded (after moves s).programs.tenants := by
  induction moves generalizing s with
  | nil => exact ⟨.nil, hbounded⟩
  | cons m rest ih =>
    cases m with
    | perform i operation =>
      obtain ⟨hruns, hnext⟩ := runs_perform hbounded i operation
      obtain ⟨hrest, hlast⟩ := ih hnext
      rw [trafficAlong, List.filterMap_append]
      exact ⟨hruns.append hrest, hlast⟩
    | react i event =>
      have hstate := (run_move_react i event s).1
      have hsame : ((move (.react i event)).run s).state.programs = s.programs ∧
          ((move (.react i event)).run s).state.stages = s.stages := by
        rw [hstate]
        exact ⟨rfl, rfl⟩
      have hledger : ((move (.react i event)).run s).state.ledger = s.ledger := by
        rw [ledger, hsame.1, hsame.2, ledger]
      rw [← hledger]
      exact ih (hsame.1 ▸ hbounded)

theorem runs_wholeTraffic (device : δ) (moves : List (Move 1 ε)) :
    Ledger.Runs .empty ((wholeTraffic moves (Session.new #v[device])).filterMap Traffic.requested)
      .empty := by
  have hnew : (Session.new #v[device]).ledger = .empty := by
    have hstages : (Session.new #v[device]).stages.tenants = 0 := Slots.tenants_empty
    rw [ledger, tenants_programs_new, hstages, Ledger.ofHeld_zero]
  have hnone : Bounded (Session.new #v[device]).programs.tenants := by
    rw [tenants_programs_new]
    exact fun p hp ↦ absurd hp (Multiset.notMem_zero p)
  obtain ⟨hruns, hbounded⟩ := runs_trafficAlong moves hnone
  obtain ⟨hclose, -⟩ := runs_changes hbounded
    (@changes_close δ κ 1 _ Empty (Environment.silent δ κ) 0 none
      (after moves (Session.new #v[device])))
  rw [entriesOf_map_recorded, Ledger.ofHeld_zero] at hclose
  rw [hnew] at hruns
  rw [wholeTraffic, List.filterMap_append]
  exact hruns.append hclose

/-- What every request obeys, and every event when nothing crosses the border, is obeyed by a whole
session. -/
theorem obeys_wholeTraffic {R : δ → List (Traffic κ) → δ → Prop} (h : Obeyed R)
    (hreact : ∀ (event : ε) (d : δ),
      R d [] ((Environment.react event : Action κ δ _).run d).state)
    (s : Session δ 1) (moves : List (Move 1 ε)) :
    R (context 0 s.world).device (wholeTraffic moves s)
      (context 0 ((close : SessionAction δ κ 1 Unit).run (after moves s)).state.world).device := by
  induction moves generalizing s with
  | nil =>
    rw [wholeTraffic, trafficAlong, List.nil_append, after_nil, run_close]
    exact Follows.bind (h.toComposes.atContext 0)
      (.forM (h.toComposes.atContext 0) (h.release 0) _)
      (fun _ ↦ .forM (h.toComposes.atContext 0) (h.stageRelease 0) _) s.world
  | cons m rest ih =>
    cases m with
    | perform i operation =>
      rw [wholeTraffic, trafficAlong, List.append_assoc]
      exact h.trans (obeys_perform h i operation s 0) (ih _)
    | react i event =>
      obtain rfl : i = 0 := Fin.fin_one_eq_zero i
      have hdevice : (context 0 ((move (.react 0 event)).run s).state.world).device =
          ((Environment.react event : Action κ δ _).run (context 0 s.world).device).state := by
        rw [(run_move_react 0 event s).1, context_set_self]
      have hrest := ih ((move (.react 0 event)).run s).state
      rw [hdevice] at hrest
      have hnone : wholeTraffic (.react 0 event :: rest) s =
          [] ++ wholeTraffic rest ((move (.react 0 event)).run s).state := rfl
      rw [hnone]
      exact h.trans (hreact event _) hrest

end Runs

end Session

/-- What a view tells of handles comes down to what the requests tell. -/
def Refines (view : Traffic κ → Option Usage) (traffic : List (Traffic κ)) : Prop :=
  ∀ l l' : Ledger,
    l.Runs (traffic.filterMap Traffic.requested) l' → l.Runs (traffic.filterMap view) l'

namespace Refines

variable {view : Traffic κ → Option Usage} {first second : List (Traffic κ)}

omit [Device δ κ]

theorem nil : Refines view [] :=
  fun _ _ h ↦ h

theorem append (hfirst : Refines view first) (hsecond : Refines view second) :
    Refines view (first ++ second) := by
  intro l l' h
  rw [List.filterMap_append] at h ⊢
  obtain ⟨middle, hbefore, hafter⟩ := h.of_append
  exact (hfirst l middle hbefore).append (hsecond middle l' hafter)

theorem composes : Composes fun (_ : δ) traffic (_ : δ) ↦ Refines view traffic :=
  ⟨fun _ ↦ nil, fun _ _ _ _ _ ↦ append⟩

end Refines

/-- Whoever sees no more of a session than its requests account for sees an orderly one. -/
theorem Refines.orderly {ε : Type} [Environment δ κ ε] {view : Traffic κ → Option Usage}
    {device : δ} {moves : List (Move 1 ε)}
    (h : Refines view (Session.wholeTraffic moves (Session.new #v[device]))) :
    Orderly ((Session.wholeTraffic moves (Session.new #v[device])).filterMap view) :=
  (h _ _ (Session.runs_wholeTraffic device moves)).orderly

end Shading
