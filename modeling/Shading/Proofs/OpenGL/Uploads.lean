import Mathlib.Data.Multiset.Filter
import Shading.Proofs.OpenGL.Replay
import Shading.Proofs.Session.Numbers

/-!
# Where uniforms go

The context knows the current program by its number, the back end has a record of the program in
use, and the driver has the program that is in use. If the driver never gives one handle to two
programs, the three agree: whatever the record says is in use, and the program that is current in
the context is in use too. So a uniform is only ever uploaded to the program it is set on.

The record may be taken away at any time, and programs may be dropped while it may not be touched.
Zero, which a driver gives when it cannot make a program, may be given many times.
-/

namespace Shading

open Shading.Uniform World

/-- The handle that a device gave to a new program. -/
def Act.givenHandle : Act → Option Nat
  | .asked (.newProgram handle) => some handle
  | _ => none

/-- The handles of programs in the order in which they were given. -/
def givenHandles (acts : List Act) : List Nat :=
  acts.filterMap Act.givenHandle

@[simp] theorem givenHandles_append (first second : List Act) :
    givenHandles (first ++ second) = givenHandles first ++ givenHandles second :=
  List.filterMap_append

variable {δ κ ε : Type} [Device δ κ]

/-- No program gets another handle, and a program that is made has the handle that was given. -/
theorem Effect.handles [Environment δ κ ε] {subject : Option ProgramId} {c c' : Context δ}
    {programs programs' : Multiset (Program 1)} {acts : List Act}
    (h : Effect (ε := ε) subject c programs acts c' programs') :
    programs'.map Program.handle ≤ programs.map Program.handle + ↑(givenHandles acts) := by
  cases h with
  | make nonempty about created fresh submitted =>
    rw [Multiset.map_cons, Program.settle_handle, fresh, List.map_cons]
    have hgiven : ∀ (handle : Nat) (rest : List Act),
        givenHandles (.asked (.newProgram handle) :: rest) = handle :: givenHandles rest :=
      fun _ _ ↦ rfl
    rw [hgiven, ← Multiset.cons_coe, Multiset.add_cons]
    exact Multiset.cons_le_cons _ (Multiset.le_add_right _ _)
  | @bind _ programs p q q' done requests same binds about =>
    have hhandle : q'.handle = p.handle := by
      rcases same with rfl | ⟨stage, rfl⟩ <;> cases binds <;> rfl
    rw [Multiset.map_cons, Multiset.map_cons, hhandle]
    exact Multiset.le_add_right _ _
  | grow | unbind =>
    rw [Multiset.map_cons, Multiset.map_cons]
    exact Multiset.le_add_right _ _
  | retire =>
    rw [Multiset.map_cons, Multiset.cons_add]
    exact (Multiset.le_add_right _ _).trans (Multiset.le_cons_self _ _)
  | _ => exact Multiset.le_add_right _ _

namespace OpenGL.Backend

variable {γ : Type} [Driver γ] [LawfulDriver γ]

omit [LawfulDriver γ] in
/-- A link does not change the program in use. -/
theorem spares_submit {n : Nat} (p : Program n) :
    Follows Spares (p.submit : Action Call (Backend γ) _) :=
  .bind composes_spares (.forM composes_spares (fun _ ↦ spares_attachStage _ _) _) fun _ ↦
    spares_linkProgram _

omit [LawfulDriver γ] in
/-- An upload goes to the program in use and leaves it there. -/
theorem spares_setUniform {n : Nat} (p : Program n) (name : String) (value : HostValue) :
    Follows (OnDevice (Issued (Spares (γ := γ)))) (p.setUniform name value).run := by
  refine Program.follows_setUniform name composes_spares.issued.onDevice ?_ ?_ ?_ value
  · exact .ask_issued (spares_activeUniforms p.handle) _
  · exact fun name ↦ .ask_issued (spares_uniformLocation p.handle name) _
  · exact fun location count data ↦ .ask_issued (spares_upload location count data) _

omit [LawfulDriver γ] in
theorem spares_getUniform {n : Nat} (p : Program n) (name : String) :
    Follows (OnDevice (Issued (Spares (γ := γ)))) (p.getUniform name).run := by
  refine Program.follows_getUniform name composes_spares.issued.onDevice ?_ ?_ ?_ ?_
  · exact .ask_issued (spares_activeUniforms p.handle) _
  · exact fun name ↦ .ask_issued (spares_uniformLocation p.handle name) _
  · exact fun location size ↦ .ask_issued (spares_queryInts p.handle location size) _
  · exact fun location size ↦ .ask_issued (spares_queryFloats p.handle location size) _

/-- The programs of a context by number and handle. -/
def names {n : Nat} (programs : Multiset (Program n)) : Multiset (ProgramId × Nat) :=
  programs.map fun p ↦ (p.id, p.handle)

omit [Driver γ] [LawfulDriver γ] in
@[simp] theorem names_cons {n : Nat} (p : Program n) (programs : Multiset (Program n)) :
    names (p ::ₘ programs) = (p.id, p.handle) ::ₘ names programs :=
  Multiset.map_cons _ _ _

/-- The program that is current in the context is in use in the driver. -/
structure Agrees (given : List Nat) (c : Context (Backend γ)) (programs : Multiset (Program 1)) :
    Prop where
  numbered : Numbered c programs
  handles : programs.map Program.handle ≤ ↑given
  truthful : c.device.Truthful
  current : ∀ id, c.current = some id →
    (id, Driver.currentProgram c.device.driver) ∈ names programs

/-- No handle but zero is given twice. -/
def Fresh (given : List Nat) : Prop :=
  (given.filter (· ≠ 0)).Nodup

namespace Agrees

variable {given : List Nat} {c c' : Context (Backend γ)} {programs programs' : Multiset (Program 1)}

/-- What the device does while it spares the program in use. -/
theorem spare {calls : List Call} (hagrees : Agrees given c programs)
    (hspares : Spares c.device calls c'.device) (hcurrent : c'.current = c.current) :
    c'.device.Truthful ∧ ∀ id, c'.current = some id →
      (id, Driver.currentProgram c'.device.driver) ∈ names programs := by
  rw [hcurrent, hspares.currentProgram]
  exact ⟨hspares.truthful hagrees.truthful, hagrees.current⟩

omit [LawfulDriver γ] in
/-- A handle that a program shares with another one is zero. -/
theorem eq_zero_of_mem {p : Program 1} (hagrees : Agrees given c (p ::ₘ programs))
    (hfresh : Fresh given) {id : ProgramId} (hmem : (id, p.handle) ∈ names programs) :
    p.handle = 0 := by
  obtain ⟨q, hq, heq⟩ := Multiset.mem_map.1 hmem
  have hsame : q.handle = p.handle := congrArg Prod.snd heq
  by_contra hzero
  have hne : p.handle ≠ 0 := hzero
  have hsub := Multiset.filter_le_filter (fun handle ↦ handle ≠ 0) hagrees.handles
  rw [Multiset.map_cons, Multiset.filter_cons_of_pos (p := fun handle ↦ handle ≠ 0) _ hne,
    Multiset.filter_coe] at hsub
  have hnodup := Multiset.nodup_of_le hsub (Multiset.coe_nodup.2 hfresh)
  refine (Multiset.nodup_cons.1 hnodup).1 (Multiset.mem_filter.2 ⟨?_, hne⟩)
  rw [← hsame]
  exact Multiset.mem_map_of_mem Program.handle hq

theorem of_effect {subject : Option ProgramId} {acts : List Act} (hagrees : Agrees given c programs)
    (hfresh : Fresh given)
    (h : @Effect _ _ Empty _ (Environment.silent _ _) subject c programs acts c' programs') :
    Agrees (given ++ givenHandles acts) c' programs' := by
  have hnumbered : Numbered c' programs' :=
    @Numbered.of_effect _ _ Empty _ (Environment.silent _ _) _ _ _ _ _ _ hagrees.numbered h
  have hhandles : programs'.map Program.handle ≤ ↑(given ++ givenHandles acts) := by
    rw [← Multiset.coe_add]
    exact (@Effect.handles _ _ Empty _ (Environment.silent _ _) _ _ _ _ _ _ h).trans
      (Multiset.add_le_add_right hagrees.handles)
  suffices hrest : c'.device.Truthful ∧ ∀ id, c'.current = some id →
      (id, Driver.currentProgram c'.device.driver) ∈ names programs' from
    ⟨hnumbered, hhandles, hrest.1, hrest.2⟩
  cases h with
  | nothing => exact ⟨hagrees.truthful, hagrees.current⟩
  | newStage type sources => exact hagrees.spare (spares_newStage type sources c.device) rfl
  | destroyStage stage => exact hagrees.spare (spares_destroyStage stage c.device) rfl
  | @make programs p made linked stages nonempty about created fresh submitted =>
    subst created submitted
    have hspares : c.device.Spares _ ((p.submit : Action Call (Backend γ) _).run
        ((Device.newProgram : Action Call (Backend γ) Nat).run c.device).state).state :=
      composes_spares.trans (spares_newProgram c.device) (spares_submit p _)
    refine ⟨hspares.truthful hagrees.truthful, ?_⟩
    intro id hid
    rw [hspares.currentProgram, names_cons]
    exact Multiset.mem_cons_of_mem (hagrees.current id hid)
  | @grow programs p stage unmarked about =>
    have hnames : names (p.grow stage ::ₘ programs) = names (p ::ₘ programs) := by
      rw [names_cons, names_cons]
      rfl
    rw [hnames]
    exact ⟨hagrees.truthful, hagrees.current⟩
  | @bind _ programs p q q' done requests same binds about =>
    have hsubmit : Spares c.device _ _ := spares_submit q c.device
    cases binds with
    | again linked =>
      obtain ⟨htruthful, hdriver⟩ := useProgram_spec (some q.handle) hagrees.truthful
      refine ⟨htruthful, ?_⟩
      rintro _ ⟨⟩
      rw [hdriver, names_cons]
      exact Multiset.mem_cons_self _ _
    | linked unlinked accepted parsed =>
      obtain ⟨htruthful, hdriver⟩ :=
        useProgram_spec (some q.handle) (hsubmit.truthful hagrees.truthful)
      refine ⟨htruthful, ?_⟩
      rintro _ ⟨⟩
      rw [hdriver, names_cons]
      exact Multiset.mem_cons_self _ _
    | dropped unlinked settled current =>
      refine ⟨(useProgram_spec none (hsubmit.truthful hagrees.truthful)).1, ?_⟩
      rintro _ ⟨⟩
    | refused unlinked settled other =>
      have hnames : names ({ q.withoutTable with bound := false } ::ₘ programs) =
          names (p ::ₘ programs) := by
        rw [names_cons, names_cons]
        rcases same with rfl | ⟨stage, rfl⟩ <;> rfl
      rw [hnames]
      exact hagrees.spare hsubmit rfl
  | unbind about =>
    exact ⟨(useProgram_spec none hagrees.truthful).1, fun _ hid ↦ by cases hid⟩
  | @set programs p name value about =>
    exact hagrees.spare (spares_setUniform p name value c)
      ((p.quiet_setUniform name value).current_eq c)
  | @get programs p name about =>
    exact hagrees.spare (spares_getUniform p name c) ((p.quiet_getUniform name).current_eq c)
  | @isLinked programs p about => exact hagrees.spare (spares_isLinked p.handle c.device) rfl
  | @activeUniforms programs p about =>
    exact hagrees.spare (spares_activeUniforms p.handle c.device) rfl
  | @retire _ p =>
    obtain ⟨htruthful, hdriver⟩ := destroyProgram_spec p.handle hagrees.truthful
    refine ⟨htruthful, ?_⟩
    intro id hid
    dsimp only at hid
    split at hid
    · cases hid
    · rename_i hother
      have hnamed := hagrees.current id hid
      rw [names_cons, Multiset.mem_cons] at hnamed
      have hmem : (id, Driver.currentProgram c.device.driver) ∈ names programs' := by
        refine hnamed.resolve_left fun heq ↦ hother ?_
        exact hid.trans (congrArg some (Prod.mk.inj heq).1)
      rcases hdriver with hkept | ⟨hleft, hnone⟩
      · rwa [hkept]
      · rw [hleft] at hmem
        rwa [hnone, ← hagrees.eq_zero_of_mem hfresh hmem]
  | react event => exact event.elim

end Agrees

omit [Driver γ] [LawfulDriver γ] in
theorem Fresh.of_append {given others : List Nat} (h : Fresh (given ++ others)) : Fresh given := by
  rw [Fresh, List.filter_append] at h
  exact h.of_append_left

/-- What a history leaves behind if no handle was given twice in it. -/
def Agreed (log : History 1 Call) (c : Context (Backend γ)) (programs : Multiset (Program 1)) :
    Prop :=
  Fresh (givenHandles (actsOf log)) → Agrees (givenHandles (actsOf log)) c programs

section Runs

open Session

variable {ε : Type} [Environment (Backend γ) Call ε] (driver : γ) {moves : List (Move 1 ε)}
variable {log : History 1 Call}

theorem Agreed.of_change {i : Fin 1} {subject : Option ProgramId} {x y : Holdings (Backend γ) 1}
    {deeds : List (Deed 1 Call)} (hagreed : Agreed log (context 0 x.world) x.programs)
    (h : OwnChange i subject x deeds y) :
    Agreed (log ++ deeds.map (subject, ·)) (context 0 y.world) y.programs := by
  intro hfresh
  rw [actsOf_append, actsOf_map, givenHandles_append] at hfresh ⊢
  exact (hagreed hfresh.of_append).of_effect hfresh.of_append
    (@Effect.of_change _ _ Empty _ (Environment.silent _ _) _ _ _ _ _ h)

omit [LawfulDriver γ] in
theorem Agreed.react {i : Fin 1} {event : ε} {s : Session (Backend γ) 1}
    (hagreed : Agreed log (context 0 s.world) s.programs.tenants)
    (hevent : Undisturbing (γ := γ) event) :
    let s' := ((move (.react i event)).run s).state
    Agreed (log ++ deeds (.react i event) s) (context 0 s'.world) s'.programs.tenants := by
  intro s' hfresh
  rw [actsOf_append, actsOf_deeds_react, List.append_nil] at hfresh ⊢
  obtain ⟨hnumbered, hhandles, htruthful, hcurrent⟩ := hagreed hfresh
  obtain rfl : i = 0 := Fin.fin_one_eq_zero i
  have hstate := (run_move_react 0 event s).1
  dsimp only [s']
  rw [hstate, context_set_self]
  refine ⟨⟨hnumbered.distinct, hnumbered.given⟩, hhandles, hevent.truthful htruthful, ?_⟩
  intro id hid
  have hkept := (hevent (context 0 s.world).device).1
  dsimp only at hkept ⊢
  rw [hkept]
  exact hcurrent id hid

theorem agreed_after (hevents : ∀ i event, .react i event ∈ moves → Undisturbing (γ := γ) event) :
    let s := after moves (Session.new #v[opened driver])
    Agreed (history moves (Session.new #v[opened driver])) (context 0 s.world)
      s.programs.tenants := by
  refine holds_along (I := fun log x ↦ Agreed log (context 0 x.world) x.programs)
    Agreed.of_change (fun hm hs ↦ hs.react (hevents _ _ hm)) ?_
  intro _
  unfold holdings
  rw [context_new, tenants_programs_new]
  exact ⟨Numbered.new _, Multiset.zero_le _, truthful_opened driver, fun _ hid ↦ by cases hid⟩

/-- A program that is current in the context is in use in the driver, and so it is whenever a
uniform is uploaded that was set on the program. -/
theorem uniforms_reach_their_program
    (hevents : ∀ i event, .react i event ∈ moves → Undisturbing (γ := γ) event)
    (hfresh : Fresh (givenHandles (actsOf (history moves (Session.new #v[opened driver])))))
    {slot : String} {p : Program 1} :
    let s := after moves (Session.new #v[opened driver])
    let d := (context 0 s.world).device.driver
    s.programs[slot]? = some p →
      ((context 0 s.world).current = some p.id → Driver.currentProgram d = p.handle) ∧
      ∀ name value before location count data rest,
        issuedBy 0 (.set slot name value) s = before ++ .uniform location count data :: rest →
          Driver.currentProgram (replay before d) = p.handle := by
  intro s d live
  have hagrees := agreed_after driver hevents hfresh
  have hcurrent : (context 0 s.world).current = some p.id →
      Driver.currentProgram d = p.handle := by
    intro hid
    obtain ⟨q, hq, heq⟩ := Multiset.mem_map.1 (hagrees.current p.id hid)
    obtain ⟨hsame, hhandle⟩ := Prod.mk.inj heq
    have hp : p ∈ s.programs.tenants := Slots.mem_tenants.2 ⟨slot, live⟩
    have hqp : q = p := Multiset.inj_on_of_nodup_map hagrees.numbered.distinct q hq p hp hsame
    rw [← hqp]
    exact hhandle.symm
  refine ⟨hcurrent, ?_⟩
  intro name value before location count data rest hcalls
  rw [issuedBy_set live] at hcalls
  cases haccess : p.isAccessible (context 0 s.world) with
  | false =>
    rw [(Program.run_access_of_not_accessible name haccess).1 value] at hcalls
    exact absurd hcalls (by simp)
  | true =>
    simp only [Program.isAccessible, decide_eq_true_eq] at haccess
    have hspares : Spares (context 0 s.world).device _ _ :=
      spares_setUniform p name value (context 0 s.world)
    have hspared : ∀ call ∈ before, call.spares := by
      intro call hcall
      refine hspares.spared call ?_
      rw [hcalls]
      exact List.mem_append_left _ hcall
    rw [currentProgram_replay hspared]
    exact hcurrent haccess.2.1

/-- A driver with one active uniform, in which some other program is in use at first. -/
def countingDriver : Scripted :=
  .new { Script.blank with
    current := 7
    active := ["count".toUTF8.toList]
    locations := .ofList [("count", 5)] compare }

/-- Two programs take turns, and the other one is dropped while the record may not be touched. -/
def supersedingRun : List (Move 1 Event) :=
  [.here (.ofSources "first" "uniform int count;" ""), .here (.ofSources "second" "" ""),
    .here (.bind "first"), .occurs .invalidate, .here (.bind "second"), .here (.bind "first"),
    .occurs (.borrow true), .here (.drop "second")]

theorem uniforms_reach_their_program_supersedingRun :
    let s := after supersedingRun (Session.new #v[opened countingDriver])
    let calls : List Call :=
      [.getProgram 3 .activeUniforms 1, .getProgram 3 .activeUniformMaxLength 6,
        .getActiveUniform 3 0 6, .getUniformLocation 3 "count" 5]
    issuedBy 0 (.set "first" "count" (.data (.ints [9]))) s =
        calls ++ [.uniform 5 1 (.ints .one [9])] ∧
      Driver.currentProgram (replay calls (context 0 s.world).device.driver) = 3 := by
  intro s calls
  have hcalls : issuedBy 0 (.set "first" "count" (.data (.ints [9]))) s =
      calls ++ [.uniform 5 1 (.ints .one [9])] := by
    decide +kernel
  have hhandle : s.programs["first"]?.map Program.handle = some 3 := by
    decide +kernel
  have hfresh : Fresh (givenHandles (actsOf
      (history supersedingRun (Session.new #v[opened countingDriver])))) := by
    unfold Fresh
    decide +kernel
  have hevents : ∀ i event, .react i event ∈ supersedingRun →
      Undisturbing (γ := Scripted) event := by
    intro i event hmem
    apply undisturbing_of_forall
    rintro settings program rfl
    simp [supersedingRun, Move.here, Move.occurs] at hmem
  obtain ⟨p, live, hp⟩ := Option.map_eq_some_iff.1 hhandle
  refine ⟨hcalls, ?_⟩
  rw [← hp]
  exact (uniforms_reach_their_program countingDriver hevents hfresh live).2 _ _ _ _ _ _ [] hcalls

end Runs

end OpenGL.Backend

end Shading
