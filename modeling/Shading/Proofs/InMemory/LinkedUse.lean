import Shading.Proofs.InMemory.CurrentProgram
import Shading.Proofs.Session.Asking
import Shading.Proofs.Session.Promise
import Shading.Proofs.Session.Traffic

/-!
# Linked before use

A program that is put to use was linked just before or has been linked ever since, and its uniforms
are accessed only while it is current and linked. So on the device in memory the promise that
programs are linked before they are used or queried is kept, with one exception: the question for
the active uniforms of a program is put to the device in any state of the program.
-/

namespace Shading

open Shading.Uniform World

namespace InMemory

variable {subject : Option ProgramId} {c c' : Context InMemory}
variable {programs programs' : Multiset (Program 1)} {past acts : List Act}

/-- The last attempt to link a program that is linked succeeded. -/
def Backed (past : List Act) (programs : Multiset (Program 1)) : Prop :=
  ∀ p ∈ programs, p.linkState = .linked → lastLink p.handle past = some true

namespace Backed

variable {p : Program 1}

theorem cons (h : Backed past programs)
    (hp : p.linkState = .linked → lastLink p.handle past = some true) :
    Backed past (p ::ₘ programs) := by
  intro q hq
  rcases Multiset.mem_cons.1 hq with rfl | hq
  · exact hp
  · exact h q hq

theorem tail (h : Backed past (p ::ₘ programs)) : Backed past programs :=
  fun q hq ↦ h q (Multiset.mem_cons_of_mem hq)

theorem append (h : Backed past programs) (hsame : ∀ program,
    lastLink program (past ++ acts) = lastLink program past) : Backed (past ++ acts) programs := by
  intro q hq hlinked
  rw [hsame]
  exact h q hq hlinked

/-- An attempt to link one program concerns no other. -/
theorem linkRequests (h : Backed past programs) (hothers : ∀ q ∈ programs, q.handle ≠ p.handle)
    (linked : Bool) : Backed (past ++ (p.linkRequests linked).map .asked) programs := by
  intro q hq hlinked
  rw [lastLink_linkRequests, if_neg (hothers q hq).symm]
  exact h q hq hlinked

end Backed

/-- The device has in use what was put to use, and links are what they are told to be. -/
structure Promised (past : List Act) (c : Context InMemory) (programs : Multiset (Program 1)) :
    Prop where
  kept : Kept c programs
  used : programInUse past = c.device.current
  backed : Backed past programs

namespace Promised

theorem new (settings : Settings) : Promised [] (Context.new (InMemory.new settings)) 0 :=
  ⟨.new settings, rfl, fun _ hp ↦ absurd hp (Multiset.notMem_zero _)⟩

theorem of_steady (h : Promised past c programs) (hsteady : Steady acts)
    (hkept : Kept c' programs) (hcurrent : c'.device.current = c.device.current) :
    Promised (past ++ acts) c' programs := by
  refine ⟨hkept, ?_, h.backed.append fun program ↦ hsteady.lastLink_append program past⟩
  rw [hsteady.programInUse_append, h.used, hcurrent]

/-- A program that is accessible may be accessed. -/
theorem lawful_of_accessible {p : Program 1} (h : Promised past c (p ::ₘ programs))
    (haccess : p.isAccessible c = true)
    (hacts : ∀ request, .asked request ∈ acts → request.accesses p.handle = true) :
    LawfulAfter past acts := by
  obtain ⟨-, hcurrent, hlinked⟩ := of_decide_eq_true haccess
  refine .of_accesses (h.backed p (Multiset.mem_cons_self _ _) hlinked) ?_ hacts
  rw [h.used]
  rcases h.kept.agrees with ⟨hnone, -⟩ | ⟨q, hq, hother, hused, -⟩
  · rw [hnone] at hcurrent
    cases hcurrent
  have hid : q.id = p.id := Option.some.inj (hother.symm.trans hcurrent)
  rcases Multiset.mem_cons.1 hq with rfl | hq
  · exact hused
  · exact absurd hid (Slots.ne_of_nodup_map_cons h.kept.numbered.distinct hq)

/-- A program is put to use if it is linked, or has just been linked. -/
theorem of_binds {p q q' : Program 1} {done : Except ProgramError Unit} {asked : List Request}
    (h : Promised past c (p ::ₘ programs)) (hkept : Kept c' (q' ::ₘ programs))
    (same : q = p ∨ ∃ stage, q = p.grow stage)
    (binds : Program.Binds (κ := Request) q c q' done c' asked) :
    Promised (past ++ asked.map .asked) c' (q' ::ₘ programs) ∧
      LawfulAfter past (asked.map .asked) := by
  have hhandle : q.handle = p.handle := by
    rcases same with rfl | ⟨stage, rfl⟩ <;> rfl
  have hothers : ∀ other ∈ programs, other.handle ≠ q.handle := by
    intro other hother
    rw [hhandle]
    exact Slots.ne_of_nodup_map_cons h.kept.handled.distinct hother
  have hrest := fun linked ↦ h.backed.tail.linkRequests hothers linked
  have hused : ∀ acts program, programInUse (acts ++ [.asked (.useProgram program)]) = program := by
    intro acts program
    rw [programInUse_append]
    rfl
  cases binds with
  | again linked =>
    have hlast : lastLink q.handle past = some true := by
      rcases same with rfl | ⟨stage, rfl⟩
      · exact h.backed q (Multiset.mem_cons_self _ _) linked
      · cases linked
    refine ⟨⟨hkept, hused past _, ?_⟩, ?_⟩
    · apply Backed.append _ fun program ↦ lastLink_useProgram past program _
      exact h.backed.tail.cons fun _ ↦ hlast
    · exact .of_linked hlast fun _ ↦ rfl
  | linked unlinked accepted parsed =>
    have hlast : lastLink q.handle (past ++ (q.linkRequests true).map .asked) = some true := by
      rw [lastLink_linkRequests, if_pos rfl]
    rw [List.map_append, ← List.append_assoc]
    refine ⟨⟨hkept, hused _ _, ?_⟩, (lawfulAfter_linkRequests q true past).append ?_⟩
    · apply Backed.append _ fun program ↦ lastLink_useProgram _ program _
      exact (hrest true).cons fun _ ↦ hlast
    · exact .of_linked hlast fun _ ↦ rfl
  | dropped unlinked settled current =>
    rw [List.map_append, ← List.append_assoc]
    refine ⟨⟨hkept, hused _ _, ?_⟩, (lawfulAfter_linkRequests q _ past).append ?_⟩
    · apply Backed.append _ fun program ↦ lastLink_useProgram _ program _
      exact (hrest _).cons nofun
    · exact .of_needs_none fun _ ↦ rfl
  | refused unlinked settled other =>
    refine ⟨⟨hkept, ?_, (hrest _).cons nofun⟩, lawfulAfter_linkRequests q _ past⟩
    rw [programInUse_linkRequests, h.used]
    exact (current_submit q c.device).symm

theorem of_make {q : Program 1} {handle : Nat} (h : Promised past c programs)
    (hkept : Kept c' (q ::ₘ programs)) (p : Program 1) (answer : Except ProgramError Unit)
    (hq : q = (p.settle answer).1) (hcurrent : c'.device.current = c.device.current) :
    let acts := (.newProgram handle :: p.linkRequests answer.isOk).map .asked
    Promised (past ++ acts) c' (q ::ₘ programs) ∧ LawfulAfter past acts := by
  intro acts
  have hacts : acts =
      [.asked (.newProgram handle)] ++ (p.linkRequests answer.isOk).map .asked := rfl
  have hsteady : Steady [.asked (.newProgram handle)] := .asked rfl
  have hhandle : q.handle = p.handle := by rw [hq, Program.settle_handle]
  have hothers : ∀ other ∈ programs, other.handle ≠ p.handle := by
    intro other hother
    rw [← hhandle]
    exact Slots.ne_of_nodup_map_cons hkept.handled.distinct hother
  rw [hacts, ← List.append_assoc]
  refine ⟨⟨hkept, ?_, ?_⟩, ?_⟩
  · rw [programInUse_linkRequests, hsteady.programInUse_append, h.used, hcurrent]
  · have hbefore := h.backed.append fun program ↦ hsteady.lastLink_append program past
    refine (hbefore.linkRequests hothers _).cons fun hlinked ↦ ?_
    rw [lastLink_linkRequests, if_pos hhandle.symm]
    rcases p.settle_cases answer with ⟨uniforms, rfl, -, -⟩ | ⟨e, -, hsettle⟩
    · rfl
    · rw [hq, hsettle] at hlinked
      cases hlinked
  · exact .append (.of_needs_none fun _ ↦ rfl) (lawfulAfter_linkRequests p _ _)

/-- A request that has to do with no program in use. -/
theorem of_asked {request : Request} (h : Promised past c programs)
    (hsteady : request.steady = true)
    (hneeds : ∀ current, (Act.asked request).needs current = none)
    (hkept : Kept c' programs) (hcurrent : c'.device.current = c.device.current) :
    Promised (past ++ [.asked request]) c' programs ∧ LawfulAfter past [.asked request] :=
  ⟨h.of_steady (.asked hsteady) hkept hcurrent, .of_needs_none hneeds⟩

/-- An access asks for nothing unless the program is accessible. -/
theorem of_access {α : Type} {x : ContextAction InMemory Request α} {p : Program 1}
    (h : Promised past c (p ::ₘ programs))
    (hasks : Asks (fun request ↦ request.accesses p.handle = true) x)
    (hkept : Kept (x.run c).state (p ::ₘ programs))
    (hcurrent : (x.run c).state.device.current = c.device.current)
    (hclosed : p.isAccessible c = false → (x.run c).record = []) :
    Promised (past ++ asked (x.run c).record) (x.run c).state (p ::ₘ programs) ∧
      LawfulAfter past (asked (x.run c).record) := by
  have haccesses : ∀ request, .asked request ∈ asked (x.run c).record →
      request.accesses p.handle = true := by
    intro request hrequest
    obtain ⟨_, hmem, ⟨⟩⟩ := List.mem_map.1 hrequest
    exact hasks.of_mem_requests hmem
  have hsteady : Steady (asked (x.run c).record) :=
    fun request hrequest ↦ Request.steady_of_accesses (haccesses request hrequest)
  refine ⟨h.of_steady hsteady hkept hcurrent, ?_⟩
  cases haccess : p.isAccessible c with
  | true => exact h.lawful_of_accessible haccess haccesses
  | false =>
    rw [hclosed haccess]
    exact .nil

theorem of_written (h : Promised past c programs) (name : String) (data : Data)
    (answer : Except UniformError Unit) :
    Promised (past ++ written name data answer) c programs ∧
      LawfulAfter past (written name data answer) := by
  cases answer with
  | error e =>
    rw [written, List.append_nil]
    exact ⟨h, .nil⟩
  | ok done =>
    refine ⟨h.of_steady ?_ h.kept rfl, .of_needs_none fun _ ↦ rfl⟩
    intro request hrequest
    cases List.mem_singleton.1 hrequest

section Access

variable {p : Program 1} (h : Promised past c (p ::ₘ programs)) (name : String)

include h

theorem of_set (value : HostValue) :
    let access := (p.setUniform name value).run.run c
    let acts := asked access.record ++ written name value.toData access.value
    Kept access.state (p ::ₘ programs) →
      Promised (past ++ acts) access.state (p ::ₘ programs) ∧ LawfulAfter past acts := by
  intro access acts hkept
  have hasks : Asks (fun request ↦ request.accesses p.handle = true)
      (p.setUniform name value : AccessAction InMemory Request _).run :=
    Program.follows_setUniform name (composes_only _) (asks_ask fun _ ↦ decide_eq_true rfl)
      (fun _ ↦ asks_ask fun _ ↦ decide_eq_true rfl) (fun _ _ _ ↦ asks_ask fun _ ↦ rfl) value
  have hcurrent : access.state.device.current = c.device.current := by
    rw [state_setUniform, device_current_afterWrite]
  obtain ⟨haccessed, hlawful⟩ := h.of_access hasks hkept hcurrent fun hclosed ↦ by
    rw [(Program.run_access_of_not_accessible name hclosed).1 value]
  obtain ⟨hwritten, hothers⟩ := haccessed.of_written name value.toData access.value
  rw [← List.append_assoc]
  exact ⟨hwritten, hlawful.append hothers⟩

theorem of_get :
    let access := (p.getUniform name).run.run c
    Kept access.state (p ::ₘ programs) →
      Promised (past ++ asked access.record) access.state (p ::ₘ programs) ∧
        LawfulAfter past (asked access.record) := by
  intro access hkept
  have hasks : Asks (fun request ↦ request.accesses p.handle = true)
      (p.getUniform name : AccessAction InMemory Request _).run :=
    Program.follows_getUniform name (composes_only _) (asks_ask fun _ ↦ decide_eq_true rfl)
      (fun _ ↦ asks_ask fun _ ↦ decide_eq_true rfl)
      (fun _ _ ↦ asks_ask fun _ ↦ decide_eq_true rfl)
      fun _ _ ↦ asks_ask fun _ ↦ decide_eq_true rfl
  have hcurrent : access.state.device.current = c.device.current := by
    rw [state_getUniform]
  refine h.of_access hasks hkept hcurrent fun hclosed ↦ ?_
  rw [(Program.run_access_of_not_accessible name hclosed).2]

end Access

/-- An effect leaves the promise kept, unless it is the question for active uniforms. -/
theorem of_effect (h : Promised past c programs)
    (heffect : Effect (ε := List Settings.Setting) subject c programs acts c' programs') :
    Promised (past ++ acts) c' programs' ∧
      (LawfulAfter past acts ∨ ∃ program, .asked (.activeUniforms program) ∈ acts) := by
  have hkept := h.kept.of_effect heffect
  cases heffect with
  | nothing =>
    rw [List.append_nil]
    exact ⟨h, .inl .nil⟩
  | newStage type sources =>
    have hcurrent : ((Context.newStage type sources).run c).state.device.current =
        c.device.current := by
      rw [Context.newStage, Context.run_ask]
      rcases state_newStage type sources c.device with h | h <;> rw [h]
    rw [Context.newStage, asked_ask]
    exact (h.of_asked rfl (fun _ ↦ rfl) hkept hcurrent).imp_right .inl
  | destroyStage stage =>
    rw [Context.destroyStage, asked_ask]
    exact (h.of_asked rfl (fun _ ↦ rfl) hkept rfl).imp_right .inl
  | @make programs p made linked stages nonempty about created fresh submitted =>
    rw [run_newProgram] at created
    subst created submitted
    exact (h.of_make hkept p _ rfl (current_submit p _)).imp_right .inl
  | @grow programs p stage unmarked about =>
    rw [List.append_nil]
    refine ⟨⟨hkept, h.used, h.backed.tail.cons fun hlinked ↦ ?_⟩, .inl .nil⟩
    cases hlinked
  | bind same binds about => exact (h.of_binds hkept same binds).imp_right .inl
  | @unbind programs p about =>
    refine ⟨⟨hkept, ?_, ?_⟩, .inl (.of_needs_none fun _ ↦ rfl)⟩
    · rw [programInUse_append]
      rfl
    · apply Backed.append _ fun program ↦ lastLink_useProgram past program _
      exact h.backed.tail.cons (h.backed p (Multiset.mem_cons_self _ _))
  | @set programs p name value about => exact (h.of_set name value hkept).imp_right .inl
  | @get programs p name about => exact (h.of_get name hkept).imp_right .inl
  | @isLinked programs p about =>
    rw [Context.isLinked, asked_ask]
    exact (h.of_asked rfl (fun _ ↦ rfl) hkept rfl).imp_right .inl
  | @activeUniforms programs p about =>
    rw [Context.activeUniforms, asked_ask]
    exact ⟨h.of_steady (.asked rfl) hkept rfl, .inr ⟨p.handle, List.mem_singleton_self _⟩⟩
  | @retire programs p =>
    refine ⟨⟨hkept, ?_, ?_⟩, .inl (.of_needs_none fun _ ↦ rfl)⟩
    · rw [programInUse_append, h.used, state_destroyProgram]
      rfl
    · refine h.backed.tail.append fun program ↦ ?_
      rw [lastLink_append]
      rfl
  | react event =>
    rw [List.append_nil]
    exact ⟨⟨hkept, h.used, h.backed⟩, .inl .nil⟩

end Promised

/-! ## Runs -/

variable {x y : Holdings InMemory 1} {deeds : List (Deed 1 Request)} {i : Fin 1}

theorem promised_after (settings : Settings) (moves : List (Move 1 (List Settings.Setting))) :
    let start := Session.new #v[new settings]
    Promised (actsOf (Session.history moves start))
      (context 0 (Session.after moves start).world)
      (Session.after moves start).programs.tenants := by
  intro start
  refine Session.holds_after
    (I := fun log x ↦ Promised (actsOf log) (context 0 x.world) x.programs) ?_ start ?_ moves
  · intro log x i subject deeds y hx h
    rw [actsOf_append, actsOf_map]
    exact (hx.of_effect (.of_change h)).1
  · rw [Session.holdings, Session.context_new, Session.tenants_programs_new]
    exact .new settings

/-- Whoever does not ask for active uniforms keeps the promise. -/
theorem Promised.lawful_of_changes
    (h : Changes (ε := List Settings.Setting) i subject x deeds y)
    (hx : Promised past (context 0 x.world) x.programs)
    (hasks : ∀ program, .asked (.activeUniforms program) ∉ deeds.filterMap Deed.act) :
    LawfulAfter past (deeds.filterMap Deed.act) := by
  induction h generalizing past with
  | refl x => exact .nil
  | step hfirst others ih =>
    rw [List.filterMap_append] at hasks ⊢
    obtain ⟨hnext, hlawful⟩ := hx.of_effect (.of_change hfirst)
    have hnow : LawfulAfter past _ := hlawful.resolve_right fun ⟨program, hmem⟩ ↦
      hasks program (List.mem_append_left _ hmem)
    exact hnow.append (ih hnext fun program hmem ↦ hasks program (List.mem_append_right _ hmem))

/-- The acts of an operation in the only context. -/
def actsOfOperation (operation : Operation) (s : Session InMemory 1) : List Act :=
  actsOf (Session.deeds (.here operation : Move 1 (List Settings.Setting)) s)

section Access

variable {s : Session InMemory 1} {slot : String} {p : Program 1}

theorem actsOf_activeUniforms (live : s.programs[slot]? = some p) :
    actsOfOperation (.activeUniforms slot) s = [.asked (.activeUniforms p.handle)] := by
  simp only [actsOfOperation, Session.deeds, actsOf_map, Move.here, Session.move, Session.perform,
    Session.run_withProgram, live, Session.within, Session.run_onWorld, run_within,
    Action.run_bind, Action.run_pure, Session.writes, List.append_nil, filterMap_act_recorded,
    Context.activeUniforms, asked_ask]

theorem actsOf_set (live : s.programs[slot]? = some p) (name : String) (value : HostValue) :
    let access := (p.setUniform name value).run.run (context 0 s.world)
    actsOfOperation (.set slot name value) s =
      asked access.record ++ written name value.toData access.value := by
  intro access
  rw [actsOfOperation, Session.deeds, actsOf_map, Move.here, Session.move, Session.run_set live,
    List.filterMap_append, filterMap_act_recorded]
  congr 1
  rcases access.value with e | done <;> rfl

theorem actsOf_get (live : s.programs[slot]? = some p) (name : String) :
    actsOfOperation (.get slot name) s =
      asked ((p.getUniform name).run.run (context 0 s.world)).record := by
  rw [actsOfOperation, Session.deeds, actsOf_map, Move.here, Session.move, Session.run_get live,
    List.filterMap_append, filterMap_act_recorded]
  exact List.append_nil _

/-- An operation on the program in an empty slot does nothing. -/
theorem actsOf_of_vacant {operation : Operation} (target : operation.target = some slot)
    (vacant : s.programs[slot]? = none) : actsOfOperation operation s = [] := by
  have hrun : (Session.perform 0 operation : SessionAction InMemory Request 1 _).run s =
      ⟨.error .noSuchProgram, s, []⟩ := by
    cases operation <;> cases target <;>
      simp only [Session.perform, Session.run_withProgram, vacant]
  rw [actsOfOperation, Session.deeds, actsOf_map, Move.here, Session.move, hrun]
  unfold Session.writes
  split
  · rename_i heq
    cases heq
  · rfl

end Access

section Moves

variable {s : Session InMemory 1} (h : Promised past (context 0 s.world) s.programs.tenants)

include h

theorem Promised.lawful_of_perform {operation : Operation}
    (hasks : ∀ program, operation.mayAsk (.activeUniforms program) = false) :
    LawfulAfter past (actsOfOperation operation s) := by
  have hchanges := Session.changes_perform (ε := List Settings.Setting) (i := 0) operation s rfl
  have hacts : actsOfOperation operation s = _ := actsOf_map _ _
  rw [hacts]
  refine Promised.lawful_of_changes hchanges h fun program hmem ↦ ?_
  have hmay : operation.mayAsk (.activeUniforms program) = true := by
    apply Session.mayAsk_of_asked (ε := List Settings.Setting) (i := 0) (s := s)
    rwa [← hacts] at hmem
  rw [hasks program] at hmay
  cases hmay

theorem Promised.lawful_of_set (slot name : String) (value : HostValue) :
    LawfulAfter past (actsOfOperation (.set slot name value) s) := by
  cases live : s.programs[slot]? with
  | none =>
    rw [actsOf_of_vacant rfl live]
    exact .nil
  | some p =>
    rw [Slots.tenants_of_getElem? live] at h
    rw [actsOf_set live]
    exact (h.of_set name value (h.kept.of_effect (.set name value rfl))).2

theorem Promised.lawful_of_get (slot name : String) :
    LawfulAfter past (actsOfOperation (.get slot name) s) := by
  cases live : s.programs[slot]? with
  | none =>
    rw [actsOf_of_vacant rfl live]
    exact .nil
  | some p =>
    rw [Slots.tenants_of_getElem? live] at h
    rw [actsOf_get live]
    exact (h.of_get name (h.kept.of_effect (.get name rfl))).2

/-- Every move keeps the promise, unless it is the question for active uniforms. -/
theorem Promised.lawful_of_move (m : Move 1 (List Settings.Setting))
    (hother : ∀ slot, m ≠ .here (.activeUniforms slot)) :
    LawfulAfter past (actsOf (Session.deeds m s)) := by
  cases m with
  | react i event =>
    rw [actsOf_deeds_react]
    exact .nil
  | perform i operation =>
    obtain rfl : i = 0 := Fin.fin_one_eq_zero i
    cases operation with
    | activeUniforms slot => exact absurd rfl (hother slot)
    | set slot name value => exact h.lawful_of_set slot name value
    | get slot name => exact h.lawful_of_get slot name
    | newStage | stageInfo | dropStage | collect | newProgram | ofSources | append | bind | unbind
    | destroy | drop | isCurrent | isLinked | uniforms | descriptor | stageTypes | listing =>
      exact h.lawful_of_perform fun _ ↦ rfl

end Moves

/-- On every run, the device is asked to use or to query a program only while the last attempt to
link that program succeeded, with one exception: the operation that asks for the active uniforms of
a program asks the device even if the program is not linked. -/
theorem linked_before_use (settings : Settings) (moves : List (Move 1 (List Settings.Setting)))
    (m : Move 1 (List Settings.Setting)) :
    let start := Session.new #v[new settings]
    let s := Session.after moves start
    let past := actsOf (Session.history moves start)
    (∀ before act later, actsOf (Session.deeds m s) = before ++ act :: later →
      Lawful (past ++ before) act ∨
        ∃ (slot : String) (p : Program 1), m = .here (.activeUniforms slot) ∧
          s.programs[slot]? = some p ∧ p.linkState ≠ .linked ∧
            act = .asked (.activeUniforms p.handle)) ∧
    ∀ (slot : String) (p : Program 1), s.programs[slot]? = some p →
      let asked := actsOfOperation (.activeUniforms slot) s
      asked = [.asked (.activeUniforms p.handle)] ∧
        (LawfulAfter past asked ↔ lastLink p.handle past = some true) := by
  intro start s past
  have hpromised := promised_after settings moves
  change Promised past (context 0 s.world) s.programs.tenants at hpromised
  refine ⟨?_, ?_⟩
  · intro before act later hsplit
    by_cases hother : ∀ slot, m ≠ .here (.activeUniforms slot)
    · exact .inl (hpromised.lawful_of_move m hother before act later hsplit)
    obtain ⟨slot, rfl⟩ : ∃ slot, m = .here (.activeUniforms slot) := by simpa using hother
    change actsOfOperation (.activeUniforms slot) s = _ at hsplit
    cases live : s.programs[slot]? with
    | none =>
      rw [actsOf_of_vacant rfl live] at hsplit
      simp at hsplit
    | some p =>
      rw [actsOf_activeUniforms live] at hsplit
      by_cases hlinked : p.linkState = .linked
      · have hlast := hpromised.backed p (Slots.mem_tenants.2 ⟨slot, live⟩) hlinked
        exact .inl (LawfulAfter.of_linked hlast (fun _ ↦ rfl) before act later hsplit)
      · refine .inr ⟨slot, p, rfl, live, hlinked, ?_⟩
        have hmem : act ∈ [Act.asked (.activeUniforms p.handle)] := by simp [hsplit]
        exact List.mem_singleton.1 hmem
  · intro slot p live asked
    have hasked : asked = _ := actsOf_activeUniforms live
    refine ⟨hasked, ?_⟩
    rw [hasked]
    constructor
    · intro hlawful
      have hnow := hlawful [] _ [] rfl p.handle rfl
      rwa [List.append_nil] at hnow
    · exact fun hlast ↦ .of_linked hlast fun _ ↦ rfl

/-- A run in which a program receives a stage that keeps it from being linked. -/
def refusedRun : List (Move 1 (List Settings.Setting)) :=
  [.here (.ofSources "program" "uniform float a;" ""),
    .here (.newStage "stage" .fragment ["LINK_ERROR"]),
    .here (.append "program" "stage"),
    .here (.bind "program")]

theorem handle_refusedRun :
    (Session.after refusedRun (.new #v[new .blank])).programs["program"]?.map Program.handle =
      some 3 := by
  decide +kernel

theorem lastLink_refusedRun :
    lastLink 3 (actsOf (Session.history refusedRun (.new #v[new .blank]))) = some false := by
  decide +kernel

theorem linked_before_use_refusedRun :
    let start := Session.new #v[new .blank]
    let s := Session.after refusedRun start
    ∃ p : Program 1, s.programs["program"]? = some p ∧
      ¬LawfulAfter (actsOf (Session.history refusedRun start))
        (actsOfOperation (.activeUniforms "program") s) := by
  intro start s
  obtain ⟨p, live, hhandle⟩ := Option.map_eq_some_iff.1 handle_refusedRun
  refine ⟨p, live, fun hlawful ↦ ?_⟩
  have hasked := (linked_before_use .blank refusedRun
    (.here (.activeUniforms "program"))).2 "program" p live
  have hlast := hasked.2.1 hlawful
  rw [hhandle, lastLink_refusedRun] at hlast
  cases hlast

/-- A program may be queried after an attempt to link it failed. -/
theorem not_forall_linked_before_use :
    ¬∀ (settings : Settings) (moves : List (Move 1 (List Settings.Setting)))
      (m : Move 1 (List Settings.Setting)),
      LawfulAfter (actsOf (Session.history moves (Session.new #v[new settings])))
        (actsOf (Session.deeds m (Session.after moves (.new #v[new settings])))) := by
  intro hpromise
  obtain ⟨p, live, hhandle⟩ := Option.map_eq_some_iff.1 handle_refusedRun
  have hlawful := hpromise .blank refusedRun (.here (.activeUniforms "program"))
  change LawfulAfter _ (actsOfOperation (.activeUniforms "program") _) at hlawful
  rw [actsOf_activeUniforms live] at hlawful
  have hlast := hlawful [] _ [] rfl p.handle rfl
  rw [List.append_nil, hhandle, lastLink_refusedRun] at hlast
  cases hlast

end InMemory

end Shading
