import Shading.Proofs.Session.Asking
import Shading.Proofs.Session.FilledSlots
import Shading.Proofs.Session.LinkedPrograms

/-!
# Attaching stages

A program is linked by attaching its new stages in order and then asking the device to link. No
move makes more than one such attempt, and a program counts the stages that it attached whatever
came of the attempt. So its stages are attached in order, each once, and none is missing when the
device is asked to link, however many attempts fail and however many stages arrive between them.
-/

namespace Shading

open Shading.Uniform World

/-- The requests that attach some stages one after the other. -/
def attachments {n : Nat} (handle : Nat) (stages : List (Stage n)) : List Request :=
  stages.map fun stage ↦ .attachStage handle stage.handle

/-- While `now` is asked about a program after `past`, the stages that were attached are at any
moment the first ones, in order and each once, and all of them when the device is asked to link. -/
def AttachesInOrder {n : Nat} (handle : Nat) (stages : List (Stage n))
    (past now : List Request) : Prop :=
  ∀ done rest, now = done ++ rest →
    (past ++ done).filter Request.attaches <+: attachments handle stages ∧
      ∀ program linked later, rest = .linkProgram program linked :: later →
        program = handle ∧ (past ++ done).filter Request.attaches = attachments handle stages

namespace Accounted

variable {n : Nat} {past asked : List Request} {p : Program n}

/-- What was attached is the beginning of the stages. -/
theorem isPrefix_attaches (h : Accounted asked p) :
    asked.filter Request.attaches <+: attachments p.handle p.stages := by
  rw [h.attached]
  exact (List.take_prefix _ _).map _

/-- Nothing is out of order where nothing was asked. -/
theorem attachesInOrder_nil (h : Accounted past p) :
    AttachesInOrder p.handle p.stages past [] := by
  intro done rest hnow
  obtain ⟨rfl, rfl⟩ := List.append_eq_nil_iff.1 hnow.symm
  rw [List.append_nil]
  exact ⟨h.isPrefix_attaches, nofun⟩

/-- An attempt to link asks for the link last, when every stage was attached. -/
theorem attachesInOrder_linkRequests (h : Accounted past p) (linked : Bool) :
    AttachesInOrder p.handle p.stages past (p.linkRequests linked) := by
  have hwhole := h.attached_linkRequests linked
  intro done rest hnow
  refine ⟨?_, ?_⟩
  · rw [hnow, ← List.append_assoc, List.filter_append] at hwhole
    exact ⟨_, hwhole⟩
  rintro program accepted later rfl
  rcases List.eq_nil_or_concat later with rfl | ⟨others, other, rfl⟩
  · obtain ⟨hdone, hlink⟩ := List.append_inj' hnow rfl
    obtain ⟨rfl, rfl⟩ := Request.linkProgram.inj (List.cons.inj hlink).1
    have hlast : [Request.linkProgram p.handle linked].filter Request.attaches = [] := rfl
    rw [hnow, ← List.append_assoc, List.filter_append, hlast, List.append_nil] at hwhole
    exact ⟨rfl, hwhole⟩
  · -- only the last request is one to link
    rw [List.concat_eq_append, ← List.cons_append, ← List.append_assoc] at hnow
    obtain ⟨hattached, -⟩ := List.append_inj' hnow rfl
    have hmem : Request.linkProgram program accepted ∈ attachments p.handle
        (p.stages.drop p.attached) := by
      rw [attachments, hattached]
      simp
    obtain ⟨stage, -, hattach⟩ := List.mem_map.1 hmem
    cases hattach

end Accounted

variable {δ κ ε α : Type} [Device δ κ] {n : Nat}

/-- What becomes of a program that there is at most one attempt to link. -/
structure Program.Attempts (p p' : Program n) (asked : List Request) : Prop where
  id : p'.id = p.id
  handle : p'.handle = p.handle
  stages : p'.stages = p.stages
  once : asked = [] ∨ ∃ linked, asked = p.linkRequests linked

namespace Program

/-- An attempt attaches what was not attached yet. -/
theorem attempts_settle (p : Program n) (answer : Except ProgramError Unit) (bound linked : Bool) :
    p.Attempts { (p.settle answer).1 with bound } (p.linkRequests linked) :=
  ⟨p.settle_id answer, p.settle_handle answer, p.settle_stages answer, .inr ⟨linked, rfl⟩⟩

/-- Binding is at most one attempt. -/
theorem Binds.attempts {p p' : Program n} {c c' : Context δ} {done : Except ProgramError Unit}
    {asked : List Request} (h : Binds (κ := κ) p c p' done c' asked) :
    p.Attempts p' (asked.filter Request.links) := by
  rcases h.program_cases with ⟨-, rfl, hnone⟩ | ⟨answer, bound, -, rfl, hlink⟩
  · exact ⟨rfl, rfl, rfl, .inl hnone⟩
  · rw [hlink]
    exact p.attempts_settle answer bound _

/-- So is appending, with the new stage as the last. -/
theorem attempts_append (p : Program n) (stage : Stage n) (c : Context δ) :
    (p.grow stage).Attempts ((p.append stage : ContextAction δ κ _).run c).value.1
      ((requests ((p.append stage : ContextAction δ κ _).run c).record).filter Request.links) := by
  cases hbound : p.bound with
  | true =>
    obtain ⟨hvalue, -, hrequests⟩ := run_append_of_bound (κ := κ) hbound stage c
    rw [hvalue, hrequests]
    exact ((p.grow stage).binds_bind c).attempts
  | false =>
    obtain ⟨hvalue, -, hrequests⟩ := run_append_of_not_bound (κ := κ) hbound stage c
    rw [hvalue, hrequests]
    exact ⟨rfl, rfl, rfl, .inl rfl⟩

theorem attempts_assemble (i : Fin n) (stages : List (Stage n)) (c : Context δ) :
    let made := (Device.newProgram : Action κ δ Nat).run c.device
    (fresh ⟨c.nextId⟩ made.value i stages).Attempts
      ((assemble i stages : ContextAction δ κ _).run c).value.1
      ((requests ((assemble i stages : ContextAction δ κ _).run c).record).filter
        Request.links) := by
  obtain ⟨hvalue, -, hrequests⟩ := run_assemble (κ := κ) i stages c
  rw [hvalue, hrequests, List.filter_cons_of_neg Bool.false_ne_true, filter_linkRequests]
  exact ⟨settle_id _ _, settle_handle _ _, settle_stages _ _, .inr ⟨_, rfl⟩⟩

end Program

theorem linkingRequests_eq_nil {acts : List Act}
    (h : ∀ request, .asked request ∈ acts → request.links = false) :
    linkingRequests acts = [] := by
  rw [linkingRequests, List.filterMap_eq_nil_iff]
  intro act hact
  cases act with
  | asked request =>
    simp [h request hact]
  | wrote name data => rfl

/-- The requests to attach a stage or to link in a record of a session. -/
def linkingIn (record : List (Entry (Fin n × Traffic κ))) : List Request :=
  linkingRequests ((record.map Deed.recorded).filterMap Deed.act)

section LinkingIn

@[simp] theorem linkingIn_nil : linkingIn ([] : List (Entry (Fin n × Traffic κ))) = [] := rfl

@[simp] theorem linkingIn_append (first second : List (Entry (Fin n × Traffic κ))) :
    linkingIn (first ++ second) = linkingIn first ++ linkingIn second := by
  rw [linkingIn, List.map_append, List.filterMap_append, linkingRequests_append]
  rfl

theorem linkingIn_map (i : Fin n) (record : List (Entry (Traffic κ))) :
    linkingIn (record.map (Entry.map (i, ·))) = (requests record).filter Request.links := by
  rw [linkingIn, filterMap_act_recorded, asked, linkingRequests_map_asked]

/-- Actions that do not link have nothing of the kind on record. -/
theorem linkingIn_eq_nil {σ : Type} {x : Action (Fin n × Traffic κ) σ α}
    (hx : AsksIn (fun request ↦ request.links = false) x) (s : σ) :
    linkingIn (x.run s).record = [] := by
  apply linkingRequests_eq_nil
  intro request hrequest
  obtain ⟨i, hcall⟩ := mem_callsOf_of_asked hrequest
  exact hx s _ hcall

end LinkingIn

/-! ## Making a program -/

section Making

variable (i : Fin n)

/-- A program that is made is linked once, and released if that fails. -/
theorem attempts_new (stages : List (Stage n)) (w : World δ n) :
    ∃ handle q, (Program.fresh ⟨(context i w).nextId⟩ handle i stages).Attempts q
        (linkingIn ((Program.new i stages : WorldAction δ κ n _).run w).record) ∧
      ∀ p, ((Program.new i stages : WorldAction δ κ n _).run w).value = .ok p → p = q := by
  cases stages with
  | nil => exact ⟨0, _, ⟨rfl, rfl, rfl, .inl rfl⟩, nofun⟩
  | cons stage stages =>
    have hattempts := Program.attempts_assemble (κ := κ) i (stage :: stages) (context i w)
    rw [← linkingIn_map i] at hattempts
    simp only [Program.new, List.isEmpty_cons, Bool.false_eq_true, if_false, Action.run_bind,
      run_within, linkingIn_append]
    generalize (Program.assemble i (stage :: stages) : ContextAction δ κ _).run (context i w) =
      attempt at hattempts ⊢
    obtain ⟨⟨p, linked⟩, c', record⟩ := attempt
    refine ⟨((Device.newProgram : Action κ δ Nat).run (context i w).device).value, p, ?_, ?_⟩
    · cases linked with
      | ok done =>
        simp only [Action.run_pure, linkingIn_nil, List.append_nil]
        exact hattempts
      | error e =>
        have hrelease : AsksIn (fun request ↦ request.links = false)
            (p.release : WorldAction δ κ n Unit) :=
          asksIn_release (fun _ ↦ rfl) (fun _ ↦ rfl) p
        simp only [Action.run_bind, Action.run_pure, linkingIn_eq_nil hrelease, List.append_nil]
        exact hattempts
    · intro q hq
      cases linked with
      | ok done => exact (Except.ok.inj hq).symm
      | error e => cases hq

/-- The stages that are compiled for a program, if both sources compile. -/
def compiledStages (vertex fragment : String) (w : World δ n) : Option (List (Stage n)) :=
  let first := (Stage.new i .vertex [vertex] : WorldAction δ κ n _).run w
  let second := (Stage.new i .fragment [fragment] : WorldAction δ κ n _).run first.state
  match first.value, second.value with
  | .ok first, .ok second => some [first, second]
  | _, _ => none

theorem linkingIn_stageNew (type : StageType) (sources : List String) (w : World δ n) :
    linkingIn ((Stage.new i type sources : WorldAction δ κ n _).run w).record = [] :=
  linkingIn_eq_nil (asksIn_stageNew i type sources fun _ ↦ rfl) w

/-- A program made from sources is attempted once, or not at all if a stage fails. -/
theorem attempts_ofSources (vertex fragment : String) (w : World δ n) :
    linkingIn ((Program.ofSources i vertex fragment : WorldAction δ κ n _).run w).record = [] ∨
    ∃ stages handle q, compiledStages i vertex fragment w = some stages ∧
      (Program.fresh ⟨(context i w).nextId⟩ handle i stages).Attempts q
        (linkingIn ((Program.ofSources i vertex fragment : WorldAction δ κ n _).run w).record) ∧
      ∀ p, ((Program.ofSources i vertex fragment : WorldAction δ κ n _).run w).value = .ok p →
        p = q := by
  have hfirst := linkingIn_stageNew i .vertex [vertex] w
  have hsame := nextId_stageNew (i := i) .vertex [vertex] w
  simp only [Program.ofSources, compiledStages, Action.run_bind, linkingIn_append, hfirst,
    List.nil_append]
  generalize (Stage.new i .vertex [vertex] : WorldAction δ κ n _).run w = one at hsame ⊢
  obtain ⟨first, w₁, record₁⟩ := one
  cases first with
  | error e => exact .inl rfl
  | ok first =>
    have hsecond := linkingIn_stageNew i .fragment [fragment] w₁
    have hnext := nextId_stageNew (i := i) .fragment [fragment] w₁
    simp only [Action.run_bind, linkingIn_append, hsecond, List.nil_append]
    generalize (Stage.new i .fragment [fragment] : WorldAction δ κ n _).run w₁ = two at hnext ⊢
    obtain ⟨second, w₂, record₂⟩ := two
    cases second with
    | error e =>
      have hrelease : AsksIn (fun request ↦ request.links = false)
          (first.release : WorldAction δ κ n Unit) :=
        asksIn_stageRelease (fun _ ↦ rfl) first
      left
      simp only [Action.run_bind, Action.run_pure, linkingIn_eq_nil hrelease, List.append_nil]
    | ok second =>
      obtain ⟨handle, q, hattempts, hvalue⟩ := attempts_new i [first, second] w₂
      rw [hnext, hsame] at hattempts
      exact .inr ⟨_, handle, q, rfl, hattempts, hvalue⟩

end Making

namespace Session

/-- The stages that a move hands to a new program. -/
def given (s : Session δ n) : Move n ε → Option (List (Stage n))
  | .perform _ (.newProgram _ names) => (s.stages.takeAll names).map Prod.fst
  | .perform i (.ofSources _ vertex fragment) => compiledStages i vertex fragment s.world
  | _ => none

/-- How a move comes to link, if it does: it links the program in a slot once more, maybe after
that program grew, or a new one, which is kept in a slot if the attempt succeeds. -/
inductive Linking (s : Session δ n) (m : Move n ε) (s' : Session δ n) : List Request → Prop
  | none : Linking s m s' []
  | again {slot : String} {p q q' asked} (live : s.programs[slot]? = some p)
      (about : s.subject m = some p.id) (same : q = p ∨ ∃ stage, q = p.grow stage)
      (attempts : q.Attempts q' asked) (kept : s'.programs = s.programs.insert slot q') :
      Linking s m s' asked
  | made {i : Fin n} {handle stages q asked} (given : s.given m = some stages)
      (about : s.subject m = some ⟨(context i s.world).nextId⟩)
      (attempts : (Program.fresh ⟨(context i s.world).nextId⟩ handle i stages).Attempts q asked)
      (kept : (∃ slot : String, s'.programs = s.programs.insert slot q) ∨
        s'.programs = s.programs) : Linking s m s' asked

/-- Requests of an attempt are about some program. -/
theorem Linking.exists_subject {m : Move n ε} {s s' : Session δ n} {asked : List Request}
    (h : s.Linking m s' asked) (hasked : asked ≠ []) : ∃ id, s.subject m = some id := by
  cases h with
  | none => exact absurd rfl hasked
  | again live about => exact ⟨_, about⟩
  | made given about => exact ⟨_, about⟩

/-- A program that was made is kept if it could be made. -/
theorem run_settleNewProgram (slot : String) (made : Except ProgramError (Program n))
    (s : Session δ n) :
    linkingIn ((settleNewProgram slot made : SessionAction δ κ n Answer).run s).record = [] ∧
      ((settleNewProgram slot made : SessionAction δ κ n Answer).run s).state.programs =
        match made with
        | .ok p => s.programs.insert slot p
        | .error _ => s.programs := by
  constructor
  · exact linkingIn_eq_nil (asksIn_settleNewProgram (fun _ ↦ rfl) (fun _ ↦ rfl) slot made) s
  · cases made with
    | error e => rfl
    | ok p =>
      simp only [settleNewProgram, settleProgram, storeProgram, Action.run_bind, Action.run_get,
        Action.run_modify, Action.run_pure]
      cases s.programs[slot]? <;> rfl

/-- What is made of the stages given is kept if it could be made, and links nothing more. -/
theorem linking_settleNewProgram {m : Move n ε} {i : Fin n} {s : Session δ n} (slot : String)
    {stages : List (Stage n)} {handle : Nat} {q : Program n} {record : List Request}
    (made : Except ProgramError (Program n)) (hgiven : s.given m = some stages)
    (about : s.subject m = some ⟨(context i s.world).nextId⟩)
    (hattempts : (Program.fresh ⟨(context i s.world).nextId⟩ handle i stages).Attempts q record)
    (hmade : ∀ p, made = .ok p → p = q) (t : Session δ n) (hprograms : t.programs = s.programs) :
    let settled := (settleNewProgram slot made : SessionAction δ κ n Answer).run t
    Linking s m settled.state (record ++ linkingIn settled.record) := by
  intro settled
  obtain ⟨hnone, hkept⟩ := run_settleNewProgram (κ := κ) slot made t
  rw [hprograms] at hkept
  rw [show linkingIn settled.record = [] from hnone, List.append_nil]
  cases made with
  | error e => exact .made hgiven about hattempts (.inr hkept)
  | ok p =>
    obtain rfl := hmade p rfl
    exact .made hgiven about hattempts (.inl ⟨slot, hkept⟩)

theorem linking_newProgram (i : Fin n) (slot : String) (names : List String) (s : Session δ n) :
    Linking s (.perform i (.newProgram slot names) : Move n ε)
      ((perform i (.newProgram slot names)).run s).state
      (linkingIn ((perform i (.newProgram slot names)).run s).record) := by
  have about : s.subject (.perform i (.newProgram slot names) : Move n ε) =
      some ⟨(context i s.world).nextId⟩ := rfl
  simp only [perform, run_withStages]
  cases htake : s.stages.takeAll names with
  | none => exact .none
  | some taken =>
    have hgiven : s.given (.perform i (.newProgram slot names) : Move n ε) = some taken.1 :=
      congrArg (·.map Prod.fst) htake
    obtain ⟨handle, q, hattempts, hmade⟩ := attempts_new (κ := κ) i taken.1 s.world
    simp only [Action.run_bind, run_onWorld, linkingIn_append]
    exact linking_settleNewProgram slot _ hgiven about hattempts hmade _ rfl

theorem linking_ofSources (i : Fin n) (slot vertex fragment : String) (s : Session δ n) :
    Linking s (.perform i (.ofSources slot vertex fragment) : Move n ε)
      ((perform i (.ofSources slot vertex fragment)).run s).state
      (linkingIn ((perform i (.ofSources slot vertex fragment)).run s).record) := by
  have about : s.subject (.perform i (.ofSources slot vertex fragment) : Move n ε) =
      some ⟨(context i s.world).nextId⟩ := rfl
  simp only [perform, Action.run_bind, run_onWorld, linkingIn_append]
  rcases attempts_ofSources (κ := κ) i vertex fragment s.world with
    hnone | ⟨stages, handle, q, hcompiled, hattempts, hmade⟩
  · rw [hnone, (run_settleNewProgram (κ := κ) slot _ _).1]
    exact .none
  · have hgiven : s.given (.perform i (.ofSources slot vertex fragment) : Move n ε) =
        some stages := hcompiled
    exact linking_settleNewProgram slot _ hgiven about hattempts hmade _ rfl

theorem linking_bind (i : Fin n) (slot : String) (s : Session δ n) :
    Linking s (.perform i (.bind slot) : Move n ε) ((perform i (.bind slot)).run s).state
      (linkingIn ((perform i (.bind slot)).run s).record) := by
  cases live : s.programs[slot]? with
  | none =>
    simp only [perform, run_withProgram, live]
    exact .none
  | some p =>
    have hattempts := (p.binds_bind (κ := κ) (context i s.world)).attempts
    rw [← linkingIn_map i] at hattempts
    rw [perform_bind live]
    exact .again live (about_of_getElem? rfl rfl live) (.inl rfl) hattempts rfl

theorem linking_append (i : Fin n) (slot stageSlot : String) (s : Session δ n) :
    Linking s (.perform i (.append slot stageSlot) : Move n ε)
      ((perform i (.append slot stageSlot)).run s).state
      (linkingIn ((perform i (.append slot stageSlot)).run s).record) := by
  cases live : s.programs[slot]? with
  | none =>
    simp only [perform, run_withProgram, live]
    exact .none
  | some p =>
    cases given : s.stages[stageSlot]? with
    | none =>
      simp only [perform, run_withProgram, live, run_withStage, given]
      exact .none
    | some stage =>
      have hattempts := p.attempts_append (κ := κ) stage (context i s.world)
      rw [← linkingIn_map i] at hattempts
      rw [perform_append live given]
      exact .again live (about_of_getElem? rfl rfl live) (.inr ⟨stage, rfl⟩) hattempts rfl

variable [Environment δ κ ε]

/-- What is told of an operation is what is on its record. -/
theorem linkingRequests_perform (i : Fin n) (operation : Operation) (s : Session δ n) :
    linkingRequests (actsOf (deeds (.perform i operation : Move n ε) s)) =
      linkingIn ((perform i operation).run s).record := by
  have hwritten : linkingRequests ((writes (.perform i operation : Move n ε)
      ((perform i operation).run s).value : List (Deed n κ)).filterMap Deed.act) = [] := by
    unfold writes
    split <;> rfl
  rw [deeds, actsOf_map, List.filterMap_append, linkingRequests_append]
  exact (congrArg _ hwritten).trans (List.append_nil _)

/-- A move makes one attempt to link at most. -/
theorem linking_move (m : Move n ε) (s : Session δ n) :
    Linking s m ((move m).run s).state (linkingRequests (actsOf (deeds m s))) := by
  cases m with
  | react i event =>
    rw [actsOf_deeds_react]
    exact .none
  | perform i operation =>
    cases operation with
    | newProgram slot names =>
      rw [linkingRequests_perform]
      exact linking_newProgram i slot names s
    | ofSources slot vertex fragment =>
      rw [linkingRequests_perform]
      exact linking_ofSources i slot vertex fragment s
    | append program stage =>
      rw [linkingRequests_perform]
      exact linking_append i program stage s
    | bind name =>
      rw [linkingRequests_perform]
      exact linking_bind i name s
    | newStage | stageInfo | dropStage | collect | unbind | destroy | drop | isCurrent | isLinked
    | activeUniforms | uniforms | descriptor | stageTypes | listing | set | get =>
      rw [linkingRequests_eq_nil]
      · exact .none
      · intro request hrequest
        have hmay := mayAsk_of_asked hrequest
        cases request <;> first | rfl | cases hmay

end Session

/-! ## Runs -/

/-- An attempt attaches in order whatever of the stages was not attached before. -/
theorem Session.Linking.attachesInOrder {m : Move 1 ε} {s s' : Session δ 1} {id : ProgramId}
    {past : ProgramId → List Act} {now : List Request} (h : s.Linking m s' now)
    (about : s.subject m = some id)
    (hbefore : Tracked Accounted past (context 0 s.world) s.programs.tenants)
    (hdistinct : (s'.programs.tenants.map Program.id).Nodup) :
    now = [] ∨
      (∀ (slot : String) p, s'.programs[slot]? = some p → p.id = id →
        AttachesInOrder p.handle p.stages (linkingRequests (past id)) now) ∧
      ((∀ (slot : String) p, s'.programs[slot]? = some p → p.id ≠ id) →
        linkingRequests (past id) = [] ∧ ∃ handle stages, s.given m = some stages ∧
          AttachesInOrder handle stages (linkingRequests (past id)) now) := by
  cases h with
  | none => exact .inl rfl
  | @again slot p q q' asked live subject same attempts kept =>
    obtain rfl : p.id = id := Option.some.inj (subject.symm.trans about)
    have hp := hbefore.holds p (Slots.mem_tenants.2 ⟨slot, live⟩)
    obtain ⟨hid, hq⟩ : q.id = p.id ∧ Accounted (linkingRequests (past p.id)) q := by
      rcases same with rfl | ⟨stage, rfl⟩
      · exact ⟨rfl, hp⟩
      · exact ⟨rfl, hp.grow stage⟩
    have hslot : s'.programs[slot]? = some q' := by
      rw [kept]
      exact Std.ExtTreeMap.getElem?_insert_self
    rcases attempts.once with rfl | ⟨linked, rfl⟩
    · exact .inl rfl
    refine .inr ⟨?_, fun hgone ↦ absurd (attempts.id.trans hid) (hgone slot q' hslot)⟩
    intro other p' hother hsame
    obtain rfl : other = slot := Slots.eq_of_nodup_map hdistinct hother hslot
      (hsame.trans (attempts.id.trans hid).symm)
    obtain rfl : p' = q' := Option.some.inj (hother.symm.trans hslot)
    rw [attempts.handle, attempts.stages]
    exact hq.attachesInOrder_linkRequests linked
  | @made i handle stages q asked given subject attempts kept =>
    obtain rfl : ⟨(context i s.world).nextId⟩ = id := Option.some.inj (subject.symm.trans about)
    obtain rfl : i = 0 := Fin.fin_one_eq_zero i
    have hpast := hbefore.untouched ⟨(context 0 s.world).nextId⟩ le_rfl
    rcases attempts.once with rfl | ⟨linked, rfl⟩
    · exact .inl rfl
    have horder := (Accounted.fresh ⟨(context 0 s.world).nextId⟩ handle 0
      stages).attachesInOrder_linkRequests linked
    rw [hpast]
    refine .inr ⟨?_, fun _ ↦ ⟨rfl, handle, stages, given, horder⟩⟩
    intro other p' hother hsame
    rcases kept with ⟨slot, hkept⟩ | hkept
    · have hslot : s'.programs[slot]? = some q := by
        rw [hkept]
        exact Std.ExtTreeMap.getElem?_insert_self
      obtain rfl : other = slot := Slots.eq_of_nodup_map hdistinct hother hslot
        (hsame.trans attempts.id.symm)
      obtain rfl : p' = q := Option.some.inj (hother.symm.trans hslot)
      rw [attempts.handle, attempts.stages]
      exact horder
    · -- the number was not given to any program before
      rw [hkept] at hother
      have hnext := hbefore.numbered.next_ne (Slots.mem_tenants.2 ⟨other, hother⟩)
      exact absurd (congrArg some hsame.symm) hnext

variable [Environment δ κ ε]

/-- Whatever the device answers, a move about no program attaches and links nothing, and a move
about a program attaches its stages in order, each once, and asks for the link when all of them
were attached. They are the stages that the program has after the move, or those that were given
for a program that could not be made. -/
theorem attached_in_order (device : δ) (moves : List (Move 1 ε)) (m : Move 1 ε) :
    let start := Session.new #v[device]
    let s := Session.after moves start
    let s' := ((Session.move m).run s).state
    (s.subject m = none → linkingRequests (actsOf (Session.deeds m s)) = []) ∧
    ∀ id,
      let past := linkingRequests (actsAbout (Session.history moves start) id)
      let now := linkingRequests (actsAbout (Session.deeds m s) id)
      (∀ (slot : String) p, s'.programs[slot]? = some p → p.id = id →
        AttachesInOrder p.handle p.stages past now) ∧
      ((∀ (slot : String) p, s'.programs[slot]? = some p → p.id ≠ id) →
        now = [] ∨ past = [] ∧ ∃ handle stages, s.given m = some stages ∧
          AttachesInOrder handle stages past now) := by
  intro start s s'
  have hlinking := Session.linking_move m s
  have hbefore := tracked_after (κ := κ) Accounted.upheld device moves
  have hafter := tracked_after (κ := κ) Accounted.upheld device (moves ++ [m])
  rw [Session.after_append, Session.history_append] at hafter
  simp only [Session.history_cons, Session.history_nil, List.append_nil] at hafter
  constructor
  · intro hnone
    by_contra hasked
    obtain ⟨id, about⟩ := hlinking.exists_subject hasked
    rw [hnone] at about
    cases about
  intro id past now
  have hquiet : now = [] → ∀ (slot : String) p, s'.programs[slot]? = some p → p.id = id →
      AttachesInOrder p.handle p.stages past now := by
    rintro hnow slot p live rfl
    have hp := hafter.holds p (Slots.mem_tenants.2 ⟨slot, live⟩)
    rw [actsAbout_append, linkingRequests_append] at hp
    change Accounted (past ++ now) p at hp
    rw [hnow, List.append_nil] at hp
    rw [hnow]
    exact hp.attachesInOrder_nil
  by_cases about : s.subject m = some id
  · have hnow : now = linkingRequests (actsOf (Session.deeds m s)) := by
      show linkingRequests (actsAbout (Session.deeds m s) id) = _
      rw [actsAbout_deeds, if_pos about]
    rw [← hnow] at hlinking
    rcases hlinking.attachesInOrder about hbefore hafter.numbered.distinct with
      hnone | ⟨hlive, hgone⟩
    · exact ⟨hquiet hnone, fun _ ↦ .inl hnone⟩
    · exact ⟨hlive, fun h ↦ .inr (hgone h)⟩
  · have hnone : now = [] := by
      show linkingRequests (actsAbout (Session.deeds m s) id) = _
      rw [actsAbout_deeds, if_neg about]
      rfl
    exact ⟨hquiet hnone, fun _ ↦ .inl hnone⟩

/-- A run in which a program cannot be linked and then receives another stage. -/
def retriedRun : List (Move 1 (List InMemory.Settings.Setting)) :=
  [.here (.ofSources "program" "uniform float a;" "uniform vec2 b;"),
    .here (.newStage "broken" .fragment ["LINK_ERROR"]),
    .here (.append "program" "broken"),
    .here (.bind "program"),
    .here (.newStage "late" .fragment ["uniform int c;"]),
    .here (.append "program" "late")]

theorem attached_in_order_retriedRun :
    let s := Session.after retriedRun (.new #v[InMemory.new .blank])
    let m : Move 1 (List InMemory.Settings.Setting) := .here (.bind "program")
    ∃ p : Program 1,
      ((Session.move m).run s).state.programs["program"]? = some p ∧
        p.linkState = .failed ∧ p.stages.length = 4 ∧
        let past := linkingRequests
          (actsAbout (Session.history retriedRun (.new #v[InMemory.new .blank])) p.id)
        let now := linkingRequests (actsAbout (Session.deeds m s) p.id)
        now.length = 2 ∧ AttachesInOrder p.handle p.stages past now := by
  intro s m
  have hfailed : ((Session.move m).run s).state.programs["program"]?.map
      (fun p ↦ (p.linkState, p.stages.length, p.id)) = some (.failed, 4, ⟨0⟩) := by
    decide +kernel
  obtain ⟨p, live, hp⟩ := Option.map_eq_some_iff.1 hfailed
  obtain ⟨hstate, hp⟩ := Prod.mk.inj hp
  obtain ⟨hlength, hid⟩ := Prod.mk.inj hp
  have hnow : (linkingRequests (actsAbout (Session.deeds m s) ⟨0⟩)).length = 2 := by
    decide +kernel
  refine ⟨p, live, hstate, hlength, ?_, ?_⟩
  · rw [hid]
    exact hnow
  · exact ((attached_in_order (InMemory.new .blank) retriedRun m).2 p.id).1 "program" p live rfl

end Shading
