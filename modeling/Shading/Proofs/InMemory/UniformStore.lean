import Mathlib.Logic.Function.Basic
import Shading.Proofs.InMemory.CurrentProgram
import Shading.Proofs.InMemory.Storage

/-!
# The uniform store of a program

On the device in memory the uniforms of a program are a typed store. A value that is read shows the
data of the last write to its name since the program was linked, or zeros if there was no write. So
a write changes no other uniform of its program and no uniform of another program, whatever is
bound, grown, linked or released in between.
-/

namespace Shading

open Shading.Uniform World

/-- What counts as the last write to a name after one more act. -/
def Act.remember (name : String) (last : Option Data) : Act → Option Data
  | asked (.linkProgram _ true) => none
  | wrote other data => if other = name then some data else last
  | _ => last

/-- The data of the last write to a name since the last attempt to link that succeeded. -/
def lastWrite (acts : List Act) (name : String) : Option Data :=
  acts.foldl (Act.remember name) none

theorem lastWrite_append (past later : List Act) (name : String) :
    lastWrite (past ++ later) name = later.foldl (Act.remember name) (lastWrite past name) :=
  List.foldl_append ..

/-- Requests that do not link leave the last writes standing. -/
theorem lastWrite_append_asked (past : List Act) {requests : List Request}
    (h : ∀ request ∈ requests, request.links = false) :
    lastWrite (past ++ requests.map .asked) = lastWrite past := by
  funext name
  rw [lastWrite_append]
  induction requests with
  | nil => rfl
  | cons request rest ih =>
    have hrequest : Act.remember name (lastWrite past name) (.asked request) =
        lastWrite past name := by
      have hlinks := h request (List.mem_cons_self ..)
      cases request <;> first | rfl | cases hlinks
    rw [List.map_cons, List.foldl_cons, hrequest]
    exact ih fun other hother ↦ h other (List.mem_cons_of_mem _ hother)

theorem lastWrite_append_not_linking (past : List Act) {request : Request}
    (h : request.links = false) : lastWrite (past ++ [.asked request]) = lastWrite past := by
  have hone : ∀ other ∈ [request], other.links = false := by
    intro other hother
    rwa [List.mem_singleton.1 hother]
  exact lastWrite_append_asked past hone

/-- A link that succeeds starts afresh. -/
theorem lastWrite_append_linked (past : List Act) {n : Nat} (p : Program n) :
    lastWrite (past ++ (p.linkRequests true).map .asked) = fun _ ↦ none := by
  funext name
  rw [Program.linkRequests, List.map_append, ← List.append_assoc, lastWrite_append]
  rfl

/-- A write is the last one of its name and of no other. -/
theorem lastWrite_append_wrote (past : List Act) (name : String) (data : Data) :
    lastWrite (past ++ [.wrote name data]) =
      Function.update (lastWrite past) name (some data) := by
  funext other
  rw [lastWrite_append, Function.update_apply]
  simp only [List.foldl_cons, List.foldl_nil, Act.remember, eq_comm]

namespace InMemory

variable {subject : Option ProgramId} {c c' : Context InMemory}
variable {programs programs' : Multiset (Program 1)} {acts : List Act}
variable {past : ProgramId → List Act}

/-- A program with its image: the sources of all attached stages, and, once it is linked, the store
that its table describes unless there are too many locations. -/
structure Stored (device : InMemory) (acts : List Act) (p : Program 1) : Prop where
  bounded : p.attached ≤ p.stages.length
  image : ∃ image, device.programs[p.handle]? = some image ∧
    image.sources = (p.stages.take p.attached).map (fun stage ↦ stage.source) ∧
      (p.linkState = .linked → image.Fits → Stores p.uniforms image (lastWrite acts))

namespace Stored

variable {device device' : InMemory} {p : Program 1}

/-- Only the image of the program and its last writes matter. -/
theorem congr {acts' : List Act} (h : Stored device acts p)
    (hprogram : device'.programs[p.handle]? = device.programs[p.handle]?)
    (hacts : lastWrite acts' = lastWrite acts) : Stored device' acts' p := by
  obtain ⟨hbounded, himage⟩ := h
  refine ⟨hbounded, ?_⟩
  rw [hprogram, hacts]
  exact himage

theorem mark (h : Stored device acts p) (bound : Bool) : Stored device acts { p with bound } :=
  ⟨h.bounded, h.image⟩

theorem grow (h : Stored device acts p) (stage : Stage 1) : Stored device acts (p.grow stage) := by
  obtain ⟨hbounded, image, himage, hsources, -⟩ := h
  refine ⟨?_, image, himage, ?_, ?_⟩
  · rw [Program.grow, List.length_append]
    exact hbounded.trans (Nat.le_add_right _ _)
  · rw [hsources, Program.grow, List.take_append_of_le_length hbounded]
  · rintro ⟨⟩

/-- An image to which the rest is attached has the sources of all stages. -/
theorem sources_attach (h : Stored device acts p) :
    ∃ image, device.programs[p.handle]? = some image ∧
      (image.attach (newSources p)).sources = p.stages.map fun stage ↦ stage.source := by
  obtain ⟨-, image, himage, hsources, -⟩ := h
  refine ⟨image, himage, ?_⟩
  calc (image.attach (newSources p)).sources
      = (p.stages.take p.attached).map (fun stage ↦ stage.source) ++
          (p.stages.drop p.attached).map fun stage ↦ stage.source := by
        rw [Image.attach, hsources, newSources]
    _ = p.stages.map fun stage ↦ stage.source := by
        rw [← List.map_append, List.take_append_drop]

/-- An attempt to link attaches what is left, and reads the same table as the program does. -/
theorem settle (h : Stored device acts p) {answer : Except ProgramError Unit}
    (hanswer : ((p.submit : Reply _).run device).value = answer) :
    Stored ((p.submit : Reply _).run device).state
      (acts ++ (p.linkRequests answer.isOk).map .asked) (p.settle answer).1 := by
  obtain ⟨image, himage, hattached⟩ := h.sources_attach
  obtain ⟨hvalue, hstate⟩ := run_submit p device
  have hrelinked : ((p.submit : Reply _).run device).state.programs[p.handle]? =
      some (Image.relink device.settings (image.attach (newSources p))) := by
    rw [hstate, programs_updateProgram, if_pos rfl, himage]
    rfl
  have hkept : (Image.relink device.settings (image.attach (newSources p))).sources =
      p.stages.map fun stage ↦ stage.source :=
    (sources_relink device.settings _).trans hattached
  rcases p.settle_cases answer with ⟨uniforms, haccepted, hparse, hsettle⟩ | ⟨e, -, hsettle⟩
  · have haccepts : (image.attach (newSources p)).refusesToLink = false := by
      rw [himage, hanswer, haccepted] at hvalue
      cases hrefuses : (image.attach (newSources p)).refusesToLink with
      | true =>
        simp only [hrefuses, if_true] at hvalue
        cases hvalue
      | false => rfl
    rw [hsettle]
    refine ⟨le_rfl, _, hrelinked, ?_, ?_⟩
    · rw [hkept, Program.withTable, List.take_length]
    · intro _ _
      rw [Program.source, ← hattached] at hparse
      have hfresh : lastWrite (acts ++ (p.linkRequests answer.isOk).map .asked) =
          fun _ ↦ none := by
        rw [haccepted]
        exact lastWrite_append_linked acts p
      rw [hfresh, Image.relink, haccepts]
      exact stores_link device.settings hparse
  · rw [hsettle]
    refine ⟨le_rfl, _, hrelinked, ?_, ?_⟩
    · rw [hkept, Program.withoutTable, List.take_length]
    · rintro ⟨⟩

/-- A link that succeeds forgets the writes, and nothing else in binding does. -/
theorem of_binds {p' : Program 1} {done : Except ProgramError Unit} {requests : List Request}
    (hstored : Stored c.device acts p)
    (h : Program.Binds (κ := Request) p c p' done c' requests) :
    Stored c'.device (acts ++ requests.map .asked) p' := by
  have huse : ∀ past program,
      lastWrite (past ++ [Request.useProgram program].map .asked) = lastWrite past :=
    fun past _ ↦ lastWrite_append_not_linking past rfl
  cases h with
  | again linked => exact (hstored.mark true).congr rfl (huse acts _)
  | linked unlinked accepted parsed =>
    have hsettle := hstored.settle accepted
    rw [Program.settle_of_parse parsed] at hsettle
    rw [List.map_append, ← List.append_assoc]
    exact (hsettle.mark true).congr rfl (huse _ _)
  | dropped unlinked settled current =>
    have hsettle := hstored.settle rfl
    rw [settled] at hsettle
    rw [List.map_append, ← List.append_assoc]
    exact (hsettle.mark false).congr rfl (huse _ _)
  | refused unlinked settled other =>
    have hsettle := hstored.settle rfl
    rw [settled] at hsettle
    exact hsettle.mark false

/-- A write to the program in use reaches its own image. -/
theorem afterWrite {name : String} {data : Data} {location : Int} {count : Nat} {upload : Upload}
    (h : Stored c.device acts p) (hcurrent : c.device.current = some p.handle)
    (hplan : p.planWrite name c data = .ok (location, count, upload)) :
    Stored (Program.afterWrite c (.ok (location, count, upload))).device
      (acts ++ [.wrote name data]) p := by
  obtain ⟨d, wide, hdescribe, hlocate, rfl, hlength, hwide, hupload⟩ :=
    Program.of_planWrite_eq_ok hplan
  obtain ⟨-, hlinked, hd⟩ := Program.of_describe_eq_ok hdescribe
  obtain ⟨hbounded, image, himage, hsources, hstores⟩ := h
  obtain ⟨found, hfound, hfirst⟩ := Program.of_locate_eq_ok hlocate
  obtain rfl : image = found := Option.some.inj (himage.symm.trans hfound)
  obtain ⟨storage, hstorage⟩ := exists_upload_eq location d.arrayLength upload image
  refine ⟨hbounded, image.upload location d.arrayLength upload, ?_, ?_, ?_⟩
  · rw [Program.afterWrite, afterUpload, hcurrent]
    simp only [programs_updateProgram, if_true, himage, Option.map_some]
  · rw [hstorage, hsources]
  · intro _ hfits
    have hkept : image.Fits := by
      rw [hstorage] at hfits
      exact hfits
    have hstored := hstores hlinked hkept
    have hcounted : d.Fits := hkept.descriptor (hstored.placed hd hfirst)
    rw [lastWrite_append_wrote]
    exact hstored.upload hd hfirst (hlength.trans hcounted.len_eq) hwide hupload

end Stored

/-! ## All programs -/

/-- A link spares the images of the other programs. -/
theorem programs_submit_of_ne (p : Program 1) (device : InMemory) {handle : Nat}
    (hother : handle ≠ p.handle) :
    ((p.submit : Reply _).run device).state.programs[handle]? = device.programs[handle]? := by
  rw [(run_submit p device).2, programs_updateProgram, if_neg hother.symm]

/-- A handle that is not the one of a program keeps its image when the program is bound. -/
theorem programs_of_binds {p p' : Program 1} {done : Except ProgramError Unit}
    {asked : List Request} (h : Program.Binds (κ := Request) p c p' done c' asked) {handle : Nat}
    (hother : handle ≠ p.handle) :
    c'.device.programs[handle]? = c.device.programs[handle]? := by
  have hsubmit := programs_submit_of_ne p c.device hother
  cases h with
  | again linked => rfl
  | linked unlinked accepted parsed => exact hsubmit
  | dropped unlinked settled current => exact hsubmit
  | refused unlinked settled other => exact hsubmit

/-- A write goes into the image of the program in use. -/
theorem programs_afterWrite {location : Int} {count : Nat} {upload : Upload} {handle other : Nat}
    (hcurrent : c.device.current = some handle) (hother : other ≠ handle) :
    (Program.afterWrite c (.ok (location, count, upload))).device.programs[other]? =
      c.device.programs[other]? := by
  rw [Program.afterWrite, afterUpload, hcurrent]
  simp only [programs_updateProgram, if_neg hother.symm]

/-- The program that the context takes for the current one is in use. -/
theorem Kept.device_current (h : Kept c programs) {p : Program 1} (hp : p ∈ programs)
    (hcurrent : c.current = some p.id) : c.device.current = some p.handle := by
  rcases h.agrees with ⟨hnone, -⟩ | ⟨q, hq, hother, hdevice, -⟩
  · rw [hnone] at hcurrent
    cases hcurrent
  · have hsame : q.id = p.id := Option.some.inj (hother.symm.trans hcurrent)
    rw [Multiset.inj_on_of_nodup_map h.numbered.distinct q hq p hp hsame] at hdevice
    exact hdevice

/-- Every program has stored what was last written to it. -/
def AllStored (past : ProgramId → List Act) (c : Context InMemory)
    (programs : Multiset (Program 1)) : Prop :=
  ∀ p ∈ programs, Stored c.device (past p.id) p

namespace AllStored

/-- Acts that neither link nor write, and that leave all images alone. -/
theorem extend_quiet (h : AllStored past c programs)
    (hprograms : ∀ p ∈ programs,
      c'.device.programs[p.handle]? = c.device.programs[p.handle]?)
    (hacts : ∀ earlier, lastWrite (earlier ++ acts) = lastWrite earlier) :
    AllStored (extend past subject acts) c' programs := by
  intro p hp
  apply (h p hp).congr (hprograms p hp)
  unfold extend
  split
  · exact hacts _
  · rfl

/-- Acts about one program that concern no other image. -/
theorem replace {p p' : Program 1} (h : AllStored past c (p ::ₘ programs))
    (hkept : Kept c (p ::ₘ programs)) (hid : p'.id = p.id)
    (hothers : ∀ handle, handle ≠ p.handle →
      c'.device.programs[handle]? = c.device.programs[handle]?)
    (hown : Stored c'.device (past p.id ++ acts) p') :
    AllStored (extend past (some p.id) acts) c' (p' ::ₘ programs) := by
  intro q hq
  rcases Multiset.mem_cons.1 hq with rfl | hq
  · rw [extend, hid, if_pos rfl]
    exact hown
  · have hne : some p.id ≠ some q.id := by
      intro heq
      exact Slots.ne_of_nodup_map_cons hkept.numbered.distinct hq (Option.some.inj heq).symm
    have hother := Slots.ne_of_nodup_map_cons hkept.handled.distinct hq
    rw [extend, if_neg hne]
    exact (h q (Multiset.mem_cons_of_mem hq)).congr (hothers q.handle hother) rfl

/-- An access that writes nothing keeps all storage. -/
theorem of_quiet {α : Type} {x : ContextAction InMemory Request α} (hx : Quiet x)
    (h : AllStored past c programs)
    (hprograms : (x.run c).state.device.programs = c.device.programs) :
    AllStored (extend past subject (asked (x.run c).record)) (x.run c).state programs := by
  apply h.extend_quiet (fun p _ ↦ by rw [hprograms])
  intro earlier
  exact lastWrite_append_asked earlier (hx c).2

/-- A write that was planned reaches the program in use, and another one is no write at all. -/
theorem setUniform {p : Program 1} (h : AllStored past c (p ::ₘ programs))
    (hkept : Kept c (p ::ₘ programs)) (name : String) (value : HostValue) :
    AllStored (extend past (some p.id)
      (asked ((p.setUniform name value).run.run c).record ++
        written name value.toData ((p.setUniform name value).run.run c).value))
      ((p.setUniform name value).run.run c).state (p ::ₘ programs) := by
  obtain ⟨hvalue, hstate⟩ := p.yields_setUniform name c value
  have hasked : ∀ earlier,
      lastWrite (earlier ++ asked ((p.setUniform name value).run.run c).record) =
        lastWrite earlier :=
    fun earlier ↦ lastWrite_append_asked earlier (p.quiet_setUniform name value c).2
  rw [hstate, hvalue]
  cases hplan : p.planWrite name c value.toData with
  | error e =>
    apply h.extend_quiet (fun _ _ ↦ rfl)
    intro earlier
    calc lastWrite (earlier ++ (asked ((p.setUniform name value).run.run c).record ++ []))
        = lastWrite (earlier ++ asked ((p.setUniform name value).run.run c).record) := by
          rw [List.append_nil]
      _ = lastWrite earlier := hasked earlier
  | ok plan =>
    obtain ⟨location, count, upload⟩ := plan
    obtain ⟨d, wide, hdescribe, -⟩ := Program.of_planWrite_eq_ok hplan
    have hcurrent := hkept.device_current (Multiset.mem_cons_self _ _)
      (Program.of_describe_eq_ok hdescribe).1
    apply h.replace hkept rfl (fun handle ↦ programs_afterWrite hcurrent)
    rw [← List.append_assoc]
    have hown := h p (Multiset.mem_cons_self _ _)
    exact (hown.congr rfl (hasked _)).afterWrite hcurrent hplan

/-- A program that is made receives an image of its own, under a handle that is not in use. -/
theorem make (h : AllStored past c programs) (hkept : Kept c programs) {p : Program 1}
    {stages : List (Stage 1)} {made : Outcome Request InMemory Nat}
    {linked : Outcome Request InMemory (Except ProgramError Unit)}
    (created : (Device.newProgram : Reply Nat).run c.device = made)
    (fresh : p = Program.fresh ⟨c.nextId⟩ made.value 0 stages)
    (submitted : (p.submit : Reply _).run made.state = linked) :
    AllStored
      (extend past (some ⟨c.nextId⟩)
        ((.newProgram made.value :: p.linkRequests linked.value.isOk).map .asked))
      { c with device := linked.state, nextId := c.nextId + 1 }
      ((p.settle linked.value).1 ::ₘ programs) := by
  rw [run_newProgram] at created
  subst created fresh submitted
  intro q hq
  rcases Multiset.mem_cons.1 hq with rfl | hq
  · have hfresh : Stored
        { c.device with
          lastHandle := c.device.lastHandle + 1
          programs := c.device.programs.insert (c.device.lastHandle + 1) Image.empty }
        (past ⟨c.nextId⟩ ++ [.asked (.newProgram (c.device.lastHandle + 1))])
        (Program.fresh ⟨c.nextId⟩ (c.device.lastHandle + 1) 0 stages) := by
      refine ⟨Nat.zero_le _, Image.empty, ?_, rfl, ?_⟩
      · exact Std.ExtTreeMap.getElem?_insert_self
      · rintro ⟨⟩
    have hsettle := hfresh.settle rfl
    rw [List.append_assoc] at hsettle
    rw [extend, Program.settle_id, Program.fresh, if_pos rfl]
    exact hsettle
  · have hlast := hkept.handled.given q.handle (Multiset.mem_map_of_mem _ hq)
    have hother : q.handle ≠ c.device.lastHandle + 1 := by omega
    rw [extend, if_neg (hkept.numbered.next_ne hq)]
    refine (h q hq).congr ((programs_submit_of_ne _ _ hother).trans ?_) rfl
    rw [Std.ExtTreeMap.getElem?_insert,
      if_neg (mt Std.LawfulEqCmp.compare_eq_iff_eq.1 hother.symm)]

theorem of_effect (h : AllStored past c programs) (hkept : Kept c programs)
    (heffect : Effect (ε := List Settings.Setting) subject c programs acts c' programs') :
    AllStored (extend past subject acts) c' programs' := by
  cases heffect with
  | nothing => exact h.extend_quiet (fun _ _ ↦ rfl) fun earlier ↦ by rw [List.append_nil]
  | newStage type sources =>
    refine h.of_quiet (.ask _ fun _ ↦ rfl) ?_
    rw [Context.newStage, Context.run_ask]
    rcases state_newStage type sources c.device with hstate | hstate <;> rw [hstate]
  | destroyStage stage => exact h.of_quiet (.ask _ fun _ ↦ rfl) rfl
  | make nonempty about created fresh submitted =>
    subst about
    exact h.make hkept created fresh submitted
  | @grow programs p stage unmarked about =>
    subst about
    refine h.replace hkept rfl (fun _ _ ↦ rfl) ?_
    rw [List.append_nil]
    exact (h p (Multiset.mem_cons_self _ _)).grow stage
  | @bind _ programs p q q' done requests same binds about =>
    subst about
    have hp := h p (Multiset.mem_cons_self _ _)
    have hothers : ∀ handle, handle ≠ q.handle →
        c'.device.programs[handle]? = c.device.programs[handle]? :=
      fun handle ↦ programs_of_binds binds
    rcases same with rfl | ⟨stage, rfl⟩
    · exact h.replace hkept binds.id_eq hothers (hp.of_binds binds)
    · exact h.replace hkept binds.id_eq hothers ((hp.grow stage).of_binds binds)
  | @unbind programs p about =>
    subst about
    refine h.replace hkept rfl (fun _ _ ↦ rfl) ?_
    refine ((h p (Multiset.mem_cons_self _ _)).mark false).congr rfl ?_
    exact lastWrite_append_not_linking _ rfl
  | @set programs p name value about =>
    subst about
    exact h.setUniform hkept name value
  | @get programs p name about =>
    apply h.of_quiet (p.quiet_getUniform name)
    rw [state_getUniform]
  | isLinked about => exact h.of_quiet (.ask _ fun _ ↦ rfl) rfl
  | activeUniforms about => exact h.of_quiet (.ask _ fun _ ↦ rfl) rfl
  | @retire _ p =>
    have hrest : AllStored past c programs' := fun q hq ↦ h q (Multiset.mem_cons_of_mem hq)
    refine hrest.extend_quiet ?_ fun earlier ↦ lastWrite_append_not_linking earlier rfl
    intro q hq
    have hother : p.handle ≠ q.handle :=
      (Slots.ne_of_nodup_map_cons hkept.handled.distinct hq).symm
    rw [state_destroyProgram]
    simp only [Std.ExtTreeMap.getElem?_erase, Std.LawfulEqCmp.compare_eq_iff_eq, if_neg hother]
  | react event =>
    refine h.extend_quiet (fun _ _ ↦ rfl) ?_
    intro earlier
    rw [List.append_nil]

end AllStored

/-- Every run keeps the storage in step with what was written. -/
theorem stored_after (settings : Settings) (moves : List (Move 1 (List Settings.Setting))) :
    Kept ((Session.after moves (.new #v[new settings])).world.context 0)
        (Session.after moves (.new #v[new settings])).programs.tenants ∧
      AllStored (actsAbout (Session.history moves (.new #v[new settings])))
        ((Session.after moves (.new #v[new settings])).world.context 0)
        (Session.after moves (.new #v[new settings])).programs.tenants := by
  refine Session.holds_of_effects
    (I := fun past c programs ↦ Kept c programs ∧ AllStored past c programs) ?_ _ ?_ moves
  · rintro past c programs subject acts c' programs' ⟨hkept, hstored⟩ heffect
    exact ⟨hkept.of_effect heffect, hstored.of_effect hkept heffect⟩
  · rw [Session.context_new, Session.tenants_programs_new]
    refine ⟨.new settings, ?_⟩
    intro p hp
    exact absurd hp (Multiset.notMem_zero p)

end InMemory

end Shading
