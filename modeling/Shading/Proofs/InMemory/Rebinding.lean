import Shading.Proofs.InMemory.Calls
import Shading.Proofs.InMemory.Storage
import Shading.Proofs.Session.FilledSlots
import Shading.Proofs.Session.OneContext

/-!
# Binding again

Binding a program twice is binding it once. After a success the second attempt only puts the program
to use again, so its uniforms are not cleared. After a failure the second attempt has nothing left
to attach; it links the same sources as the first, fails in the same way, and leaves the device as
it found it.
-/

namespace Shading

open World

variable {n : Nat}

/-- How an attempt to link ends depends on the stages and on the answer of the device. -/
theorem Program.settle_congr {p q : Program n} (hstages : q.stages = p.stages)
    (answer : Except ProgramError Unit) : (q.settle answer).2 = (p.settle answer).2 := by
  have hsource : q.source = p.source := by rw [Program.source, hstages, Program.source]
  cases answer with
  | error e => rfl
  | ok done =>
    cases hparse : Uniform.parse p.source with
    | ok uniforms =>
      rw [Program.settle_of_parse hparse, Program.settle_of_parse (hsource ▸ hparse)]
    | error e =>
      rw [Program.settle_of_parse_error hparse, Program.settle_of_parse_error (hsource ▸ hparse)]

namespace InMemory

namespace Image

/-- A program links again just if it linked before. -/
theorem refusesToLink_relink (settings : Settings) (image : Image) :
    (image.relink settings).refusesToLink = image.refusesToLink := by
  rw [refusesToLink, sources_relink]
  rfl

/-- A link does not look at what the last one left, but for the sources. -/
theorem link_congr (settings : Settings) {image other : Image}
    (hsources : image.sources = other.sources) : image.link settings = other.link settings := by
  rw [link, link, hsources]

/-- Linking twice leaves the image of linking once. -/
theorem relink_relink (settings : Settings) (image : Image) :
    (image.relink settings).relink settings = image.relink settings := by
  rw [relink, refusesToLink_relink]
  by_cases hrefuses : image.refusesToLink = true
  · rw [if_pos hrefuses, relink, if_pos hrefuses]
  · rw [if_neg hrefuses, relink, if_neg hrefuses]
    exact link_congr settings (sources_link settings image)

end Image

/-- The same answer is given to a second attempt, which leaves the device alone. -/
theorem run_submit_again {p q : Program n} {device device' : InMemory}
    (hhandle : q.handle = p.handle) (hattached : q.attached = q.stages.length)
    (hsettings : device'.settings = device.settings)
    (hprograms : device'.programs = ((p.submit : Reply _).run device).state.programs) :
    ((q.submit : Reply _).run device').value = ((p.submit : Reply _).run device).value ∧
      ((q.submit : Reply _).run device').state = device' := by
  have hnew : newSources q = [] := by
    rw [newSources, hattached, List.drop_length, List.map_nil]
  have himage : device'.programs[q.handle]? =
      device.programs[p.handle]?.map
        (Image.relink device.settings ∘ Image.attach (newSources p)) := by
    rw [hprograms, hhandle, (run_submit p device).2, programs_updateProgram, if_pos rfl]
  constructor
  · rw [(run_submit q device').1, (run_submit p device).1, himage]
    cases device.programs[p.handle]? with
    | none => rfl
    | some image =>
      simp only [Option.map_some, Function.comp_apply, hnew, Image.attach_nil,
        Image.refusesToLink_relink]
  · rw [(run_submit q device').2]
    apply updateProgram_of_fixed
    intro image h
    rw [himage] at h
    obtain ⟨before, -, rfl⟩ := Option.map_eq_some_iff.1 h
    simp only [Function.comp_apply, hnew, Image.attach_nil, hsettings, Image.relink_relink]

section Binds

variable {c c' c'' : Context InMemory} {p p' p'' : Program n} {done : Except ProgramError Unit}
variable {asked asked' : List Request}

/-- The second time there is nothing to link and only the use is asked for. -/
theorem binds_after_success (first : Program.Binds (κ := Request) p c p' (.ok ()) c' asked)
    (second : Program.Binds (κ := Request) p' c' p'' done c'' asked') :
    p'' = p' ∧ done = .ok () ∧ c'' = c' ∧ asked' = [.useProgram (some p.handle)] := by
  have hlinked : p'.linkState = .linked := by
    cases first with
    | again linked => exact linked
    | linked => rfl
  cases second with
  | again =>
    cases first with
    | again | linked => exact ⟨rfl, rfl, rfl, rfl⟩
  | linked unlinked | dropped unlinked | refused unlinked => exact absurd hlinked unlinked

/-- The second time the same link fails again. -/
theorem binds_after_failure {e : ProgramError}
    (first : Program.Binds (κ := Request) p c p' (.error e) c' asked)
    (second : Program.Binds (κ := Request) p' c' p'' done c'' asked') :
    p'' = p' ∧ done = .error e ∧ c'' = c' ∧
      ∃ linked, asked' = [.linkProgram p.handle linked] := by
  have hsettings : ((p.submit : Reply _).run c.device).state.settings = c.device.settings := by
    rw [(run_submit p c.device).2, settings_updateProgram]
  obtain ⟨hp, hother, hsettings, hprograms, hfailed⟩ :
      p' = { p.withoutTable with bound := false } ∧ c'.current ≠ some p'.id ∧
        c'.device.settings = c.device.settings ∧
        c'.device.programs = ((p.submit : Reply _).run c.device).state.programs ∧
        (p.settle ((p.submit : Reply _).run c.device).value).2 = .error e := by
    cases first with
    | dropped unlinked settled current =>
      exact ⟨rfl, nofun, hsettings, rfl, congrArg Prod.snd settled⟩
    | refused unlinked settled other =>
      exact ⟨rfl, other, hsettings, rfl, congrArg Prod.snd settled⟩
  have hhandle : p'.handle = p.handle := by rw [hp]; rfl
  have hattached : p'.attached = p'.stages.length := by rw [hp]; rfl
  obtain ⟨hvalue, hstate⟩ := run_submit_again hhandle hattached hsettings hprograms
  have hanswer : (p'.settle ((p'.submit : Reply _).run c'.device).value).2 = .error e := by
    rw [hvalue, Program.settle_congr (p := p) (by rw [hp]; rfl), hfailed]
  cases second with
  | again linked =>
    rw [hp] at linked
    cases linked
  | linked unlinked accepted parsed =>
    rw [accepted, Program.settle_of_parse parsed] at hanswer
    cases hanswer
  | dropped unlinked settled current => exact absurd current hother
  | refused unlinked settled other =>
    rw [settled] at hanswer
    have hrequests : ∀ linked, p'.linkRequests linked = [.linkProgram p.handle linked] := by
      intro linked
      rw [Program.linkRequests, hattached, List.drop_length, hhandle]
      rfl
    exact ⟨by rw [hp]; rfl, hanswer, by rw [hstate], _, hrequests _⟩

end Binds

/-- Binding twice ends where binding once has ended. -/
theorem bind_again (p : Program n) (c : Context InMemory) :
    let once := (p.bind : ContextAction InMemory Request _).run c
    let twice := (once.value.1.bind : ContextAction InMemory Request _).run once.state
    twice.value = once.value ∧ twice.state = once.state ∧
      ((once.value.2 = .ok () ∧ requests twice.record = [.useProgram (some p.handle)]) ∨
        ∃ e linked, once.value.2 = .error e ∧
          requests twice.record = [.linkProgram p.handle linked]) := by
  intro once twice
  have hfirst : Program.Binds (κ := Request) p c once.value.1 once.value.2 once.state _ :=
    p.binds_bind c
  have hsecond : Program.Binds (κ := Request) once.value.1 once.state twice.value.1 twice.value.2
      twice.state (requests twice.record) :=
    once.value.1.binds_bind once.state
  cases hdone : once.value.2 with
  | ok done =>
    rw [hdone] at hfirst
    obtain ⟨hprogram, hanswer, hstate, hrequests⟩ := binds_after_success hfirst hsecond
    exact ⟨Prod.ext hprogram (hanswer.trans hdone.symm), hstate, .inl ⟨rfl, hrequests⟩⟩
  | error e =>
    rw [hdone] at hfirst
    obtain ⟨hprogram, hanswer, hstate, linked, hrequests⟩ := binds_after_failure hfirst hsecond
    exact ⟨Prod.ext hprogram (hanswer.trans hdone.symm), hstate, .inr ⟨e, linked, rfl, hrequests⟩⟩

/-- In any state, binding a program for a second time gives the same answer and leaves the session
as it is. What was bound is put to use again and nothing else is asked; what could not be linked is
linked once more, with nothing attached. -/
theorem bind_idempotent {s : Session InMemory 1} {slot : String} {p : Program 1}
    (live : s.programs[slot]? = some p) :
    let once := (Session.perform 0 (.bind slot)).run s
    let twice := (Session.perform 0 (.bind slot)).run once.state
    twice.value = once.value ∧ twice.state = once.state ∧
      ((once.value = .ok .done ∧
          Transcript.seen InMemory twice.record = [.useProgram (some p.handle)]) ∨
        ∃ e linked, once.value = .error (.program e) ∧
          Transcript.seen InMemory twice.record = [.linkProgram p.handle linked]) := by
  intro once twice
  let attempt := (p.bind : ContextAction InMemory Request _).run (context 0 s.world)
  let again := (attempt.value.1.bind : ContextAction InMemory Request _).run attempt.state
  have honce : once = _ := Session.perform_bind live
  have hlive : once.state.programs[slot]? = some attempt.value.1 := by
    rw [honce]
    exact Std.ExtTreeMap.getElem?_insert_self
  have hcontext : context 0 once.state.world = attempt.state := by
    rw [honce]
    exact context_set_self _ _ _
  have htwice : twice = _ := Session.perform_bind hlive
  rw [hcontext] at htwice
  obtain ⟨hvalue, hstate, hends⟩ := bind_again p (context 0 s.world)
  change again.value = attempt.value at hvalue
  change again.state = attempt.state at hstate
  have hworld : once.state.world.set 0 again.state Nat.one_pos = once.state.world := by
    rw [hstate, ← hcontext]
    exact set_context_self _ 0
  have hprograms : once.state.programs.insert slot again.value.1 = once.state.programs := by
    rw [hvalue]
    exact insert_of_getElem? hlive
  have hseen : Transcript.seen InMemory twice.record = requests again.record := by
    rw [htwice, seen_map, observed_of_plain (plain_bind _ _)]
  refine ⟨?_, ?_, ?_⟩
  · rw [htwice, honce]
    exact congrArg (fun value ↦ Session.answerTo value.2) hvalue
  · calc twice.state
        = { once.state with
            world := once.state.world.set 0 again.state Nat.one_pos
            programs := once.state.programs.insert slot again.value.1 } :=
          congrArg Outcome.state htwice
      _ = once.state := by rw [hworld, hprograms]
  · rw [hseen, honce]
    rcases hends with ⟨hdone, hasked⟩ | ⟨e, linked, hdone, hasked⟩
    · exact .inl ⟨congrArg Session.answerTo hdone, hasked⟩
    · exact .inr ⟨e, linked, congrArg Session.answerTo hdone, hasked⟩

/-- A run after which a program has a stage that it cannot be linked with. -/
def strandedRun : List (Move 1 (List Settings.Setting)) :=
  [.here (.ofSources "program" "uniform float a;" ""),
    .here (.newStage "stage" .fragment ["LINK_ERROR"]), .here (.append "program" "stage")]

theorem bind_idempotent_strandedRun :
    let s := Session.after strandedRun (.new #v[new .blank])
    let once := (Session.perform 0 (.bind "program")).run s
    let twice := (Session.perform 0 (.bind "program")).run once.state
    twice.value = .error (.program (.linkFailed linkLog)) ∧ twice.state = once.state ∧
      ∃ linked, Transcript.seen InMemory twice.record = [.linkProgram 3 linked] := by
  intro s once twice
  have hhandle : s.programs["program"]?.map Program.handle = some 3 := by decide +kernel
  have hfails : once.value = .error (.program (.linkFailed linkLog)) :=
    Session.eq_error_of_map (by decide +kernel)
  obtain ⟨p, live, hp⟩ := Option.map_eq_some_iff.1 hhandle
  obtain ⟨hvalue, hstate, ⟨hdone, -⟩ | ⟨e, linked, -, hseen⟩⟩ := bind_idempotent live
  · cases hdone.symm.trans hfails
  · rw [hp] at hseen
    exact ⟨hvalue.trans hfails, hstate, linked, hseen⟩

end InMemory

end Shading
