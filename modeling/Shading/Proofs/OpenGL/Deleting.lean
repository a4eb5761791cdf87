import Shading.Proofs.OpenGL.Replay
import Shading.Proofs.Session.FilledSlots
import Shading.Proofs.Session.OneContext

/-!
# Deleting programs

A program that is to be deleted is taken out of use first, but only if the back end knows that it
is in use. So no program is deleted while it is in use as long as there is a record. Destroying the
current program is safe even without one, since unbinding it makes a record before the program is
released; merely dropping it is not.

Nothing is said of drops while the record may not be touched, and none of zero, which is no program.
-/

namespace Shading.OpenGL

open World

variable {γ : Type} [Driver γ]

/-- No program is deleted while it is in use. -/
def DeletesUnused : List Call → γ → Prop
  | [], _ => True
  | call :: rest, d =>
    (∀ program, call = .deleteProgram program → program ≠ 0 →
      Driver.currentProgram d ≠ program) ∧ DeletesUnused rest (call.perform d)

namespace DeletesUnused

/-- Calls in sequence delete no program in use if neither part does. -/
theorem append {first second : List Call} {d : γ} (hfirst : DeletesUnused first d)
    (hsecond : DeletesUnused second (replay first d)) : DeletesUnused (first ++ second) d := by
  induction first generalizing d with
  | nil => exact hsecond
  | cons call rest ih => exact ⟨hfirst.1, ih hfirst.2 hsecond⟩

/-- Calls that spare the program in use delete none at all. -/
theorem of_spares {calls : List Call} (h : ∀ call ∈ calls, call.spares) (d : γ) :
    DeletesUnused calls d := by
  induction calls generalizing d with
  | nil => trivial
  | cons call rest ih =>
    refine ⟨?_, ih (fun other hother ↦ h other (List.mem_cons_of_mem _ hother)) _⟩
    rintro program rfl
    cases h _ List.mem_cons_self

/-- At the moment of a deletion another program is in use, or none. -/
theorem currentProgram_ne {before after : List Call} {program : Nat} {d : γ}
    (h : DeletesUnused (before ++ .deleteProgram program :: after) d) (hprogram : program ≠ 0) :
    Driver.currentProgram (replay before d) ≠ program := by
  induction before generalizing d with
  | nil => exact h.1 program rfl hprogram
  | cons call rest ih => exact ih h.2

end DeletesUnused

namespace Backend

/-- A record that is right and may be touched. -/
structure Recorded (b : Backend γ) : Prop where
  truthful : b.Truthful
  free : b.borrowed = false
  known : b.inUse ≠ none

/-- With a record, no program in use is deleted, and there still is a record. -/
def Careful (b : Backend γ) (calls : List Call) (b' : Backend γ) : Prop :=
  b.Recorded → b'.Recorded ∧ b.Replays calls b' ∧ DeletesUnused calls b.driver

/-- Some calls after which there is a record. -/
def Restores (b : Backend γ) (calls : List Call) (b' : Backend γ) : Prop :=
  b.Truthful → b.borrowed = false →
    b'.Recorded ∧ b.Replays calls b' ∧ DeletesUnused calls b.driver

/-- What takes the program out of use and then is careful has been careful. -/
theorem chains_restores : Chains Restores Careful (Restores (γ := γ)) := by
  intro b b' b'' first second earlier later htruthful hfree
  obtain ⟨hmiddle, hfirst, hunused⟩ := earlier htruthful hfree
  obtain ⟨hlast, hsecond, hothers⟩ := later hmiddle
  have hdriver : b'.driver = replay first b.driver := hfirst
  exact ⟨hlast, composes_replays.trans hfirst hsecond, hunused.append (hdriver ▸ hothers)⟩

theorem Restores.careful {b b' : Backend γ} {calls : List Call} (h : b.Restores calls b') :
    b.Careful calls b' :=
  fun hb ↦ h hb.truthful hb.free

theorem composes_careful : Composes (Careful (γ := γ)) := by
  refine ⟨fun b hb ↦ ⟨hb, rfl, trivial⟩, ?_⟩
  intro b b' b'' first second earlier later hb
  exact chains_restores (fun _ _ ↦ earlier hb) later hb.truthful hb.free

variable [LawfulDriver γ]

theorem Spares.careful {b b' : Backend γ} {calls : List Call} (h : Spares b calls b') :
    b.Careful calls b' := by
  intro hb
  refine ⟨⟨h.truthful hb.truthful, h.borrowed.trans hb.free, ?_⟩, h.replays,
    .of_spares h.spared _⟩
  rw [h.inUse]
  exact hb.known

/-- To put another program to use makes the belief true. -/
theorem restores_useProgram (program : Option Nat) :
    Follows Restores (Device.useProgram program : Action Call (Backend γ) Unit) := by
  intro b htruthful hfree
  refine ⟨⟨(useProgram_spec program htruthful).1, ?_, ?_⟩, replays_useProgram program b, ?_⟩
  all_goals rw [device_useProgram, run_useProgram]
  · split <;> exact hfree
  · split
    · rename_i hsame
      rw [hsame]
      exact Option.some_ne_none _
    · exact Option.some_ne_none _
  · split
    · rw [callsOf_borrowNotes]
      trivial
    · rw [callsOf_append, callsOf_borrowNotes]
      refine ⟨?_, trivial⟩
      intro _ h
      cases h

/-- A program may be deleted if it is on record or if another one is. -/
theorem careful_destroyProgram (program : Nat) :
    Follows Careful (Device.destroyProgram program : Action Call (Backend γ) Unit) := by
  intro b hb
  refine ⟨⟨(destroyProgram_spec program hb.truthful).1, ?_, ?_⟩, replays_destroyProgram program b,
    ?_⟩
  all_goals rw [run_destroyProgram]
  · split <;> exact hb.free
  · split
    · exact Option.some_ne_none _
    · exact hb.known
  · split
    · refine ⟨(fun _ h ↦ by cases h), ?_, trivial⟩
      intro _ h hprogram heq
      obtain rfl := Call.deleteProgram.inj h
      exact hprogram (heq.symm.trans (currentProgram_useProgram 0 b.driver))
    · rename_i hother
      refine ⟨?_, trivial⟩
      intro _ h _ heq
      obtain rfl := Call.deleteProgram.inj h
      obtain ⟨found, hfound⟩ := Option.ne_none_iff_exists'.1 hb.known
      obtain rfl : program = found := heq.symm.trans (hb.truthful found hfound)
      exact hother ⟨hb.free, hfound⟩

/-- All that the back end is asked to do is done with care. -/
theorem obeyed_careful : Obeyed (Issued (Careful (γ := γ))) :=
  obeyed_issued composes_careful Spares.careful
    (fun program b ↦ (restores_useProgram program b).careful) careful_destroyProgram

/-- Unbinding makes a record. -/
theorem restores_unbind {n : Nat} (p : Program n) :
    Follows (OnDevice (Issued (Restores (γ := γ)))) p.unbind := by
  have hcareful : Obeyed (Issued (Careful (γ := γ))) := obeyed_careful
  apply Follows.bind_of_chains chains_restores.issued.onDevice
    (.ask_issued (restores_useProgram none) _)
  intro _
  apply Follows.bind hcareful.composes (.get hcareful.composes)
  intro c
  apply Follows.bind hcareful.composes (.setCurrent hcareful.toComposes _)
  intro _
  exact .bind hcareful.composes (Program.follows_noteChange hcareful.composes _ _ _) fun _ ↦
    .pure hcareful.composes _

/-- What destroying the current program does before it releases the program. -/
def unbindToDestroy {n : Nat} (p : Program n) : ContextAction (Backend γ) Call (Program n) := do
  let p ← p.unbind
  Action.note .debug ("destroying " ++ Program.title p.id)
  return p

omit [LawfulDriver γ] in
theorem run_destroy_of_isCurrent {p : Program 1} {w : World (Backend γ) 1}
    (hcurrent : p.isCurrent (context 0 w) = true) :
    (p.destroy 0).run w = (within 0 (unbindToDestroy p) >>= Program.release).run w := by
  simp [Program.destroy, unbindToDestroy, run_within, hcurrent]

/-- To destroy the current program sets the belief right on the way. -/
theorem restores_destroy {p : Program 1} {w : World (Backend γ) 1}
    (hcurrent : p.isCurrent (context 0 w) = true) :
    AtContext 0 (Issued Restores) w (callsOf ((p.destroy 0).run w).record)
      ((p.destroy 0).run w).state := by
  have hcareful : Obeyed (Issued (Careful (γ := γ))) := obeyed_careful
  have hchains := (chains_restores (γ := γ)).issued
  have hunbound : Follows (OnDevice (Issued (Restores (γ := γ)))) (unbindToDestroy p) := by
    apply Follows.bind_of_chains hchains.onDevice (restores_unbind p)
    intro q
    exact .bind hcareful.composes (.note hcareful.composes _ _) fun _ ↦ .pure hcareful.composes _
  rw [run_destroy_of_isCurrent hcurrent]
  exact Follows.bind_of_chains (hchains.atContext 0) (hunbound.within_self 0)
    (hcareful.release 0) w

section Runs

open Session

variable {ε : Type} [Environment (Backend γ) Call ε]

/-- Without interference the belief is true after every run. -/
theorem truthful_after (driver : γ) {moves : List (Move 1 ε)}
    (hevents : ∀ i event, .react i event ∈ moves → Undisturbing (γ := γ) event) :
    Truthful (context 0 (Session.after moves (Session.new #v[opened driver])).world).device := by
  have hkeeps : Obeyed (Issued fun (b : Backend γ) _ b' ↦ b.Truthful → b'.Truthful) :=
    obeyed_issued ⟨fun _ hb ↦ hb, fun _ _ _ _ _ earlier later hb ↦ later (earlier hb)⟩
      Spares.truthful (fun program _ hb ↦ (useProgram_spec program hb).1)
      fun program _ hb ↦ (destroyProgram_spec program hb).1
  refine after_of_moves (J := fun s ↦ Truthful (context 0 s.world).device) ?_ ?_
  · intro m hm s hs
    cases m with
    | perform i operation => exact obeys_perform hkeeps i operation s 0 hs
    | react i event =>
      rw [(run_move_react i event s).1, Fin.fin_one_eq_zero i, context_set_self]
      exact (hevents i event hm).truthful hs
  · rw [context_new]
    exact truthful_opened driver

omit [LawfulDriver γ] in
/-- The first call for a program that is dropped without a record deletes it. -/
theorem issuedBy_drop {s : Session (Backend γ) 1} {name : String} {p : Program 1}
    (hp : s.programs[name]? = some p) (hunknown : (context 0 s.world).device.inUse = none) :
    ∃ rest, issuedBy 0 (.drop name) s = .deleteProgram p.handle :: rest := by
  have hretire : issuedOf (callsOf ((p.retire).run (context 0 s.world)).record) =
      [.deleteProgram p.handle] := by
    cases hcurrent : p.isCurrent (context 0 s.world) <;>
    · simp [Program.retire, Context.destroyProgram, run_destroyProgram, hcurrent, hunknown]
      rfl
  have hhome : p.home = 0 := Fin.fin_one_eq_zero _
  have hfirst :
      issuedOf (trafficAt 0 (callsOf ((World.within p.home p.retire).run s.world).record)) =
        [Call.deleteProgram p.handle] := by
    rw [run_within, callsOf_map, trafficAt_map, if_pos hhome, hhome, hretire]
  rw [issuedBy, perform_drop hp, Program.release, Action.run_bind, callsOf_append,
    trafficAt_append, issuedOf_append, hfirst]
  exact ⟨_, rfl⟩

/-- As long as there is a record that may be touched, no operation deletes a program while it is
in use. Without a record this can still be said of an operation that destroys the current program,
but not of one that drops a program: its first call deletes the program, in use or not. -/
theorem deletes_unused_when_recorded (driver : γ) {moves : List (Move 1 ε)}
    (hevents : ∀ i event, .react i event ∈ moves → Undisturbing (γ := γ) event)
    (operation : Operation) :
    let s := Session.after moves (Session.new #v[opened driver])
    let b := (context 0 s.world).device
    b.borrowed = false →
      ((b.inUse ≠ none ∨ ∃ name p, operation = .destroy name ∧ s.programs[name]? = some p ∧
          p.isCurrent (context 0 s.world) = true) →
        ∀ before program after,
          issuedBy 0 operation s = before ++ .deleteProgram program :: after → program ≠ 0 →
            Driver.currentProgram (replay before b.driver) ≠ program) ∧
      (b.inUse = none → ∀ name p, operation = .drop name → s.programs[name]? = some p →
        ∃ rest, issuedBy 0 operation s = .deleteProgram p.handle :: rest) := by
  intro s b hfree
  have htruthful : b.Truthful := truthful_after driver hevents
  constructor
  · intro hrecord before program after hcalls hprogram
    have hunused : DeletesUnused (issuedBy 0 operation s) b.driver := by
      by_cases hknown : b.inUse = none
      · obtain ⟨name, p, rfl, hp, hcurrent⟩ := hrecord.resolve_left (absurd hknown)
        have hdestroys : issuedBy 0 (.destroy name) s =
            issuedOf (trafficAt 0 (callsOf ((p.destroy 0).run s.world).record)) := by
          simp only [issuedBy, perform, run_withProgram, hp, eraseProgram, Action.run_bind,
            Action.run_modify, run_onWorld, Action.run_pure, List.nil_append, List.append_nil]
        rw [hdestroys]
        exact (restores_destroy hcurrent htruthful hfree).2.2
      · exact (obeys_perform obeyed_careful 0 operation s 0 ⟨htruthful, hfree, hknown⟩).2.2
    rw [hcalls] at hunused
    exact hunused.currentProgram_ne hprogram
  · rintro hunknown name p rfl hp
    exact issuedBy_drop hp hunknown

/-- A program is put to use, and the record is taken away. -/
def forgottenRun : List (Move 1 Event) :=
  [.here (.ofSources "program" "uniform vec4 tint;" ""), .here (.bind "program"),
    .occurs .invalidate]

/-- With the program bound once more there is a record again when the program is dropped. -/
theorem deletes_unused_when_recorded_boundAgain :
    let s := Session.after (forgottenRun ++ [.here (.bind "program")])
      (Session.new #v[opened (Scripted.new .blank)])
    issuedBy 0 (.drop "program") s =
        [.useProgram 0, .deleteProgram 3, .deleteShader 1, .deleteShader 2] ∧
      Driver.currentProgram (replay [.useProgram 0] (context 0 s.world).device.driver) ≠ 3 := by
  intro s
  have hstate : (context 0 s.world).device.borrowed = false ∧
      (context 0 s.world).device.inUse = some 3 := by
    decide +kernel
  have hcalls : issuedBy 0 (.drop "program") s =
      [.useProgram 0, .deleteProgram 3, .deleteShader 1, .deleteShader 2] := by
    decide +kernel
  have hevents : ∀ i event, .react i event ∈ forgottenRun ++ [.here (.bind "program")] →
      Undisturbing (γ := Scripted) event := by
    intro i event hmem
    obtain ⟨-, rfl⟩ : i = 0 ∧ event = .invalidate := by
      simpa [forgottenRun, Move.here, Move.occurs] using hmem
    exact fun b ↦ ⟨rfl, .inr rfl⟩
  have hknown : (context 0 s.world).device.inUse ≠ none := by
    rw [hstate.2]
    exact Option.some_ne_none 3
  refine ⟨hcalls, ?_⟩
  exact (deletes_unused_when_recorded _ hevents (.drop "program") hstate.1).1 (.inl hknown)
    [.useProgram 0] 3 _ hcalls (by decide)

/-- A program that is in use without a record is deleted while it is in use. -/
theorem not_forall_deletes_unused :
    ¬ ∀ (driver : Scripted) (moves : List (Move 1 Event)) (operation : Operation),
      (∀ i event, .react i event ∈ moves → event = .invalidate) →
        let s := Session.after moves (Session.new #v[opened driver])
        ∀ before program after,
          issuedBy 0 operation s = before ++ .deleteProgram program :: after → program ≠ 0 →
            Driver.currentProgram (replay before (context 0 s.world).device.driver) ≠ program := by
  intro h
  have hcalls : issuedBy 0 (.drop "program")
      (Session.after forgottenRun (Session.new #v[opened (Scripted.new .blank)])) =
        [.deleteProgram 3, .deleteShader 1, .deleteShader 2] := by
    decide +kernel
  have hcurrent : Driver.currentProgram (context 0 (Session.after forgottenRun
      (Session.new #v[opened (Scripted.new .blank)])).world).device.driver = 3 := by
    decide +kernel
  have hevents : ∀ i event, .react i event ∈ forgottenRun → event = .invalidate := by
    intro i event hmem
    have hevent : i = 0 ∧ event = .invalidate := by
      simpa [forgottenRun, Move.here, Move.occurs] using hmem
    exact hevent.2
  exact h (Scripted.new .blank) forgottenRun (.drop "program") hevents [] 3 _ hcalls (by decide)
    hcurrent

end Runs

end Backend

end Shading.OpenGL
