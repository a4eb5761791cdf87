import Shading.Proofs.Session.Operation

/-!
# Operations on filled slots

When the slots that an operation names are filled, it comes down to what is done to the tenants.
What becomes of a program stays in its slot; a program that is let go of leaves it; a program that
cannot be made leaves all slots as they are, except that the stages given to it are gone.
-/

namespace Shading.Session

open World

variable {δ κ : Type} [Device δ κ] {n : Nat} {i : Fin n} {s : Session δ n}
variable {slot stageSlot : String} {p : Program n} {stage : Stage n}

/-- The answer that tells how an attempt to put a program to use ended. -/
def answerTo (done : Except ProgramError Unit) : Answer :=
  (done.map fun _ ↦ .done).mapError .program

/-- The answer is a fault of the program just if the attempt was. -/
theorem answerTo_eq_error_iff {done : Except ProgramError Unit} {e : ProgramError} :
    answerTo done = .error (.program e) ↔ done = .error e := by
  cases done <;> simp [answerTo, Except.map, Except.mapError]

theorem eq_error_of_map {answer : Answer} {fault : Fault}
    (h : answer.map (fun _ ↦ ()) = .error fault) : answer = .error fault := by
  cases answer with
  | ok reply => cases h
  | error other => exact congrArg Except.error (Except.error.inj h)

/-- A bind of a filled slot keeps the program as the attempt has left it. -/
theorem perform_bind (live : s.programs[slot]? = some p) :
    let attempt := (p.bind : ContextAction δ κ _).run (context i s.world)
    (perform i (.bind slot)).run s =
      ⟨answerTo attempt.value.2,
        { s with
          world := s.world.set i attempt.state i.isLt
          programs := s.programs.insert slot attempt.value.1 },
        attempt.record.map (Entry.map (i, ·))⟩ := by
  simp only [perform, run_withProgram, live, Session.within, Action.run_bind, run_onWorld,
    run_within, run_keepProgram, List.append_nil]
  cases ((p.bind : ContextAction δ κ _).run (context i s.world)).value.2 <;> rfl

/-- The stage leaves its slot and the program keeps its own. -/
theorem perform_append (live : s.programs[slot]? = some p)
    (given : s.stages[stageSlot]? = some stage) :
    let attempt := (p.append stage : ContextAction δ κ _).run (context i s.world)
    (perform i (.append slot stageSlot)).run s =
      ⟨answerTo attempt.value.2,
        { world := s.world.set i attempt.state i.isLt
          stages := s.stages.erase stageSlot
          programs := s.programs.insert slot attempt.value.1 },
        attempt.record.map (Entry.map (i, ·))⟩ := by
  simp only [perform, run_withProgram, run_withStage, live, given, eraseStage, Session.within,
    Action.run_bind, Action.run_modify, run_onWorld, run_within, run_keepProgram,
    List.nil_append, List.append_nil]
  cases ((p.append stage : ContextAction δ κ _).run (context i s.world)).value.2 <;> rfl

theorem perform_drop (live : s.programs[slot]? = some p) :
    let gone := p.release.run s.world
    (perform i (.drop slot)).run s =
      ⟨.ok .done, { s with world := gone.state, programs := s.programs.erase slot },
        gone.record⟩ := by
  simp only [perform, run_withProgram, live, eraseProgram, Action.run_bind, Action.run_modify,
    run_onWorld, Action.run_pure, List.nil_append, List.append_nil]

/-- The slot is empty and everything in it released. -/
theorem perform_destroy (live : s.programs[slot]? = some p) :
    let gone := (p.destroy i).run s.world
    (perform i (.destroy slot)).run s =
      ⟨.ok .done, { s with world := gone.state, programs := s.programs.erase slot },
        gone.record⟩ := by
  simp only [perform, run_withProgram, live, eraseProgram, Action.run_bind, Action.run_modify,
    run_onWorld, Action.run_pure, List.nil_append, List.append_nil]

theorem perform_newProgram {names : List String} {given : List (Stage n)} {rest : Slots (Stage n)}
    (taken : s.stages.takeAll names = some (given, rest)) :
    (perform i (.newProgram slot names)).run s =
      (onWorld (Program.new i given) >>= settleNewProgram slot).run { s with stages := rest } := by
  simp only [perform, run_withStages, taken]

theorem perform_ofSources (vertex fragment : String) :
    (perform i (.ofSources slot vertex fragment)).run s =
      (onWorld (Program.ofSources i vertex fragment) >>= settleNewProgram slot).run s := rfl

/-- A program that was not made receives no slot. -/
theorem run_settleNewProgram_of_fault
    {x : WorldAction δ κ n (Except ProgramError (Program n))} {e : ProgramError}
    (failed : ((onWorld x >>= settleNewProgram slot).run s).value = .error (.program e)) :
    (x.run s.world).value = .error e ∧
      (onWorld x >>= settleNewProgram slot).run s =
        ⟨.error (.program e), { s with world := (x.run s.world).state },
          (x.run s.world).record⟩ := by
  simp only [Action.run_bind, run_onWorld] at failed ⊢
  cases hmade : (x.run s.world).value with
  | ok p =>
    rw [hmade, settleNewProgram] at failed
    cases failed
  | error cause =>
    rw [hmade, settleNewProgram] at failed
    obtain rfl : cause = e := Fault.program.inj (Except.error.inj failed)
    simp only [settleNewProgram, Action.run_pure, List.append_nil, and_self]

end Shading.Session
