import Shading.Proofs.InMemory.Calls
import Shading.Proofs.InMemory.Contexts
import Shading.Proofs.InMemory.CurrentProgram
import Shading.Proofs.Program.Reading

/-!
# Refused accesses

A write or a read makes its checks in a fixed order, before it does anything, and is refused at the
first check that fails. On the device in memory the checks can be told from the state: whether the
program is the current one, whether its device lists the name as active and its table has it, what
the components are, and which names have a location. A refused access leaves everything as it is.

A write compares with a number of components that may have wrapped around, and a read of an array
beyond all bounds ends at the room for its locations. Below those sizes the checks are the plain
ones.
-/

namespace Shading

open Shading.Uniform World

/-- Whether a check fails, and the error of an access that fails it. -/
abbrev Check : Type :=
  Bool × UniformError

/-- The error of the first check that fails. -/
def firstFailing (checks : List Check) : Option UniformError :=
  (checks.find? Prod.fst).map Prod.snd

@[simp] theorem firstFailing_nil : firstFailing [] = none := rfl

@[simp] theorem firstFailing_cons (failed : Bool) (e : UniformError) (rest : List Check) :
    firstFailing ((failed, e) :: rest) = if failed then some e else firstFailing rest := by
  cases failed <;> rfl

/-- The error of an answer that is one. -/
def faultOf {α : Type} : Except UniformError α → Option UniformError
  | .ok _ => none
  | .error e => some e

section FaultOf

variable {α β : Type} {answer : Except UniformError α}

theorem faultOf_eq_some_iff {e : UniformError} : faultOf answer = some e ↔ answer = .error e := by
  cases answer <;> simp [faultOf]

end FaultOf

namespace Program

variable {n : Nat} (p : Program n) (name : String) (c : Context InMemory)

section Faults

variable {p name c} {d : Descriptor}

end Faults

section Sizes

variable {p name c}

end Sizes

end Program

namespace InMemory

/-- An operation that succeeds if none of its checks fails, and is otherwise refused by the first
that does: then all is as it was, nothing was asked of the device but which names it lists and where
they are, and nothing at all if the program is not the current one. -/
structure CheckedBy (checks : List Check) (s : Session InMemory 1)
    (run : Outcome (Fin 1 × Traffic Request) (Session InMemory 1) Answer) : Prop where
  granted : firstFailing checks = none ↔ ∃ reply, run.value = .ok reply
  refused (e : UniformError) : firstFailing checks = some e ↔ run.value = .error (.uniform e)
  unchanged {e : UniformError} (h : firstFailing checks = some e) : run.state = s
  inquired {e : UniformError} (h : firstFailing checks = some e) :
    ∀ traffic, (0, traffic) ∈ callsOf run.record →
      ∃ request, traffic = .request request ∧ request.inquires = true
  silent (h : firstFailing checks = some .unbound) : run.record = []

/-- What is known of an access by itself carries over to the operation of the session. -/
theorem CheckedBy.of_access {α : Type} {checks : List Check} {s : Session InMemory 1}
    {f : α → Shading.Reply}
    {access : Outcome (Traffic Request) (Context InMemory) (Except UniformError α)}
    (fault : faultOf access.value = firstFailing checks)
    (state : ∀ e, access.value = .error e → access.state = context 0 s.world)
    (inquires : ∀ e, access.value = .error e →
      ∀ request ∈ requests access.record, request.inquires = true)
    (issued : issuedOf (callsOf access.record) = [])
    (silent : access.value = .error .unbound → access.record = []) :
    CheckedBy checks s ⟨(access.value.map f).mapError .uniform,
      { s with world := s.world.set 0 access.state Nat.one_pos },
        access.record.map (Entry.map (0, ·))⟩ := by
  have hvalue : ∀ e, firstFailing checks = some e → access.value = .error e :=
    fun e h ↦ faultOf_eq_some_iff.1 (fault.trans h)
  refine ⟨?_, ?_, ?_, ?_, ?_⟩
  · rw [← fault]
    cases access.value <;> simp [faultOf, Except.map, Except.mapError]
  · intro e
    rw [← fault]
    cases access.value <;> simp [faultOf, Except.map, Except.mapError]
  · intro e h
    have hworld : s.world.set 0 (context 0 s.world) Nat.one_pos = s.world :=
      set_context_self s.world 0
    rw [state e (hvalue e h), hworld]
  · intro e h traffic htraffic
    rw [callsOf_map] at htraffic
    obtain ⟨inner, hinner, heq⟩ := List.mem_map.1 htraffic
    obtain rfl := (Prod.mk.inj heq).2
    cases inner with
    | request request =>
      exact ⟨request, rfl, inquires e (hvalue e h) request (mem_callsOf_iff.1 hinner)⟩
    | issued call =>
      have hmem : call ∈ issuedOf (callsOf access.record) :=
        List.mem_filterMap.2 ⟨_, hinner, rfl⟩
      rw [issued] at hmem
      cases hmem
  · intro h
    simp only [silent (hvalue _ h), List.map_nil]

/-- Only the first failing check counts. -/
theorem CheckedBy.congr {checks others : List Check} {s : Session InMemory 1}
    {run : Outcome (Fin 1 × Traffic Request) (Session InMemory 1) Answer}
    (heq : firstFailing checks = firstFailing others) (h : CheckedBy checks s run) :
    CheckedBy others s run := by
  refine ⟨?_, ?_, ?_, ?_, ?_⟩ <;> rw [← heq]
  exacts [h.granted, h.refused, fun he ↦ h.unchanged he, fun he ↦ h.inquired he, h.silent]

section Slot

variable {s : Session InMemory 1} {slot : String} {p : Program 1}

end Slot

end InMemory

end Shading
