import Shading.Proofs.Program.Linking
import Shading.World

/-!
# What making, growing and releasing a program do

A program that is made starts out with none of its stages attached and is linked at once. One that
grows is unlinked, and is bound again if it bears the mark of being bound. One that is released
clears the current program of its context only if that is the program itself.
-/

namespace Shading.Program

variable {δ κ : Type} [Device δ κ] {n : Nat}

/-- A program before its first attempt to link. -/
def fresh (id : ProgramId) (handle : Nat) (home : Fin n) (stages : List (Stage n)) : Program n where
  id := id
  handle := handle
  home := home
  stages := stages
  attached := 0
  linkState := .unlinked
  bound := false
  uniforms := ∅

def grow (p : Program n) (stage : Stage n) : Program n :=
  { p with stages := p.stages ++ [stage], linkState := .unlinked }

theorem run_assemble (i : Fin n) (stages : List (Stage n)) (c : Context δ) :
    let made := (Device.newProgram : Action κ δ Nat).run c.device
    let p := fresh ⟨c.nextId⟩ made.value i stages
    let linked := (p.submit : Action κ δ _).run made.state
    ((assemble i stages : ContextAction δ κ _).run c).value = p.settle linked.value ∧
      ((assemble i stages : ContextAction δ κ _).run c).state =
        { c with device := linked.state, nextId := c.nextId + 1 } ∧
      requests ((assemble i stages : ContextAction δ κ _).run c).record =
        .newProgram made.value :: p.linkRequests linked.value.isOk := by
  intro made p linked
  have hrun : (assemble i stages : ContextAction δ κ _).run c =
      let o := (p.link : ContextAction δ κ _).run
        { c with device := made.state, nextId := c.nextId + 1 }
      ⟨o.value, o.state, made.record.map (Entry.map .issued) ++
        [.call (.request (.newProgram made.value))] ++ o.record⟩ := by
    simp only [assemble, Context.newProgram, Action.run_bind, Context.run_ask, Context.run_newId,
      List.nil_append]
    rfl
  obtain ⟨hvalue, hstate, hrequests⟩ :=
    run_link (κ := κ) p { c with device := made.state, nextId := c.nextId + 1 }
  rw [hrun]
  refine ⟨hvalue, hstate, ?_⟩
  simp only [requests_append, requests_map_issued, requests_cons_request, requests_nil,
    List.nil_append, hrequests, List.cons_append]
  rfl

theorem run_append_of_bound {p : Program n} (h : p.bound = true) (stage : Stage n)
    (c : Context δ) :
    ((p.append stage : ContextAction δ κ _).run c).value =
        (((p.grow stage).bind : ContextAction δ κ _).run c).value ∧
      ((p.append stage : ContextAction δ κ _).run c).state =
        (((p.grow stage).bind : ContextAction δ κ _).run c).state ∧
      requests ((p.append stage : ContextAction δ κ _).run c).record =
        requests (((p.grow stage).bind : ContextAction δ κ _).run c).record := by
  simp [append, h, grow]

theorem run_append_of_not_bound {p : Program n} (h : p.bound = false) (stage : Stage n)
    (c : Context δ) :
    ((p.append stage : ContextAction δ κ _).run c).value = (p.grow stage, .ok ()) ∧
      ((p.append stage : ContextAction δ κ _).run c).state = c ∧
      requests ((p.append stage : ContextAction δ κ _).run c).record = [] := by
  simp [append, h, grow]

theorem run_retire (p : Program n) (c : Context δ) :
    ((p.retire : ContextAction δ κ _).run c).state =
        { c with
          device := ((Device.destroyProgram p.handle : Action κ δ _).run c.device).state
          current := if c.current = some p.id then none else c.current } ∧
      requests ((p.retire : ContextAction δ κ _).run c).record = [.destroyProgram p.handle] := by
  by_cases hcurrent : c.current = some p.id
  · simp [retire, isCurrent, hcurrent, Context.destroyProgram]
  · simp [retire, isCurrent, hcurrent, Context.destroyProgram]

end Shading.Program
