import Shading.Program.Uniforms
import Shading.Proofs.Requests

/-!
# Quiet actions

An action is quiet if it touches nothing of its context but the device, and asks the device neither
to attach a stage nor to link. Every access to a uniform is quiet, on any device.
-/

namespace Shading

open Shading.Uniform

/-- Requests that belong to an attempt to link. -/
def Request.links : Request → Bool
  | attachStage .. | linkProgram .. => true
  | _ => false

variable {δ κ α β : Type}

/-- An action that links nothing and leaves the context's own record alone. -/
def Quiet (x : ContextAction δ κ α) : Prop :=
  ∀ c, (∃ device, (x.run c).state = { c with device }) ∧
    ∀ request ∈ requests (x.run c).record, request.links = false

namespace Quiet

variable {x : ContextAction δ κ α} {f : α → ContextAction δ κ β}

theorem current_eq (hx : Quiet x) (c : Context δ) : (x.run c).state.current = c.current := by
  obtain ⟨⟨device, hstate⟩, -⟩ := hx c
  rw [hstate]

theorem pure (a : α) : Quiet (Pure.pure a : ContextAction δ κ α) := by
  intro c
  exact ⟨⟨c.device, rfl⟩, by simp⟩

theorem note (level : Level) (text : String) :
    Quiet (Action.note level text : ContextAction δ κ Unit) := by
  intro c
  exact ⟨⟨c.device, rfl⟩, by simp⟩

/-- A request that does not link is quiet. -/
theorem ask (x : Action κ δ α) {request : α → Request} (h : ∀ a, (request a).links = false) :
    Quiet (Context.ask x request) := by
  intro c
  rw [Context.run_ask]
  refine ⟨⟨_, rfl⟩, ?_⟩
  intro r hr
  simp only [requests_append, requests_map_issued, requests_cons_request, requests_nil,
    List.nil_append, List.mem_singleton] at hr
  rw [hr]
  exact h _

theorem bind (hx : Quiet x) (hf : ∀ a, Quiet (f a)) : Quiet (x >>= f) := by
  intro c
  obtain ⟨⟨first, hfirst⟩, hasked⟩ := hx c
  obtain ⟨⟨second, hsecond⟩, hothers⟩ := hf (x.run c).value (x.run c).state
  rw [Action.run_bind, requests_append]
  refine ⟨⟨second, ?_⟩, ?_⟩
  · rw [hsecond, hfirst]
  · intro request hrequest
    rcases List.mem_append.1 hrequest with h | h
    · exact hasked request h
    · exact hothers request h

theorem map (g : α → β) (hx : Quiet x) : Quiet (g <$> x) := by
  intro c
  rw [Action.run_map]
  exact hx c

theorem mapM (hf : ∀ a, Quiet (f a)) (xs : List α) : Quiet (xs.mapM f) := by
  induction xs with
  | nil => exact .pure []
  | cons x xs ih =>
    rw [List.mapM_cons]
    exact .bind (hf x) fun _ ↦ .bind ih fun _ ↦ .pure _

/-- An access that may fail is quiet if each of its steps is. -/
theorem access_bind {x : AccessAction δ κ α} {f : α → AccessAction δ κ β} (hx : Quiet x.run)
    (hf : ∀ a, Quiet (f a).run) : Quiet (x >>= f).run := by
  rw [ExceptT.run_bind]
  apply Quiet.bind hx
  intro answer
  cases answer with
  | ok a => exact hf a
  | error e => exact .pure _

end Quiet

namespace Program

variable [Device δ κ] {n : Nat} (p : Program n) (name : String)

theorem quiet_accessibleDescriptor :
    Quiet (p.accessibleDescriptor name : AccessAction δ κ _).run := by
  unfold accessibleDescriptor
  have hget : Quiet (ExceptT.lift get : AccessAction δ κ (Context δ)).run := by
    intro c
    exact ⟨⟨c.device, rfl⟩, by simp⟩
  apply Quiet.access_bind hget
  intro c
  split
  · apply Quiet.access_bind (.map _ (.ask _ fun _ ↦ rfl))
    intro active
    split
    · split
      · exact .pure _
      · exact .pure _
    · exact .pure _
  · exact .pure _

theorem quiet_location : Quiet (p.location name : AccessAction δ κ _).run := by
  unfold location
  apply Quiet.access_bind (.map _ (.ask _ fun _ ↦ rfl))
  intro answer
  cases answer with
  | none => exact .pure _
  | some location => exact .pure _

theorem quiet_elementLocations (first count : Nat) :
    Quiet (p.elementLocations name first count : AccessAction δ κ _).run := by
  induction count generalizing first with
  | zero => exact .pure _
  | succ count ih =>
    exact .access_bind (p.quiet_location _) fun _ ↦ .access_bind (ih _) fun _ ↦ .pure _

/-- To write a uniform links nothing. -/
theorem quiet_setUniform (value : HostValue) :
    Quiet (p.setUniform name value : AccessAction δ κ _).run := by
  unfold setUniform
  apply Quiet.access_bind (p.quiet_accessibleDescriptor name)
  intro d
  apply Quiet.access_bind (.pure _)
  intro data
  apply Quiet.access_bind (p.quiet_location name)
  intro location
  apply Quiet.access_bind (.map _ (.note _ _))
  intro _
  split
  · exact .map _ (.ask _ fun _ ↦ rfl)
  · exact .pure _

theorem quiet_queryElements (d : Descriptor) (locations : List Int) :
    Quiet (p.queryElements d locations : ContextAction δ κ _) := by
  unfold queryElements
  cases d.storageType with
  | int => exact .bind (.mapM (fun _ ↦ .ask _ fun _ ↦ rfl) _) fun _ ↦ .pure _
  | float => exact .bind (.mapM (fun _ ↦ .ask _ fun _ ↦ rfl) _) fun _ ↦ .pure _

/-- Nor does to read one. -/
theorem quiet_getUniform : Quiet (p.getUniform name : AccessAction δ κ _).run := by
  unfold getUniform
  apply Quiet.access_bind (p.quiet_accessibleDescriptor name)
  intro d
  apply Quiet.access_bind (.pure _)
  intro _
  apply Quiet.access_bind (p.quiet_location name)
  intro first
  apply Quiet.access_bind (p.quiet_elementLocations name 1 _)
  intro others
  apply Quiet.access_bind (.map _ (.note _ _))
  intro _
  exact .map _ (p.quiet_queryElements d _)

end Program

end Shading
