import Shading.Proofs.InMemory.Access
import Shading.Proofs.Session.OneContext
import Shading.Proofs.Uniform.Values

/-!
# What a write uploads

A device trusts the count and the components of an upload without a check. A write that succeeds
has asked the device for its active uniforms and for the location, and then for one upload: by the
method that suits the descriptor, to the location that was just answered, with the components of
the value. Whatever the device answers, this follows from the checks made in between.

There are as many components as the method takes for the number of elements, as long as that many
can be counted in a word. Beyond that the count wraps around, and a few components pass for an array
of very many elements.
-/

namespace Shading

open Shading.Uniform

namespace Upload

variable {d : Descriptor} {data : Data} {upload : Upload}

end Upload

namespace Program

variable {δ κ α β : Type} {n : Nat} {p : Program n} {name : String} {c : Context δ}

/-- An access in two steps that succeeds has succeeded in both. -/
theorem of_access_bind_eq_ok {x : AccessAction δ κ α} {f : α → AccessAction δ κ β} {b : β}
    (h : ((x >>= f).run.run c).value = .ok b) :
    ∃ a, (x.run.run c).value = .ok a ∧
      ((f a).run.run (x.run.run c).state).value = .ok b ∧
        requests ((x >>= f).run.run c).record = requests (x.run.run c).record ++
          requests ((f a).run.run (x.run.run c).state).record := by
  rw [ExceptT.run_bind, Action.run_bind] at h ⊢
  cases hx : (x.run.run c).value with
  | ok a =>
    rw [hx] at h
    exact ⟨a, rfl, h, by rw [requests_append]⟩
  | error e =>
    rw [hx] at h
    cases h

@[simp] theorem requests_run_ofExcept (answer : Except UniformError α) (c : Context δ) :
    requests ((liftM answer : AccessAction δ κ α).run.run c).record = [] := rfl

variable [Device δ κ]

/-- A descriptor is that of the table, and only the active uniforms were asked for. -/
theorem of_accessibleDescriptor_eq_ok {d : Descriptor}
    (h : ((p.accessibleDescriptor name : AccessAction δ κ _).run.run c).value = .ok d) :
    p.uniforms[name]? = some d ∧
      requests ((p.accessibleDescriptor name : AccessAction δ κ _).run.run c).record =
        [.activeUniforms p.handle] := by
  unfold accessibleDescriptor at h ⊢
  obtain ⟨_, hget, h, hrequests⟩ := of_access_bind_eq_ok h
  obtain rfl := Except.ok.inj hget
  rw [hrequests]
  split at h
  · rename_i haccess
    rw [if_pos haccess]
    obtain ⟨active, -, h, hasked⟩ := of_access_bind_eq_ok h
    rw [hasked]
    split at h
    · rename_i hactive
      rw [if_pos hactive]
      cases hdescriptor : p.uniforms[name]? with
      | some e =>
        rw [hdescriptor] at h
        refine ⟨congrArg some (Except.ok.inj h), ?_⟩
        simp [Context.activeUniforms]
      | none =>
        rw [hdescriptor] at h
        cases h
    · cases h
  · cases h

end Program

/-- An array of two matrices is declared and its program bound. -/
def turningRun : List (Move 1 (List InMemory.Settings.Setting)) :=
  [.perform 0 (.ofSources "program" "uniform mat2 turns[2];" "uniform int count;"),
    .perform 0 (.bind "program")]

/-- Eight integers, nested. -/
def turns : HostValue :=
  .ints (.node [.node [.leaf 1, .leaf 2, .leaf 3, .leaf 4], .node [.leaf 5, .leaf 6, .leaf 7],
    .leaf 8])

end Shading
