import Shading.Proofs.Program.Writing

/-!
# Accesses that fail

A write or a read that fails has asked the device for its active uniforms and for locations at
most. Where it failed shows in the error: at the descriptor, at the components or the room for the
locations, at a location, or at the choice of a method.
-/

namespace Shading

open Shading.Uniform

/-- Requests that look for a uniform and touch none. -/
def Request.inquires : Request → Bool
  | activeUniforms _ | uniformLocation .. => true
  | _ => false

/-- Errors of an access that does not come to a descriptor. -/
def UniformError.deniesAccess : UniformError → Bool
  | unbound | notActive _ | undeclared _ => true
  | _ => false

namespace Program

variable {δ κ α β : Type} {n : Nat} {p : Program n} {name : String} {c : Context δ}

/-- An access in two steps that fails has failed in the second, or has not come to it. -/
theorem of_access_bind_eq_error {x : AccessAction δ κ α} {f : α → AccessAction δ κ β}
    {e : UniformError} (h : ((x >>= f).run.run c).value = .error e) :
    ((x.run.run c).value = .error e ∧ ((x >>= f).run.run c).record = (x.run.run c).record) ∨
      ∃ a, (x.run.run c).value = .ok a ∧
        ((f a).run.run (x.run.run c).state).value = .error e ∧
          ((x >>= f).run.run c).record = (x.run.run c).record ++
            ((f a).run.run (x.run.run c).state).record := by
  rw [ExceptT.run_bind, Action.run_bind] at h ⊢
  cases hx : (x.run.run c).value with
  | ok a =>
    rw [hx] at h
    exact .inr ⟨a, rfl, h, rfl⟩
  | error other =>
    rw [hx] at h
    obtain rfl : other = e := Except.error.inj h
    exact .inl ⟨rfl, List.append_nil _⟩

theorem access_bind_eq_error {x : AccessAction δ κ α} {f : α → AccessAction δ κ β}
    {e : UniformError} (h : (x.run.run c).value = .error e) :
    ((x >>= f).run.run c).value = .error e := by
  rw [ExceptT.run_bind, Action.run_bind, h]
  rfl

/-- What is done in any case does not fail. -/
theorem access_lift_ne_error (x : ContextAction δ κ α) (e : UniformError) :
    ((ExceptT.lift x : AccessAction δ κ α).run.run c).value ≠ .error e := by
  rintro ⟨⟩

theorem of_prepare_eq_error {d : Descriptor} {data : Data} {e : UniformError}
    (h : prepare name d data = .error e) :
    (data.length ≠ d.len ∧ e = .arityMismatch name d.len data.length) ∨
      (data.length = d.len ∧ data.coerce d.storageType = none ∧
        e = .typeMismatch name d.storageType) := by
  unfold prepare at h
  split at h
  · rename_i hlength
    split at h
    · cases h
    · rename_i hcoerce
      exact .inr ⟨hlength, hcoerce, (Except.error.inj h).symm⟩
  · rename_i hlength
    exact .inl ⟨hlength, (Except.error.inj h).symm⟩

theorem of_reserve_eq_error {d : Descriptor} {e : UniformError} (h : reserve d = .error e) :
    locationLimit ≤ d.arrayLength ∧ e = .capacityOverflow := by
  unfold reserve at h
  split at h
  · cases h
  · rename_i hlimit
    exact ⟨Nat.le_of_not_lt hlimit, (Except.error.inj h).symm⟩

/-- An access that only inquires, whatever comes of it. -/
def Inquires (x : AccessAction δ κ α) : Prop :=
  ∀ c, ∀ request ∈ requests (x.run.run c).record, request.inquires = true

namespace Inquires

variable {x : AccessAction δ κ α} {f : α → AccessAction δ κ β}

theorem ask (x : Action κ δ α) {request : α → Request} (h : ∀ a, (request a).inquires = true) :
    Inquires (ExceptT.lift (Context.ask x request) : AccessAction δ κ α) := by
  intro c r hr
  have hasked : requests ((ExceptT.lift (Context.ask x request) :
      AccessAction δ κ α).run.run c).record = [request (x.run c.device).value] := by
    simp
  rw [hasked, List.mem_singleton] at hr
  rw [hr]
  exact h _

theorem bind (hx : Inquires x) (hf : ∀ a, Inquires (f a)) : Inquires (x >>= f) := by
  intro c request hrequest
  rw [ExceptT.run_bind, Action.run_bind, requests_append] at hrequest
  rcases List.mem_append.1 hrequest with h | h
  · exact hx c request h
  · cases hvalue : (x.run.run c).value with
    | ok a =>
      rw [hvalue] at h
      exact hf a _ request h
    | error e =>
      rw [hvalue] at h
      cases h

end Inquires

variable [Device δ κ]

section Steps

variable (p : Program n) (name : String)

theorem value_accessibleDescriptor :
    ((p.accessibleDescriptor name : AccessAction δ κ _).run.run c).value =
      if p.isAccessible c then
        if name ∈ ((Context.activeUniforms p.handle : ContextAction δ κ _).run c).value then
          match p.uniforms[name]? with
          | some d => .ok d
          | none => .error (.undeclared name)
        else .error (.notActive name)
      else .error .unbound := by
  unfold accessibleDescriptor
  by_cases haccess : p.isAccessible c = true
  · by_cases hactive :
        name ∈ ((Device.activeUniforms p.handle : Action κ δ _).run c.device).value
    · cases p.uniforms[name]? <;> simp [haccess, hactive, Context.activeUniforms]
    · simp [haccess, hactive, Context.activeUniforms]
  · simp [haccess]

end Steps

theorem of_accessibleDescriptor_eq_error {e : UniformError}
    (h : ((p.accessibleDescriptor name : AccessAction δ κ _).run.run c).value = .error e) :
    (p.isAccessible c = false ∧ e = .unbound) ∨
      (p.isAccessible c = true ∧ (e = .notActive name ∨ e = .undeclared name)) := by
  rw [value_accessibleDescriptor] at h
  split at h
  · rename_i haccess
    refine .inr ⟨haccess, ?_⟩
    split at h
    · split at h
      · cases h
      · exact .inr (Except.error.inj h).symm
    · exact .inl (Except.error.inj h).symm
  · rename_i haccess
    exact .inl ⟨eq_false_of_ne_true haccess, (Except.error.inj h).symm⟩

/-- Where a write fails. -/
inductive WriteFault (p : Program n) (name : String) (data : Data) (c : Context δ) :
    UniformError → Prop
  | descriptor {e : UniformError}
      (h : ((p.accessibleDescriptor name : AccessAction δ κ _).run.run c).value = .error e) :
      WriteFault p name data c e
  | components {d : Descriptor} {e : UniformError} (table : p.uniforms[name]? = some d)
      (h : prepare name d data = .error e) : WriteFault p name data c e
  | location {d : Descriptor} {wide : Data} (table : p.uniforms[name]? = some d)
      (prepared : prepare name d data = .ok wide) :
      WriteFault p name data c (.locationNotFound name)
  | method {d : Descriptor} {wide : Data} (table : p.uniforms[name]? = some d)
      (prepared : prepare name d data = .ok wide) (h : Upload.ofData d wide = none) :
      WriteFault p name data c (.oneWideMatrix name)

theorem location_eq_error {e : UniformError}
    (h : ((p.location name : AccessAction δ κ _).run.run c).value = .error e) :
    e = .locationNotFound name := by
  unfold Program.location at h
  obtain ⟨hfailed, -⟩ | ⟨answer, -, h, -⟩ := of_access_bind_eq_error h
  · exact absurd hfailed (access_lift_ne_error _ _)
  · cases answer with
    | some location => cases h
    | none => exact (Except.error.inj h).symm

theorem writeFault_of_eq_error {value : HostValue} {e : UniformError}
    (h : ((p.setUniform name value : AccessAction δ κ _).run.run c).value = .error e) :
    WriteFault p name value.toData c e := by
  unfold setUniform at h
  obtain ⟨hfailed, -⟩ | ⟨d, hd, h, -⟩ := of_access_bind_eq_error h
  · exact .descriptor hfailed
  have table := (of_accessibleDescriptor_eq_ok hd).1
  obtain ⟨hfailed, -⟩ | ⟨wide, hwide, h, -⟩ := of_access_bind_eq_error h
  · exact .components table hfailed
  obtain ⟨hfailed, -⟩ | ⟨location, -, h, -⟩ := of_access_bind_eq_error h
  · rw [location_eq_error hfailed]
    exact .location table hwide
  obtain ⟨hfailed, -⟩ | ⟨_, -, h, -⟩ := of_access_bind_eq_error h
  · exact absurd hfailed (access_lift_ne_error _ _)
  cases hupload : Upload.ofData d wide with
  | some upload =>
    rw [hupload] at h
    exact absurd h (access_lift_ne_error _ _)
  | none =>
    rw [hupload] at h
    rw [← Except.error.inj h]
    exact .method table hwide hupload

theorem setUniform_eq_error_iff {value : HostValue} {e : UniformError}
    (he : e.deniesAccess = true) :
    ((p.setUniform name value : AccessAction δ κ _).run.run c).value = .error e ↔
      ((p.accessibleDescriptor name : AccessAction δ κ _).run.run c).value = .error e := by
  refine ⟨fun h ↦ ?_, access_bind_eq_error⟩
  cases writeFault_of_eq_error h with
  | descriptor h => exact h
  | components _ h =>
    rcases of_prepare_eq_error h with ⟨-, rfl⟩ | ⟨-, -, rfl⟩
    · cases he
    · cases he
  | location => cases he
  | method => cases he

theorem elementLocations_eq_error {first count : Nat} {e : UniformError}
    (h : ((p.elementLocations name first count : AccessAction δ κ _).run.run c).value = .error e) :
    ∃ i, e = .locationNotFound (elementName name i) := by
  induction count generalizing first c with
  | zero => cases h
  | succ count ih =>
    rw [elementLocations] at h
    obtain ⟨hfailed, -⟩ | ⟨location, -, h, -⟩ := of_access_bind_eq_error h
    · exact ⟨first, location_eq_error hfailed⟩
    · obtain ⟨hfailed, -⟩ | ⟨others, -, h, -⟩ := of_access_bind_eq_error h
      · exact ih hfailed
      · cases h

/-- Where a read fails. -/
inductive ReadFault (p : Program n) (name : String) (c : Context δ) : UniformError → Prop
  | descriptor {e : UniformError}
      (h : ((p.accessibleDescriptor name : AccessAction δ κ _).run.run c).value = .error e) :
      ReadFault p name c e
  | room {d : Descriptor} (table : p.uniforms[name]? = some d)
      (h : locationLimit ≤ d.arrayLength) : ReadFault p name c .capacityOverflow
  | first : ReadFault p name c (.locationNotFound name)
  | element (i : Nat) : ReadFault p name c (.locationNotFound (elementName name i))

theorem readFault_of_eq_error {e : UniformError}
    (h : ((p.getUniform name : AccessAction δ κ _).run.run c).value = .error e) :
    ReadFault p name c e := by
  unfold getUniform at h
  obtain ⟨hfailed, -⟩ | ⟨d, hd, h, -⟩ := of_access_bind_eq_error h
  · exact .descriptor hfailed
  obtain ⟨hfailed, -⟩ | ⟨_, -, h, -⟩ := of_access_bind_eq_error h
  · obtain ⟨hlimit, rfl⟩ := of_reserve_eq_error hfailed
    exact .room (of_accessibleDescriptor_eq_ok hd).1 hlimit
  obtain ⟨hfailed, -⟩ | ⟨first, -, h, -⟩ := of_access_bind_eq_error h
  · rw [location_eq_error hfailed]
    exact .first
  obtain ⟨hfailed, -⟩ | ⟨others, -, h, -⟩ := of_access_bind_eq_error h
  · obtain ⟨i, rfl⟩ := elementLocations_eq_error hfailed
    exact .element i
  obtain ⟨hfailed, -⟩ | ⟨_, -, h, -⟩ := of_access_bind_eq_error h
  · exact absurd hfailed (access_lift_ne_error _ _)
  · exact absurd h (access_lift_ne_error _ _)

theorem getUniform_eq_error_iff {e : UniformError} (he : e.deniesAccess = true) :
    ((p.getUniform name : AccessAction δ κ _).run.run c).value = .error e ↔
      ((p.accessibleDescriptor name : AccessAction δ κ _).run.run c).value = .error e := by
  refine ⟨fun h ↦ ?_, access_bind_eq_error⟩
  cases readFault_of_eq_error h with
  | descriptor h => exact h
  | room | first | element => cases he

end Program

end Shading
