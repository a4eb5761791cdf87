import Shading.Program.Uniforms
import Shading.Proofs.InMemory.Device

/-!
# Uniform access on the device in memory

Writing a uniform is planned first: every check is made, the location is found, and the upload is
chosen. Only a plan that succeeded reaches the device. Reading a uniform never changes anything.
-/

namespace Shading.Program

open Shading.Uniform

variable {n : Nat} (p : Program n) (name : String) (c : Context InMemory)

/-- Accesses that depend on the device in memory. -/
abbrev Access (α : Type) : Type :=
  AccessAction InMemory Request α

def describe : Except UniformError Descriptor :=
  if p.isAccessible c then
    if name ∈ (c.device.programs[p.handle]?.map InMemory.Image.active).getD [] then
      match p.uniforms[name]? with
      | some d => .ok d
      | none => .error (.undeclared name)
    else .error (.notActive name)
  else .error .unbound

/-- Where a name is, or the error of an access that needs to know. -/
def locate : Except UniformError Int :=
  match InMemory.locationOf p.handle name c.device with
  | some location => .ok location
  | none => .error (.locationNotFound name)

/-- What a write will upload, and where. -/
def planWrite (data : Data) : Except UniformError (Int × Nat × Upload) := do
  let d ← p.describe name c
  let data ← prepare name d data
  let location ← p.locate name c
  match Upload.ofData d data with
  | some upload => .ok (location, d.arrayLength, upload)
  | none => .error (.oneWideMatrix name)

/-- The locations of `count` elements from the one with number `first` on. -/
def locateElements (first count : Nat) : Except UniformError (List Int) :=
  (List.range' first count).mapM fun i ↦ p.locate (elementName name i) c

/-- What a query of a program's location answers. -/
def cellsAt (location : Int) (size : Nat) : List Cell :=
  Cell.fill size (InMemory.query p.handle location c.device)

/-- The value that the cells at the locations make. -/
def readElements (d : Descriptor) (locations : List Int) : Value :=
  match d.storageType with
  | .int => .ofInts (locations.flatMap fun l ↦ (p.cellsAt c l d.elementLen).map Cell.toInt32)
  | .float => .ofFloatElements d
      (locations.map fun l ↦ (p.cellsAt c l d.elementLen).map Cell.toBinary32)

/-- The locations that a read will query, and what for. -/
def planRead : Except UniformError (Descriptor × List Int) := do
  let d ← p.describe name c
  reserve d
  let first ← p.locate name c
  let others ← p.locateElements name c 1 (d.arrayLength - 1)
  return (d, first :: others)

/-- What a read answers, told without running it. -/
def readValue : Except UniformError Value := do
  let (d, locations) ← p.planRead name c
  return p.readElements c d locations

/-- A computation that succeeds has gone through both of its steps. -/
theorem of_bind_eq_ok {ε α β : Type} {x : Except ε α} {f : α → Except ε β} {b : β}
    (h : x >>= f = .ok b) : ∃ a, x = .ok a ∧ f a = .ok b := by
  cases x with
  | ok a => exact ⟨a, rfl, h⟩
  | error e => cases h

section Success

variable {p name c} {d : Descriptor} {location : Int}

/-- A descriptor is handed out only by a program that is current, linked and knows the name. -/
theorem of_describe_eq_ok (h : p.describe name c = .ok d) :
    c.current = some p.id ∧ p.linkState = .linked ∧ p.uniforms[name]? = some d := by
  unfold describe at h
  split at h
  · rename_i haccess
    split at h
    · split at h
      · rename_i e he
        simp only [isAccessible, decide_eq_true_eq] at haccess
        rw [← Except.ok.inj h]
        exact ⟨haccess.2.1, haccess.2.2, he⟩
      · cases h
    · cases h
  · cases h

theorem of_locate_eq_ok (h : p.locate name c = .ok location) :
    ∃ image, c.device.programs[p.handle]? = some image ∧
      image.locations[name]? = some location := by
  unfold locate at h
  split at h
  · rename_i found hfound
    unfold InMemory.locationOf at hfound
    split at hfound
    · cases hfound
    · rw [← Except.ok.inj h]
      exact Option.bind_eq_some_iff.1 hfound
  · cases h

/-- Components that pass the checks are as many as they should be and of the stored type. -/
theorem of_prepare_eq_ok {data wide : Data} (h : prepare name d data = .ok wide) :
    data.length = d.len ∧ data.coerce d.storageType = some wide := by
  unfold prepare at h
  split at h
  · rename_i hlength
    split at h
    · rename_i found hfound
      rw [← Except.ok.inj h]
      exact ⟨hlength, hfound⟩
    · cases h
  · cases h

/-- A write that was planned has passed every check. -/
theorem of_planWrite_eq_ok {data : Data} {count : Nat} {upload : Upload}
    (h : p.planWrite name c data = .ok (location, count, upload)) :
    ∃ d wide, p.describe name c = .ok d ∧ p.locate name c = .ok location ∧
      count = d.arrayLength ∧ data.length = d.len ∧ data.coerce d.storageType = some wide ∧
        Upload.ofData d wide = some upload := by
  unfold planWrite at h
  obtain ⟨d, hd, h⟩ := of_bind_eq_ok h
  obtain ⟨wide, hprepared, h⟩ := of_bind_eq_ok h
  obtain ⟨first, hl, h⟩ := of_bind_eq_ok h
  obtain ⟨hlength, hwide⟩ := of_prepare_eq_ok hprepared
  split at h
  · rename_i made hupload
    obtain ⟨rfl, hrest⟩ := Prod.mk.inj (Except.ok.inj h)
    obtain ⟨rfl, rfl⟩ := Prod.mk.inj hrest
    exact ⟨d, wide, hd, hl, rfl, hlength, hwide, hupload⟩
  · cases h

/-- A read that was planned has a location for every element. -/
theorem of_planRead_eq_ok {locations : List Int} (h : p.planRead name c = .ok (d, locations)) :
    ∃ first others, p.describe name c = .ok d ∧ p.locate name c = .ok first ∧
      p.locateElements name c 1 (d.arrayLength - 1) = .ok others ∧
        locations = first :: others := by
  unfold planRead at h
  obtain ⟨e, hd, h⟩ := of_bind_eq_ok h
  obtain ⟨_, -, h⟩ := of_bind_eq_ok h
  obtain ⟨first, hfirst, h⟩ := of_bind_eq_ok h
  obtain ⟨others, hothers, h⟩ := of_bind_eq_ok h
  obtain ⟨rfl, rfl⟩ := Prod.mk.inj (Except.ok.inj h)
  exact ⟨first, others, hd, hfirst, hothers, rfl⟩

end Success

/-- An access that comes to an answer and leaves the context in a given state. -/
def Yields {α : Type} (x : Access α) (c : Context InMemory) (answer : Except UniformError α)
    (c' : Context InMemory) : Prop :=
  (x.run.run c).value = answer ∧ (x.run.run c).state = c'

namespace Yields

variable {α β : Type} {x : Access α} {f : α → Access β} {c c' c'' : Context InMemory}

theorem pure (a : α) (c : Context InMemory) : Yields (Pure.pure a) c (.ok a) c :=
  ⟨rfl, rfl⟩

theorem ofExcept (answer : Except UniformError α) (c : Context InMemory) :
    Yields (liftM answer) c answer c :=
  ⟨rfl, rfl⟩

theorem lift {y : ContextAction InMemory Request α} {a : α}
    (hy : (y.run c).value = a ∧ (y.run c).state = c') : Yields (ExceptT.lift y) c (.ok a) c' := by
  obtain ⟨rfl, rfl⟩ := hy
  exact ⟨rfl, rfl⟩

/-- The second step goes on where the first has ended. -/
theorem bind_ok {a : α} {answer : Except UniformError β} (hx : Yields x c (.ok a) c')
    (hf : Yields (f a) c' answer c'') : Yields (x >>= f) c answer c'' := by
  unfold Yields at *
  rw [ExceptT.run_bind, Action.run_bind, hx.1, hx.2]
  exact hf

/-- A first step that fails is the whole access. -/
theorem bind_error {e : UniformError} (hx : Yields x c (.error e) c') :
    Yields (x >>= f) c (.error e) c' := by
  unfold Yields at *
  rw [ExceptT.run_bind, Action.run_bind, hx.1, hx.2]
  exact ⟨rfl, rfl⟩

/-- Accesses that change nothing compose like their answers. -/
theorem bind {answer : Except UniformError α} {g : α → Except UniformError β}
    (hx : Yields x c answer c) (hf : ∀ a, Yields (f a) c (g a) c) :
    Yields (x >>= f) c (answer >>= g) c := by
  cases answer with
  | ok a => exact bind_ok hx (hf a)
  | error e => exact bind_error hx

end Yields

theorem yields_accessibleDescriptor :
    Yields (p.accessibleDescriptor name) c (p.describe name c) c := by
  unfold Yields accessibleDescriptor describe
  by_cases haccess : p.isAccessible c = true
  · by_cases hactive : name ∈ (c.device.programs[p.handle]?.map InMemory.Image.active).getD []
    · cases p.uniforms[name]? <;> simp [haccess, hactive, Context.activeUniforms]
    · simp [haccess, hactive, Context.activeUniforms]
  · simp [haccess]

theorem yields_location : Yields (p.location name) c (p.locate name c) c := by
  unfold Yields location locate
  cases hlocation : InMemory.locationOf p.handle name c.device <;>
    simp [Context.uniformLocation, hlocation]

theorem yields_elementLocations (first count : Nat) :
    Yields (p.elementLocations name first count) c (p.locateElements name c first count) c := by
  induction count generalizing first with
  | zero => exact .pure [] c
  | succ count ih =>
    rw [elementLocations, locateElements, List.range'_succ, List.mapM_cons]
    apply Yields.bind (p.yields_location _ c)
    intro location
    exact .bind (ih (first + 1)) fun others ↦ .pure _ c

theorem run_queryInts (location : Int) (size : Nat) :
    ((Context.queryInts p.handle location size).run c).value.toList =
        (p.cellsAt c location size).map Cell.toInt32 ∧
      ((Context.queryInts p.handle location size).run c).state = c := by
  rw [Context.queryInts, Context.run_ask]
  exact ⟨rfl, rfl⟩

theorem run_queryFloats (location : Int) (size : Nat) :
    ((Context.queryFloats p.handle location size).run c).value.toList =
        (p.cellsAt c location size).map Cell.toBinary32 ∧
      ((Context.queryFloats p.handle location size).run c).state = c := by
  rw [Context.queryFloats, Context.run_ask]
  exact ⟨rfl, rfl⟩

/-- Actions that leave the state alone can be run each by itself. -/
theorem run_mapM_of_state_eq {α β : Type} {f : α → ContextAction InMemory Request β}
    {c : Context InMemory} (h : ∀ a, ((f a).run c).state = c) (xs : List α) :
    ((xs.mapM f).run c).value = xs.map (fun a ↦ ((f a).run c).value) ∧
      ((xs.mapM f).run c).state = c := by
  induction xs with
  | nil => exact ⟨rfl, rfl⟩
  | cons x xs ih =>
    obtain ⟨hvalue, hstate⟩ := ih
    rw [List.mapM_cons]
    simp only [Action.run_bind, h, Action.run_pure, hvalue, hstate, List.map_cons, and_self]

theorem run_queryElements (d : Descriptor) (locations : List Int) :
    ((p.queryElements d locations : ContextAction InMemory Request Value).run c).value =
        p.readElements c d locations ∧
      ((p.queryElements d locations : ContextAction InMemory Request Value).run c).state = c := by
  unfold queryElements readElements
  cases d.storageType with
  | int =>
    obtain ⟨hvalue, hstate⟩ := run_mapM_of_state_eq (c := c)
      (f := fun location ↦ Context.queryInts p.handle location d.elementLen)
      (fun location ↦ (p.run_queryInts c location d.elementLen).2) locations
    simp only [Action.run_bind, Action.run_pure, hvalue, hstate, List.map_map, and_true]
    rw [← List.flatMap_def]
    congr 1
  | float =>
    obtain ⟨hvalue, hstate⟩ := run_mapM_of_state_eq (c := c)
      (f := fun location ↦ Context.queryFloats p.handle location d.elementLen)
      (fun location ↦ (p.run_queryFloats c location d.elementLen).2) locations
    simp only [Action.run_bind, Action.run_pure, hvalue, hstate, List.map_map, and_true]
    congr 1

/-- A read is its plan, and changes nothing. -/
theorem yields_getUniform : Yields (p.getUniform name) c (p.readValue name c) c := by
  unfold getUniform readValue planRead
  simp only [bind_assoc, pure_bind]
  apply Yields.bind (p.yields_accessibleDescriptor name c)
  intro d
  apply Yields.bind (.ofExcept _ c)
  intro _
  apply Yields.bind (p.yields_location name c)
  intro first
  apply Yields.bind (p.yields_elementLocations name c 1 _)
  intro others
  apply Yields.bind_ok (a := ()) (.lift ⟨rfl, rfl⟩)
  exact .lift (p.run_queryElements c d (first :: others))

/-- The context after a write that was planned. -/
def afterWrite (plan : Except UniformError (Int × Nat × Upload)) : Context InMemory :=
  match plan with
  | .ok (location, count, data) =>
    { c with device := InMemory.afterUpload location count data c.device }
  | .error _ => c

/-- A step of a plan that changes nothing. -/
theorem Yields.bind_plan {α : Type} {x : Access α} {f : α → Access Unit}
    {c : Context InMemory} {answer : Except UniformError α}
    {plan : α → Except UniformError (Int × Nat × Upload)} (hx : Yields x c answer c)
    (hf : ∀ a, Yields (f a) c ((plan a).map fun _ ↦ ()) (afterWrite c (plan a))) :
    Yields (x >>= f) c ((answer >>= plan).map fun _ ↦ ()) (afterWrite c (answer >>= plan)) := by
  cases answer with
  | ok a => exact bind_ok hx (hf a)
  | error e => exact bind_error hx

/-- A write is its plan, and changes what the plan says. -/
theorem yields_setUniform (value : HostValue) :
    Yields (p.setUniform name value) c ((p.planWrite name c value.toData).map fun _ ↦ ())
      (afterWrite c (p.planWrite name c value.toData)) := by
  unfold setUniform planWrite
  apply Yields.bind_plan (p.yields_accessibleDescriptor name c)
  intro d
  apply Yields.bind_plan (.ofExcept _ c)
  intro data
  apply Yields.bind_plan (p.yields_location name c)
  intro location
  apply Yields.bind_ok (a := ()) (.lift ⟨rfl, rfl⟩)
  cases Upload.ofData d data with
  | none => exact ⟨rfl, rfl⟩
  | some upload =>
    apply Yields.lift
    rw [Context.upload, Context.run_ask]
    exact ⟨rfl, rfl⟩

end Shading.Program
