import Shading.Device.InMemory
import Shading.Proofs.Program.Linking

/-!
# Requests to the device in memory

What each request does to the device. Attaching, linking and uploading rewrite the image of one
program; queries leave the device as it is.
-/

namespace Shading.InMemory

open Shading.Uniform

variable {n : Nat}

namespace Image

/-- An image with more sources. -/
def attach (sources : List String) (image : Image) : Image :=
  { image with sources := image.sources ++ sources }

theorem attach_nil (image : Image) : image.attach [] = image := by
  rw [attach, List.append_nil]

/-- Whether a link of the image as it is would fail. -/
def refusesToLink (image : Image) : Bool :=
  image.sources.any fun source ↦ Shading.refusesToLink source.toList

/-- An image after an attempt to link it. -/
def relink (settings : Settings) (image : Image) : Image :=
  if image.refusesToLink then { image with linked := false } else image.link settings

end Image

section UpdateProgram

variable (program : Nat) (f : Image → Image) (device : InMemory)

@[simp] theorem current_updateProgram :
    (updateProgram program f device).current = device.current := by
  unfold updateProgram
  split <;> rfl

@[simp] theorem lastHandle_updateProgram :
    (updateProgram program f device).lastHandle = device.lastHandle := by
  unfold updateProgram
  split <;> rfl

@[simp] theorem settings_updateProgram :
    (updateProgram program f device).settings = device.settings := by
  unfold updateProgram
  split <;> rfl

/-- The other images stay as they are. -/
theorem programs_updateProgram (other : Nat) :
    (updateProgram program f device).programs[other]? =
      if program = other then device.programs[other]?.map f else device.programs[other]? := by
  unfold updateProgram
  cases himage : device.programs[program]? with
  | none =>
    by_cases h : program = other
    · subst h
      simp [himage]
    · simp [h]
  | some image =>
    rw [Std.ExtTreeMap.getElem?_insert]
    by_cases h : program = other
    · subst h
      simp [himage]
    · simp [h]

end UpdateProgram

/-- Inserting what is there already changes nothing. -/
theorem insert_of_getElem? {α β : Type} {cmp : α → α → Ordering} [Std.TransCmp cmp]
    [Std.LawfulEqCmp cmp] {map : Std.ExtTreeMap α β cmp} {key : α} {value : β}
    (h : map[key]? = some value) : map.insert key value = map := by
  apply Std.ExtTreeMap.ext_getElem?
  intro other
  rw [Std.ExtTreeMap.getElem?_insert]
  by_cases hkey : key = other
  · subst hkey
    simp [h]
  · simp [hkey]

/-- To change an image into itself changes nothing. -/
theorem updateProgram_of_fixed {program : Nat} {f : Image → Image} {device : InMemory}
    (h : ∀ image, device.programs[program]? = some image → f image = image) :
    updateProgram program f device = device := by
  unfold updateProgram
  split
  · rename_i image himage
    rw [h image himage, insert_of_getElem? himage]
  · rfl

theorem updateProgram_updateProgram (program : Nat) (f g : Image → Image) (device : InMemory) :
    updateProgram program g (updateProgram program f device) =
      updateProgram program (g ∘ f) device := by
  cases himage : device.programs[program]? with
  | none => simp [updateProgram, himage]
  | some image =>
    have htwice : (device.programs.insert program (f image)).insert program (g (f image)) =
        device.programs.insert program (g (f image)) := by
      apply Std.ExtTreeMap.ext_getElem?
      intro other
      simp only [Std.ExtTreeMap.getElem?_insert]
      split <;> rfl
    simp [updateProgram, himage, htwice]

/-- What the device does with a request. -/
abbrev Reply (α : Type) : Type :=
  Action Request InMemory α

@[simp] theorem run_useProgram (program : Option Nat) (device : InMemory) :
    (Device.useProgram program : Reply Unit).run device =
      ⟨(), { device with current := program }, []⟩ := rfl

@[simp] theorem run_attachStage (program : Nat) (stage : Shader) (device : InMemory) :
    (Device.attachStage program stage : Reply Unit).run device =
      ⟨(), updateProgram program (Image.attach [stage.source]) device, []⟩ := rfl

/-- Attaching stages one by one is attaching their sources at once. -/
theorem state_attachAll (program : Nat) (stages : List (Stage n)) (device : InMemory) :
    ((Program.attachAll program stages : Reply Unit).run device).state =
      updateProgram program (Image.attach (stages.map fun stage ↦ stage.source)) device := by
  unfold Program.attachAll
  induction stages generalizing device with
  | nil =>
    rw [Action.run_forM_nil, List.map_nil, updateProgram_of_fixed fun image _ ↦ image.attach_nil]
  | cons stage stages ih =>
    have hattach : Image.attach (stages.map fun stage ↦ stage.source) ∘
        Image.attach [stage.source] =
          Image.attach ((stage :: stages).map fun stage ↦ stage.source) := by
      funext image
      simp [Image.attach]
    rw [Action.run_forM_cons]
    simp only [run_attachStage]
    rw [ih, updateProgram_updateProgram, hattach]

theorem run_linkProgram (program : Nat) (device : InMemory) :
    ((Device.linkProgram program : Reply _).run device).value =
        (match device.programs[program]? with
          | none => .error .unknownProgram
          | some image => if image.refusesToLink then .error (.linkFailed linkLog) else .ok ()) ∧
      ((Device.linkProgram program : Reply _).run device).state =
        updateProgram program (Image.relink device.settings) device := by
  have hlink : (Device.linkProgram program : Reply _) = (do
      let device ← get
      match device.programs[program]? with
      | none => return .error .unknownProgram
      | some image =>
        if image.refusesToLink then
          set (updateProgram program (fun image ↦ { image with linked := false }) device)
          return .error (.linkFailed linkLog)
        else
          set (updateProgram program (Image.link device.settings) device)
          return .ok ()) := rfl
  rw [hlink, Action.run_bind, Action.run_get]
  cases himage : device.programs[program]? with
  | none => simp [updateProgram, himage]
  | some image =>
    by_cases hrefuses : image.refusesToLink = true
    · simp [hrefuses, updateProgram, himage, Image.relink]
    · simp [hrefuses, updateProgram, himage, Image.relink]

theorem record_linkProgram (program : Nat) (device : InMemory) :
    ((Device.linkProgram program : Reply _).run device).record = [] := by
  have hlink : (Device.linkProgram program : Reply _) = linkProgram program := rfl
  rw [hlink, linkProgram, Action.run_bind, Action.run_get]
  split
  · rfl
  · split <;> rfl

/-- The sources that are yet to be attached. -/
def newSources (p : Program n) : List String :=
  (p.stages.drop p.attached).map fun stage ↦ stage.source

theorem run_submit (p : Program n) (device : InMemory) :
    ((p.submit : Reply _).run device).value =
        (match device.programs[p.handle]? with
          | none => .error .unknownProgram
          | some image =>
            if (image.attach (newSources p)).refusesToLink then .error (.linkFailed linkLog)
            else .ok ()) ∧
      ((p.submit : Reply _).run device).state =
        updateProgram p.handle (Image.relink device.settings ∘ Image.attach (newSources p))
          device := by
  have hstate := state_attachAll p.handle (p.stages.drop p.attached) device
  rw [← newSources] at hstate
  rw [Program.run_submit]
  simp only [hstate]
  obtain ⟨hvalue, hlinked⟩ := run_linkProgram p.handle
    (updateProgram p.handle (Image.attach (newSources p)) device)
  constructor
  · rw [hvalue, programs_updateProgram, if_pos rfl]
    cases device.programs[p.handle]? <;> rfl
  · rw [hlinked, settings_updateProgram, updateProgram_updateProgram]

@[simp] theorem run_newProgram (device : InMemory) :
    (Device.newProgram : Reply Nat).run device =
      ⟨device.lastHandle + 1,
        { device with
          lastHandle := device.lastHandle + 1
          programs := device.programs.insert (device.lastHandle + 1) Image.empty }, []⟩ := rfl

theorem run_newStage (type : StageType) (sources : List String) (device : InMemory) :
    (Device.newStage type sources : Reply _).run device =
      if sources.any fun source ↦ refusesToCompile source.toList then
        ⟨.error (.compilationFailed type compileLog), device, []⟩
      else
        ⟨.ok (device.lastHandle + 1), { device with lastHandle := device.lastHandle + 1 }, []⟩ := by
  have hnew : (Device.newStage type sources : Reply _) = newStage type sources := rfl
  rw [hnew, newStage]
  split <;> rfl

theorem state_newStage (type : StageType) (sources : List String) (device : InMemory) :
    ((Device.newStage type sources : Reply _).run device).state = device ∨
      ((Device.newStage type sources : Reply _).run device).state =
        { device with lastHandle := device.lastHandle + 1 } := by
  rw [run_newStage]
  split
  · exact .inl rfl
  · exact .inr rfl

theorem run_destroyProgram (program : Nat) (device : InMemory) :
    (Device.destroyProgram program : Reply Unit).run device =
      ⟨(),
        { device with
          current := if device.current = some program then none else device.current
          programs := device.programs.erase program },
        if device.current = some program then [.call (.useProgram none)] else []⟩ := by
  have hdestroy : (Device.destroyProgram program : Reply Unit) = destroyProgram program := rfl
  rw [hdestroy]
  by_cases hcurrent : device.current = some program
  · simp [destroyProgram, hcurrent, useProgram]
  · simp [destroyProgram, hcurrent]

theorem state_destroyProgram (program : Nat) (device : InMemory) :
    ((Device.destroyProgram program : Reply Unit).run device).state =
      { device with
        current := if device.current = some program then none else device.current
        programs := device.programs.erase program } := by
  rw [run_destroyProgram]

@[simp] theorem run_destroyStage (stage : Nat) (device : InMemory) :
    (Device.destroyStage stage : Reply Unit).run device = ⟨(), device, []⟩ := rfl

@[simp] theorem run_isLinked (program : Nat) (device : InMemory) :
    (Device.isLinked program : Reply Bool).run device =
      ⟨(device.programs[program]?.map Image.linked).getD false, device, []⟩ := rfl

@[simp] theorem run_activeUniforms (program : Nat) (device : InMemory) :
    (Device.activeUniforms program : Reply _).run device =
      ⟨(device.programs[program]?.map Image.active).getD [], device, []⟩ := rfl

/-- A device whose program in use received an upload. -/
def afterUpload (location : Int) (count : Nat) (data : Upload) (device : InMemory) : InMemory :=
  match device.current with
  | some program => updateProgram program (Image.upload location count data) device
  | none => device

@[simp] theorem run_upload (location : Int) (count : Nat) (data : Upload) (device : InMemory) :
    (Device.upload location count data : Reply Unit).run device =
      ⟨(), afterUpload location count data device, []⟩ := rfl

@[simp] theorem current_afterUpload (location : Int) (count : Nat) (data : Upload)
    (device : InMemory) : (afterUpload location count data device).current = device.current := by
  unfold afterUpload
  split <;> simp

@[simp] theorem lastHandle_afterUpload (location : Int) (count : Nat) (data : Upload)
    (device : InMemory) :
    (afterUpload location count data device).lastHandle = device.lastHandle := by
  unfold afterUpload
  split <;> simp

def locationOf (program : Nat) (name : String) (device : InMemory) : Option Int :=
  if bareName name ∈ device.settings.noLocation then none
  else device.programs[program]?.bind fun image ↦ image.locations[name]?

@[simp] theorem run_uniformLocation (program : Nat) (name : String) (device : InMemory) :
    (Device.uniformLocation program name : Reply _).run device =
      ⟨locationOf program name device, device, []⟩ := by
  have hlocation : (Device.uniformLocation program name : Reply _) =
      uniformLocation program name := rfl
  rw [hlocation, locationOf]
  by_cases hhidden : bareName name ∈ device.settings.noLocation
  · simp [uniformLocation, hhidden]
  · simp [uniformLocation, hhidden]

end Shading.InMemory
