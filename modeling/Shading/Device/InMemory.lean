import Shading.Device.Basic
import Shading.Device.InMemory.Image

/-!
# A device in memory

This device keeps the images of its programs in a table. A source compiles unless it contains one
marker and links unless it contains another. Its calls repeat the requests, and a program that is
in use when it is destroyed is taken out of use by a request of the device itself.
-/

namespace Shading

open Shading.Uniform

/-- A device with the images of its programs, by handle, and the last handle it has given. -/
structure InMemory where
  settings : InMemory.Settings
  current : Option Nat
  lastHandle : Nat
  programs : Std.ExtTreeMap Nat InMemory.Image compare

namespace InMemory

def new (settings : Settings) : InMemory :=
  ⟨settings, none, 0, ∅⟩

def compileLog : String := "0:1(1): error: COMPILE_ERROR"

def linkLog : String := "error: LINK_ERROR"

/-- The cells at a location, or none if there is nothing. -/
def query (program : Nat) (location : Int) (device : InMemory) : List Cell :=
  match device.programs[program]? with
  | some image => image.storage[location]?.getD []
  | none => []

/-- Changes the image of a program; a program that is not known stays unknown. -/
def updateProgram (program : Nat) (f : Image → Image) (device : InMemory) : InMemory :=
  match device.programs[program]? with
  | some image => { device with programs := device.programs.insert program (f image) }
  | none => device

/-- A stage takes a handle only if it compiles. -/
def newStage (type : StageType) (sources : List String) :
    Action Request InMemory (Except StageError Nat) := do
  if sources.any fun source ↦ refusesToCompile source.toList then
    return .error (.compilationFailed type compileLog)
  else
    modify fun device ↦ { device with lastHandle := device.lastHandle + 1 }
    return .ok (← get).lastHandle

/-- Stages and programs draw their handles from one counter. -/
def newProgram : Action Request InMemory Nat := do
  modify fun device ↦
    { device with
      lastHandle := device.lastHandle + 1
      programs := device.programs.insert (device.lastHandle + 1) Image.empty }
  return (← get).lastHandle

def attachStage (program : Nat) (stage : Shader) : Action Request InMemory Unit :=
  modify (updateProgram program fun image ↦
    { image with sources := image.sources ++ [stage.source] })

/-- A link that fails leaves the uniforms of the last one in place. -/
def linkProgram (program : Nat) : Action Request InMemory (Except ProgramError Unit) := do
  let device ← get
  match device.programs[program]? with
  | none => return .error .unknownProgram
  | some image =>
    if image.sources.any fun source ↦ refusesToLink source.toList then
      set (updateProgram program (fun image ↦ { image with linked := false }) device)
      return .error (.linkFailed linkLog)
    else
      set (updateProgram program (Image.link device.settings) device)
      return .ok ()

def isLinked (program : Nat) : Action Request InMemory Bool := do
  return ((← get).programs[program]?.map Image.linked).getD false

def useProgram (program : Option Nat) : Action Request InMemory Unit :=
  modify fun device ↦ { device with current := program }

/-- The program in use is taken out of use by a call of the device's own. -/
def destroyProgram (program : Nat) : Action Request InMemory Unit := do
  if (← get).current = some program then
    Action.call (.useProgram none)
    useProgram none
  modify fun device ↦ { device with programs := device.programs.erase program }

def activeUniforms (program : Nat) : Action Request InMemory (List String) := do
  return ((← get).programs[program]?.map Image.active).getD []

/-- A name may be hidden together with all elements of the array it begins. -/
def uniformLocation (program : Nat) (name : String) : Action Request InMemory (Option Int) := do
  let device ← get
  if bareName name ∈ device.settings.noLocation then return none
  else return device.programs[program]?.bind fun image ↦ image.locations[name]?

/-- Without a program in use there is nothing to write to. -/
def upload (location : Int) (count : Nat) (data : Upload) : Action Request InMemory Unit :=
  modify fun device ↦
    match device.current with
    | some program => updateProgram program (Image.upload location count data) device
    | none => device

/-- The buffer is filled up with zeros. -/
def queryInts (program : Nat) (location : Int) (size : Nat) :
    Action Request InMemory (Vector Int32 size) := do
  let cells := Cell.fill size (query program location (← get))
  return ⟨(cells.map Cell.toInt32).toArray, by simp [cells]⟩

def queryFloats (program : Nat) (location : Int) (size : Nat) :
    Action Request InMemory (Vector Binary32 size) := do
  let cells := Cell.fill size (query program location (← get))
  return ⟨(cells.map Cell.toBinary32).toArray, by simp [cells]⟩

instance : Device InMemory Request where
  newStage := newStage
  destroyStage _ := pure ()
  newProgram := newProgram
  attachStage := attachStage
  linkProgram := linkProgram
  isLinked := isLinked
  destroyProgram := destroyProgram
  useProgram := useProgram
  activeUniforms := activeUniforms
  uniformLocation := uniformLocation
  upload := upload
  queryInts := queryInts
  queryFloats := queryFloats

end InMemory

end Shading
