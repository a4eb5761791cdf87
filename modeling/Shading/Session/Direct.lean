import Shading.Session.Basic

/-!
# Direct requests

A workbench is a session with further slots for stages and programs that were asked of a device
directly. Such a request passes by the programs of the session, and what it makes is released only
by another such request.
-/

namespace Shading

open Shading.Uniform

/-- A request of a device that no program of the session takes part in. -/
inductive DeviceOperation
  | newStage (slot : String) (type : StageType) (sources : List String)
  | destroyStage (stage : String)
  | newProgram (slot : String)
  | destroyProgram (program : String)
  | attachStage (program stage : String)
  | linkProgram (program : String)
  | isLinked (program : String)
  | useProgram (program : Option String)
  | activeUniforms (program : String)
  | uniformLocation (program name : String)
  | upload (location : Int) (count : Nat) (data : Upload)
  | queryInts (program : String) (location : Int) (size : Nat)
  | queryFloats (program : String) (location : Int) (size : Nat)

/-- A session with slots for what was made by direct requests. -/
structure Workbench (δ : Type) (n : Nat) where
  session : Session δ n
  shaders : Slots Shader
  handles : Slots Nat

abbrev WorkbenchAction (δ κ : Type) (n : Nat) (α : Type) : Type :=
  Action (Fin n × Traffic κ) (Workbench δ n) α

namespace Workbench

variable {δ κ α : Type} {n : Nat}

def new (devices : Vector δ n) : Workbench δ n :=
  ⟨Session.new devices, ∅, ∅⟩

def onSession (x : SessionAction δ κ n α) : WorkbenchAction δ κ n α :=
  Action.focus session (fun session b ↦ { b with session }) id x

def within (i : Fin n) (x : ContextAction δ κ α) : WorkbenchAction δ κ n α :=
  onSession (Session.within i x)

variable [Device δ κ]

def withShader (name : String) (f : Shader → WorkbenchAction δ κ n Answer) :
    WorkbenchAction δ κ n Answer := do
  match (← get).shaders[name]? with
  | some stage => f stage
  | none => return .error .noSuchStage

def withHandle (name : String) (f : Nat → WorkbenchAction δ κ n Answer) :
    WorkbenchAction δ κ n Answer := do
  match (← get).handles[name]? with
  | some program => f program
  | none => return .error .noSuchProgram

/-- What a direct request does in a context, and its answer. -/
def request (i : Fin n) : DeviceOperation → WorkbenchAction δ κ n Answer
  | .newStage slot type sources => do
    match ← within i (Context.newStage type sources) with
    | .ok handle =>
      modify fun b ↦
        { b with
          shaders := b.shaders.insert slot
            ⟨handle, type, String.intercalate "\n" sources⟩ }
      return .ok .done
    | .error e => return .error (.stage e)
  | .destroyStage name =>
    withShader name fun stage ↦ do
      modify fun b ↦ { b with shaders := b.shaders.erase name }
      within i (Context.destroyStage stage.handle)
      return .ok .done
  | .newProgram slot => do
    let handle ← within i Context.newProgram
    modify fun b ↦ { b with handles := b.handles.insert slot handle }
    return .ok .done
  | .destroyProgram name =>
    withHandle name fun program ↦ do
      modify fun b ↦ { b with handles := b.handles.erase name }
      within i (Context.destroyProgram program)
      return .ok .done
  | .attachStage program stage =>
    withHandle program fun program ↦
      withShader stage fun stage ↦ do
        within i (Context.attachStage program stage)
        return .ok .done
  | .linkProgram program =>
    withHandle program fun program ↦ do
      match ← within i (Context.linkProgram program) with
      | .ok () => return .ok .done
      | .error e => return .error (.program e)
  | .isLinked program =>
    withHandle program fun program ↦ do
      return .ok (.flag (← within i (Context.isLinked program)))
  | .useProgram none => do
    within i (Context.useProgram none)
    return .ok .done
  | .useProgram (some program) =>
    withHandle program fun program ↦ do
      within i (Context.useProgram (some program))
      return .ok .done
  | .activeUniforms program =>
    withHandle program fun program ↦ do
      return .ok (.names (← within i (Context.activeUniforms program)))
  | .uniformLocation program name =>
    withHandle program fun program ↦ do
      return .ok (.location (← within i (Context.uniformLocation program name)))
  | .upload location count data => do
    within i (Context.upload location count data)
    return .ok .done
  | .queryInts program location size =>
    withHandle program fun program ↦ do
      return .ok (.ints (← within i (Context.queryInts program location size)).toList)
  | .queryFloats program location size =>
    withHandle program fun program ↦ do
      return .ok (.floats (← within i (Context.queryFloats program location size)).toList)

end Workbench

end Shading
