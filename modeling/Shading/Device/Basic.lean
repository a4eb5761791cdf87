import Shading.Action
import Shading.Device.Error
import Shading.Device.Upload

/-!
# Devices

A device compiles stages, links programs and stores uniforms. Everything it makes is named by a
handle of its own choosing. It does its work by calls of its own, which go on record; what was
asked of it is recorded as a request, together with the part of its answer that later requests
build on.
-/

namespace Shading

open Shading.Uniform

/-- A compiled stage, as the device that made it knows it. -/
structure Shader where
  handle : Nat
  type : StageType
  source : String
  deriving DecidableEq

/-- Whatever can compile stages, link programs and store uniforms. -/
class Device (δ : Type) (κ : outParam Type) where
  newStage (type : StageType) (sources : List String) : Action κ δ (Except StageError Nat)
  destroyStage (stage : Nat) : Action κ δ Unit
  newProgram : Action κ δ Nat
  attachStage (program : Nat) (stage : Shader) : Action κ δ Unit
  linkProgram (program : Nat) : Action κ δ (Except ProgramError Unit)
  isLinked (program : Nat) : Action κ δ Bool
  /-- A program in use must be taken out of use first. -/
  destroyProgram (program : Nat) : Action κ δ Unit
  useProgram (program : Option Nat) : Action κ δ Unit
  activeUniforms (program : Nat) : Action κ δ (List String)
  uniformLocation (program : Nat) (name : String) : Action κ δ (Option Int)
  /-- Writes to the program in use. -/
  upload (location : Int) (count : Nat) (data : Upload) : Action κ δ Unit
  queryInts (program : Nat) (location : Int) (size : Nat) : Action κ δ (Vector Int32 size)
  queryFloats (program : Nat) (location : Int) (size : Nat) : Action κ δ (Vector Binary32 size)

/-- A request with what a later one may depend on: a handle, a location, whether a link succeeded.
-/
inductive Request
  | newStage (type : StageType) (handle : Option Nat)
  | destroyStage (stage : Nat)
  | newProgram (handle : Nat)
  | attachStage (program stage : Nat)
  | linkProgram (program : Nat) (linked : Bool)
  | isLinked (program : Nat)
  | destroyProgram (program : Nat)
  | useProgram (program : Option Nat)
  | activeUniforms (program : Nat)
  | uniformLocation (program : Nat) (name : String) (location : Option Int)
  | upload (location : Int) (count : Nat) (data : Upload)
  | queryInts (program : Nat) (location : Int) (size : Nat)
  | queryFloats (program : Nat) (location : Int) (size : Nat)
  deriving DecidableEq

/-- What crosses the border of a device: requests that reach it and calls that it makes. -/
inductive Traffic (κ : Type)
  | request (request : Request)
  | issued (call : κ)

end Shading
