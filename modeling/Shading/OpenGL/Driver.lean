import Shading.Action
import Shading.OpenGL.Call

/-!
# OpenGL drivers

A driver is whatever answers the calls of OpenGL. A back end keeps its driver together with the
program it believes to be in use, and passes calls on to the driver while putting them on record.
-/

namespace Shading.OpenGL

/-- A driver as the pure effect and the answers of its calls. -/
class Driver (γ : Type) where
  /-- Zero if no shader can be made. -/
  createShader (type : StageType) : γ → Nat × γ
  shaderSource (shader : Nat) (sources : List String) : γ → γ
  compileShader (shader : Nat) : γ → γ
  deleteShader (shader : Nat) : γ → γ
  createProgram : γ → Nat × γ
  attachShader (program shader : Nat) : γ → γ
  linkProgram (program : Nat) : γ → γ
  deleteProgram (program : Nat) : γ → γ
  /-- Zero takes the program in use out of use. -/
  useProgram (program : Nat) : γ → γ
  uniform (location count : Int) (data : Upload) : γ → γ
  currentProgram : γ → Nat
  shaderParameter (shader : Nat) (parameter : Parameter) : γ → Int
  programParameter (program : Nat) (parameter : Parameter) : γ → Int
  /-- The octets written into a buffer of the given size. -/
  shaderInfoLog (shader : Nat) (size : Int) : γ → List UInt8
  programInfoLog (program : Nat) (size : Int) : γ → List UInt8
  /-- The octets of the name, without a terminator. -/
  activeUniform (program index size : Nat) : γ → List UInt8
  /-- Negative if there is no such uniform. -/
  uniformLocation (program : Nat) (name : String) : γ → Int
  uniformInts (program : Nat) (location : Int) : γ → List Int32
  uniformFloats (program : Nat) (location : Int) : γ → List Binary32

/-- A driver with what the back end believes about it. -/
structure Backend (γ : Type) where
  driver : γ
  /-- The program believed to be in use; none if that is not known. -/
  inUse : Option Nat
  /-- While this is set, releasing a program must leave `inUse` alone. -/
  borrowed : Bool

namespace Backend

variable {γ α : Type}

/-- A call that changes the driver and has no answer. -/
def command (f : γ → γ) (call : Call) : Action Call (Backend γ) Unit := do
  modify fun b ↦ { b with driver := f b.driver }
  Action.call call

/-- A call that has an answer and changes nothing. -/
def query (f : γ → α) (call : α → Call) : Action Call (Backend γ) α := do
  let answer := f (← get).driver
  Action.call (call answer)
  return answer

/-- A call whose answer is the handle of something new. -/
def create (f : γ → Nat × γ) (call : Nat → Call) : Action Call (Backend γ) Nat := do
  let (handle, driver) := f (← get).driver
  modify fun b ↦ { b with driver }
  Action.call (call handle)
  return handle

end Backend

end Shading.OpenGL
