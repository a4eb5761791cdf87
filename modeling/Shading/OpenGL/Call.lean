import Shading.Device.Error
import Shading.Device.Upload

/-!
# OpenGL calls

The calls that a device over OpenGL makes to the driver, each with the answer it got if it is a
query. Constants have the values that OpenGL gives them.
-/

namespace Shading.OpenGL

/-- Stages, parameters and the current program have numbers that OpenGL knows them by. -/
def stageCode : StageType → Nat
  | .vertex => 35633
  | .fragment => 35632

/-- What can be asked about a shader or a program. -/
inductive Parameter
  | compileStatus
  | linkStatus
  | infoLogLength
  | activeUniforms
  | activeUniformMaxLength
  deriving DecidableEq

def Parameter.code : Parameter → Nat
  | .compileStatus => 35713
  | .linkStatus => 35714
  | .infoLogLength => 35716
  | .activeUniforms => 35718
  | .activeUniformMaxLength => 35719

def currentProgramCode : Nat := 35725

/-- A call to the driver with its arguments, and with the answer if it has one. -/
inductive Call
  | createShader (type : StageType) (shader : Nat)
  | shaderSource (shader : Nat) (sources : List String)
  | compileShader (shader : Nat)
  | getShader (shader : Nat) (parameter : Parameter) (value : Int)
  | getShaderInfoLog (shader : Nat) (size : Int)
  | deleteShader (shader : Nat)
  | createProgram (program : Nat)
  | attachShader (program shader : Nat)
  | linkProgram (program : Nat)
  | getProgram (program : Nat) (parameter : Parameter) (value : Int)
  | getProgramInfoLog (program : Nat) (size : Int)
  | deleteProgram (program : Nat)
  | useProgram (program : Nat)
  | getCurrentProgram (program : Nat)
  | getActiveUniform (program index size : Nat)
  | getUniformLocation (program : Nat) (name : String) (location : Int)
  | uniform (location count : Int) (data : Upload)
  | getUniformInts (program : Nat) (location : Int)
  | getUniformFloats (program : Nat) (location : Int)
  deriving DecidableEq

end Shading.OpenGL
