import Shading.Uniform.Declaration

/-!
# Device errors

What can go wrong when a stage is compiled, when a program is put together, and when the state of
a device is acquired. A program error may stem from one of its stages or from the uniform
declarations in their sources.
-/

namespace Shading

inductive StageType
  | vertex
  | fragment
  deriving DecidableEq

namespace StageType

def name : StageType → String
  | vertex => "vertex shader"
  | fragment => "fragment shader"

def listing : StageType → String
  | vertex => "VertexShader"
  | fragment => "FragmentShader"

end StageType

/-- Why a stage cannot be made. -/
inductive StageError
  | compilationFailed (type : StageType) (log : String)
  | noSource (type : StageType)
  deriving DecidableEq

def StageError.message : StageError → String
  | .compilationFailed type log => type.name ++ " compilation error: " ++ log
  | .noSource type => "no GLSL source provided for " ++ type.name

/-- Why a program cannot be made, linked or bound. -/
inductive ProgramError
  | stage (cause : StageError)
  | linkFailed (log : String)
  | declaration (cause : Uniform.DeclarationError)
  | noStage
  | unknownProgram
  deriving DecidableEq

def ProgramError.message : ProgramError → String
  | .stage cause => "shader program has stage error: " ++ cause.message
  | .linkFailed log => "shader program failed to link: " ++ log
  | .declaration cause => "shader program has invalid uniform declarations: " ++ cause.message
  | .noStage => "shader program has no stage"
  | .unknownProgram => "unknown program"

/-- An unknown program is no fault of the caller. -/
def ProgramError.isPanic : ProgramError → Bool
  | .unknownProgram => true
  | _ => false

/-- Why the state of a device cannot be acquired. -/
inductive StateError
  | unavailable
  deriving DecidableEq

def StateError.message : StateError → String
  | .unavailable => "unavailable graphics state"

end Shading
