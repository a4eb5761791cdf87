import Shading.Program.Uniforms

/-!
# Session operations

A session works on stages and programs that it keeps in named slots. An operation names the slots
it reads and the slot that receives what it makes. Its answer is a reply or a fault; a slot that
is named but empty is a fault of its own.
-/

namespace Shading

open Shading.Uniform

/-- What a session can be asked to do. -/
inductive Operation
  | newStage (slot : String) (type : StageType) (sources : List String)
  | stageInfo (stage : String)
  | dropStage (stage : String)
  | collect (stages : List String) (index : Option Nat)
  | newProgram (slot : String) (stages : List String)
  | ofSources (slot vertex fragment : String)
  | append (program stage : String)
  | bind (program : String)
  | unbind (program : String)
  | destroy (program : String)
  | drop (program : String)
  | isCurrent (program : String)
  | isLinked (program : String)
  | activeUniforms (program : String)
  | uniforms (program : String)
  | descriptor (program name : String)
  | stageTypes (program : String)
  | listing (program : String)
  | set (program name : String) (value : HostValue)
  | get (program name : String)

/-- What can be read off a sequence of stages. -/
structure StagesReport where
  types : List StageType
  sources : List String
  selected : Option String
  listing : String

/-- What an operation answers if it succeeds. -/
inductive Reply
  | done
  | program (id : ProgramId)
  | stage (type : StageType) (source : String)
  | stageInfo (type : StageType) (source listing : String)
  | stages (report : StagesReport)
  | flag (value : Bool)
  | names (names : List String)
  | table (table : Table)
  | descriptor (descriptor : Option Descriptor)
  | types (types : List StageType)
  | text (text : String)
  | value (value : Value)
  | location (location : Option Int)
  | ints (components : List Int32)
  | floats (components : List Binary32)

/-- Why an operation has no reply. -/
inductive Fault
  | stage (cause : StageError)
  | program (cause : ProgramError)
  | uniform (cause : UniformError)
  | state (cause : StateError)
  | noSuchStage
  | noSuchProgram
  | unordered
  | unreadable
  deriving DecidableEq

def Fault.message : Fault → String
  | .stage cause => cause.message
  | .program cause => cause.message
  | .uniform cause => cause.message
  | .state cause => cause.message
  | .noSuchStage => "stage"
  | .noSuchProgram => "program"
  | .unordered => ""
  | .unreadable => ""

/-- A fault that ends the session and not only the operation. -/
def Fault.isPanic : Fault → Bool
  | .program cause => cause.isPanic
  | .uniform cause => cause.isPanic
  | _ => false

/-- The answer to an operation, a request or an event. -/
abbrev Answer : Type :=
  Except Fault Reply

end Shading
