import Shading.Device.Cell
import Shading.OpenGL.Driver
import Std.Data.ExtTreeMap

/-!
# A scripted driver

This driver follows a script that fixes logs, active names and locations for all programs. A
shader compiles unless its text contains one marker and a program links unless an attached text
contains another. Uniforms are stored by program and location; a successful link clears those of
its program.
-/

namespace Shading.OpenGL

open Shading.Uniform

/-- Unless a length or a number is given, it is the true one. -/
structure Script where
  current : Nat
  noShader : Bool
  compileLog : List UInt8
  linkLog : List UInt8
  logLength : Option Int
  active : List (List UInt8)
  activeCount : Option Int
  nameMax : Option Int
  locations : Std.ExtTreeMap String Int compare

namespace Script

def blank : Script := ⟨0, false, [], [], none, [], none, none, ∅⟩

/-- A change of one entry of the script. -/
inductive Setting
  | current (program : Nat)
  | noShader (refuse : Bool)
  | compileLog (octets : List UInt8)
  | linkLog (octets : List UInt8)
  | logLength (length : Int)
  | active (names : List (List UInt8))
  | activeCount (count : Int)
  | nameMax (length : Int)
  | locations (locations : List (String × Int))

def adjust (script : Script) : Setting → Script
  | .current program => { script with current := program }
  | .noShader refuse => { script with noShader := refuse }
  | .compileLog octets => { script with compileLog := octets }
  | .linkLog octets => { script with linkLog := octets }
  | .logLength length => { script with logLength := some length }
  | .active names => { script with active := names }
  | .activeCount count => { script with activeCount := some count }
  | .nameMax length => { script with nameMax := some length }
  | .locations locations => { script with locations := .ofList locations compare }

end Script

/-- A program of the driver: the texts that were attached to it, and whether it is linked. -/
structure Linkable where
  texts : List (List Char)
  linked : Bool

/-- A driver with its script and what was made and stored so far. -/
structure Scripted where
  script : Script
  lastHandle : Nat
  shaders : Std.ExtTreeMap Nat (List Char) compare
  programs : Std.ExtTreeMap Nat Linkable compare
  storage : Std.ExtTreeMap Nat (Std.ExtTreeMap Int (List Cell) compare) compare

namespace Scripted

def new (script : Script) : Scripted :=
  ⟨script, 0, ∅, ∅, ∅⟩

/-- Shaders that are not known have an empty text. -/
def text (shader : Nat) (s : Scripted) : List Char :=
  s.shaders[shader]?.getD []

def program (program : Nat) (s : Scripted) : Linkable :=
  s.programs[program]?.getD ⟨[], false⟩

def cells (program : Nat) (location : Int) (s : Scripted) : List Cell :=
  (s.storage[program]?.getD ∅)[location]?.getD []

/-- Refused by the answer zero. -/
def createShader (s : Scripted) : Nat × Scripted :=
  if s.script.noShader then (0, s)
  else (s.lastHandle + 1, { s with lastHandle := s.lastHandle + 1 })

def shaderSource (shader : Nat) (sources : List String) (s : Scripted) : Scripted :=
  { s with shaders := s.shaders.insert shader (sources.flatMap String.toList) }

def createProgram (s : Scripted) : Nat × Scripted :=
  (s.lastHandle + 1, { s with lastHandle := s.lastHandle + 1 })

def attachShader (program shader : Nat) (s : Scripted) : Scripted :=
  let known := s.program program
  { s with
    programs := s.programs.insert program { known with texts := known.texts ++ [s.text shader] } }

/-- A link that fails keeps what was stored. -/
def linkProgram (program : Nat) (s : Scripted) : Scripted :=
  let known := s.program program
  if known.texts.any refusesToLink then
    { s with programs := s.programs.insert program { known with linked := false } }
  else
    { s with
      programs := s.programs.insert program { known with linked := true }
      storage := s.storage.erase program }

def useProgram (program : Nat) (s : Scripted) : Scripted :=
  { s with script.current := program }

/-- What is left of the last element is not stored. -/
def uniform (location : Int) (data : Upload) (s : Scripted) : Scripted :=
  if s.script.current = 0 then s
  else
    let size := data.elementLen
    let elements := (Cell.chunks size (Cell.ofData data.data)).filter fun e ↦ e.length = size
    let elements := match data with
      | .matrices side true _ => elements.map (Cell.transpose side.toNat)
      | _ => elements
    let locations := (List.range elements.length).map fun i : Nat ↦ location + i
    let stored := s.storage[s.script.current]?.getD ∅
    let stored := (locations.zip elements).foldl (fun m item ↦ m.insert item.1 item.2) stored
    { s with storage := s.storage.insert s.script.current stored }

def boolean (b : Bool) : Int :=
  if b then 1 else 0

/-- The length that is told, which may not be the length of the log. -/
def logLength (log : List UInt8) (s : Scripted) : Int :=
  s.script.logLength.getD log.length

def shaderParameter (shader : Nat) (parameter : Parameter) (s : Scripted) : Int :=
  match parameter with
  | .compileStatus => boolean !(refusesToCompile (s.text shader))
  | .infoLogLength => s.logLength s.script.compileLog
  | _ => 0

def programParameter (program : Nat) (parameter : Parameter) (s : Scripted) : Int :=
  match parameter with
  | .linkStatus => boolean (s.program program).linked
  | .infoLogLength => s.logLength s.script.linkLog
  | .activeUniforms => s.script.activeCount.getD s.script.active.length
  | .activeUniformMaxLength =>
    s.script.nameMax.getD ((s.script.active.map fun name ↦ name.length + 1).max?.getD 0 : Nat)
  | .compileStatus => 0

/-- The last octet of the buffer is kept for a terminator. -/
def activeUniform (index size : Nat) (s : Scripted) : List UInt8 :=
  (s.script.active[index]?.getD []).take (size - 1)

instance : Driver Scripted where
  createShader _ := createShader
  shaderSource := shaderSource
  compileShader _ s := s
  deleteShader _ s := s
  createProgram := createProgram
  attachShader := attachShader
  linkProgram := linkProgram
  deleteProgram _ s := s
  useProgram := useProgram
  uniform location _ := uniform location
  currentProgram s := s.script.current
  shaderParameter := shaderParameter
  programParameter := programParameter
  shaderInfoLog _ size s := s.script.compileLog.take size.toNat
  programInfoLog _ size s := s.script.linkLog.take size.toNat
  activeUniform _ := activeUniform
  uniformLocation _ name s := s.script.locations[name]?.getD (-1)
  uniformInts program location s := (s.cells program location).map Cell.toInt32
  uniformFloats program location s := (s.cells program location).map Cell.toBinary32

end Scripted

end Shading.OpenGL
