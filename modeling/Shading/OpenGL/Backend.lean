import Shading.Device.Basic
import Shading.OpenGL.CurrentProgram
import Shading.Text.Utf8

/-!
# A device over OpenGL

Texts that come from the driver pass through a buffer whose size the driver announces. They are
read as UTF-8 with replacement; a log loses the zeros behind it, and an active array is known by
its name without the index of its first element. Counts are passed in thirty-two bits.
-/

namespace Shading.OpenGL.Backend

open Shading.Uniform

variable {γ : Type} [Driver γ]

/-- A buffer of zeros of the given size, after the driver has written to it. -/
def buffer (size : Int) (written : List UInt8) : List UInt8 :=
  written.take size.toNat ++ List.replicate (size.toNat - written.length) 0

/-- Zeros within the text stay where they are. -/
def dropZeros (text : List Char) : List Char :=
  (text.reverse.dropWhile (· == '\x00')).reverse

/-- A log as it is read from a buffer of the size that the driver has told. -/
def logText (size : Int) (written : List UInt8) : String :=
  String.ofList (dropZeros (Text.decode (buffer size written)))

def firstElementSuffix : List Char := "[0]".toList

/-- Drivers list an array under the name of its first element. -/
def dropFirstIndex (name : List Char) : List Char :=
  if firstElementSuffix <:+ name then name.take (name.length - firstElementSuffix.length) else name

/-- The name that a driver has written, decoded and without the index. -/
def uniformName (octets : List UInt8) : String :=
  String.ofList (dropFirstIndex (Text.decode octets))

/-- A buffer of zeros, as far as it was ever written to, after a name and its terminator have gone
to its front. What was behind them stays. -/
def overwrite (size : Nat) (written front : List UInt8) : List UInt8 :=
  (written ++ 0 :: front.drop (written.length + 1)).take size

/-- A text with a zero in it would end there for the driver. -/
def holdsZero (text : String) : Bool :=
  text.toList.contains '\x00'

def zeroInSource : String := "source contains a NUL byte"

def noShader : String := "unable to create shader stage"

/-- Reads the log and lets go of the shader. -/
def rejectShader (type : StageType) (shader : Nat) : Action Call (Backend γ) StageError := do
  let size ← query (Driver.shaderParameter shader .infoLogLength) (.getShader shader .infoLogLength)
  let written ← query (Driver.shaderInfoLog shader size) fun _ ↦ .getShaderInfoLog shader size
  command (Driver.deleteShader shader) (.deleteShader shader)
  return .compilationFailed type (logText size written)

/-- A shader that does not compile is deleted before the error is returned. -/
def newStage (type : StageType) (sources : List String) :
    Action Call (Backend γ) (Except StageError Nat) := do
  if sources.any holdsZero then return .error (.compilationFailed type zeroInSource)
  else
    let shader ← create (Driver.createShader type) (.createShader type)
    if shader = 0 then return .error (.compilationFailed type noShader)
    else
      command (Driver.shaderSource shader sources) (.shaderSource shader sources)
      command (Driver.compileShader shader) (.compileShader shader)
      let status ←
        query (Driver.shaderParameter shader .compileStatus) (.getShader shader .compileStatus)
      if status = 1 then return .ok shader
      else return .error (← rejectShader type shader)

def destroyStage (stage : Nat) : Action Call (Backend γ) Unit :=
  command (Driver.deleteShader stage) (.deleteShader stage)

def newProgram : Action Call (Backend γ) Nat :=
  create Driver.createProgram .createProgram

def attachStage (program : Nat) (stage : Shader) : Action Call (Backend γ) Unit := do
  Action.note .trace
    ("attaching " ++ stage.type.name ++ " to program " ++ toString program)
  command (Driver.attachShader program stage.handle) (.attachShader program stage.handle)

def isLinked (program : Nat) : Action Call (Backend γ) Bool := do
  let status ←
    query (Driver.programParameter program .linkStatus) (.getProgram program .linkStatus)
  return status = 1

/-- The status is asked for after every link, the log only after one that failed. -/
def linkProgram (program : Nat) : Action Call (Backend γ) (Except ProgramError Unit) := do
  command (Driver.linkProgram program) (.linkProgram program)
  if ← isLinked program then return .ok ()
  else
    let size ←
      query (Driver.programParameter program .infoLogLength) (.getProgram program .infoLogLength)
    let written ←
      query (Driver.programInfoLog program size) fun _ ↦ .getProgramInfoLog program size
    return .error (.linkFailed (logText size written))

/-- The program is left first, unless the state is borrowed and cannot be changed. -/
def destroyProgram (program : Nat) : Action Call (Backend γ) Unit := do
  if (← get).borrowed then pure () else leaveProgram program
  command (Driver.deleteProgram program) (.deleteProgram program)

def alreadyBorrowed : String := "already borrowed: BorrowMutError"

/-- The state cannot be used while somebody else has borrowed it, which is a panic. -/
def useProgram (program : Option Nat) : Action Call (Backend γ) Unit := do
  if (← get).borrowed then Action.note .panic alreadyBorrowed
  switchProgram (program.getD 0)

/-- All names pass through one buffer, which is not cleared between two of them. -/
def readNames (program size : Nat) :
    List Nat → List UInt8 → Action Call (Backend γ) (List String)
  | [], _ => return []
  | index :: rest, front => do
    let written ← query (Driver.activeUniform program index size)
      fun _ ↦ .getActiveUniform program index size
    let front := overwrite size written front
    return uniformName (front.take written.length) :: (← readNames program size rest front)

/-- The buffer for the names is one octet long at least. -/
def activeUniforms (program : Nat) : Action Call (Backend γ) (List String) := do
  let count ←
    query (Driver.programParameter program .activeUniforms) (.getProgram program .activeUniforms)
  let longest ←
    query (Driver.programParameter program .activeUniformMaxLength)
      (.getProgram program .activeUniformMaxLength)
  let names ← readNames program (max longest 1).toNat (List.range count.toNat) []
  Action.note .trace ("program " ++ toString program ++ " has " ++ toString names.length ++
    " active uniform(s)")
  return names

/-- A name with a zero in it is not passed to the driver. -/
def uniformLocation (program : Nat) (name : String) : Action Call (Backend γ) (Option Int) := do
  if holdsZero name then return none
  else
    let location ←
      query (Driver.uniformLocation program name) (.getUniformLocation program name)
    return if location < 0 then none else some location

/-- The low thirty-two bits, as a signed number. -/
def truncateCount (count : Nat) : Int :=
  Int.bmod count UInt32.size

/-- The components that a driver reads, at most those there are. -/
def readable (count : Int) (data : Upload) : Upload :=
  let size := count.toNat * data.elementLen
  match data with
  | .ints width components => .ints width (components.take size)
  | .floats width components => .floats width (components.take size)
  | .matrices side transpose components => .matrices side transpose (components.take size)

/-- The driver takes the number of elements as a signed number of thirty-two bits. -/
def upload (location : Int) (count : Nat) (data : Upload) : Action Call (Backend γ) Unit :=
  let count := truncateCount count
  let data := readable count data
  command (Driver.uniform location count data) (.uniform location count data)

/-- Zeros stand where the driver has written nothing. -/
def fill {α : Type} (size : Nat) (zero : α) (written : List α) : Vector α size :=
  ⟨(written.take size ++ List.replicate (size - written.length) zero).toArray, by
    rw [List.size_toArray, List.length_append, List.length_take, List.length_replicate]
    omega⟩

def queryInts (program : Nat) (location : Int) (size : Nat) :
    Action Call (Backend γ) (Vector Int32 size) := do
  let written ← query (Driver.uniformInts program location) fun _ ↦ .getUniformInts program location
  return fill size 0 written

def queryFloats (program : Nat) (location : Int) (size : Nat) :
    Action Call (Backend γ) (Vector Binary32 size) := do
  let written ←
    query (Driver.uniformFloats program location) fun _ ↦ .getUniformFloats program location
  return fill size .zero written

instance : Device (Backend γ) Call where
  newStage := newStage
  destroyStage := destroyStage
  newProgram := newProgram
  attachStage := attachStage
  linkProgram := linkProgram
  isLinked := isLinked
  destroyProgram := destroyProgram
  useProgram := useProgram
  activeUniforms := activeUniforms
  uniformLocation := uniformLocation
  upload := upload
  queryInts := queryInts
  queryFloats := queryFloats

end Shading.OpenGL.Backend
