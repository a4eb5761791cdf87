import Shading.Device.Basic

/-!
# Contexts

A context owns a device, numbers the programs made through it, and keeps the one program that is
in use. Its actions are the requests to its device, each put on record behind the calls it causes.
-/

namespace Shading

/-- Programs of one context are told apart by their numbers. -/
structure ProgramId where
  index : Nat
  deriving DecidableEq

def ProgramId.listing (id : ProgramId) : String :=
  "ProgramId(" ++ toString id.index ++ ")"

/-- A device with the program in use on it, as far as the core knows, and the next number that is
free. -/
structure Context (δ : Type) where
  device : δ
  current : Option ProgramId
  nextId : Nat

/-- Actions in one context record what is asked of its device. -/
abbrev ContextAction (δ κ α : Type) : Type :=
  Action (Traffic κ) (Context δ) α

namespace Context

variable {δ κ α : Type}

def new (device : δ) : Context δ :=
  ⟨device, none, 0⟩

/-- Lets the device act by itself; its calls are issued and not asked for. -/
def onDevice (x : Action κ δ α) : ContextAction δ κ α :=
  Action.focus Context.device (fun device c ↦ { c with device }) Traffic.issued x

/-- Asks the device for something and records the request that this was. -/
def ask (x : Action κ δ α) (request : α → Request) : ContextAction δ κ α := do
  let answer ← onDevice x
  Action.call (.request (request answer))
  return answer

/-- Numbers are given out once and in order. -/
def newId : ContextAction δ κ ProgramId := do
  let id := (← get).nextId
  modify fun c ↦ { c with nextId := id + 1 }
  return ⟨id⟩

/-- Changes what the core takes for the current program; the device is not told. -/
def setCurrent (current : Option ProgramId) : ContextAction δ κ Unit :=
  modify fun c ↦ { c with current }

variable [Device δ κ]

def newStage (type : StageType) (sources : List String) :
    ContextAction δ κ (Except StageError Nat) :=
  ask (Device.newStage type sources) fun answer ↦ .newStage type answer.toOption

def destroyStage (stage : Nat) : ContextAction δ κ Unit :=
  ask (Device.destroyStage stage) fun _ ↦ .destroyStage stage

def newProgram : ContextAction δ κ Nat :=
  ask Device.newProgram .newProgram

def attachStage (program : Nat) (stage : Shader) : ContextAction δ κ Unit :=
  ask (Device.attachStage program stage) fun _ ↦ .attachStage program stage.handle

def linkProgram (program : Nat) : ContextAction δ κ (Except ProgramError Unit) :=
  ask (Device.linkProgram program) fun answer ↦ .linkProgram program answer.isOk

def isLinked (program : Nat) : ContextAction δ κ Bool :=
  ask (Device.isLinked program) fun _ ↦ .isLinked program

def destroyProgram (program : Nat) : ContextAction δ κ Unit :=
  ask (Device.destroyProgram program) fun _ ↦ .destroyProgram program

def useProgram (program : Option Nat) : ContextAction δ κ Unit :=
  ask (Device.useProgram program) fun _ ↦ .useProgram program

def activeUniforms (program : Nat) : ContextAction δ κ (List String) :=
  ask (Device.activeUniforms program) fun _ ↦ .activeUniforms program

def uniformLocation (program : Nat) (name : String) : ContextAction δ κ (Option Int) :=
  ask (Device.uniformLocation program name) (.uniformLocation program name)

def upload (location : Int) (count : Nat) (data : Upload) : ContextAction δ κ Unit :=
  ask (Device.upload location count data) fun _ ↦ .upload location count data

def queryInts (program : Nat) (location : Int) (size : Nat) :
    ContextAction δ κ (Vector Int32 size) :=
  ask (Device.queryInts program location size) fun _ ↦ .queryInts program location size

def queryFloats (program : Nat) (location : Int) (size : Nat) :
    ContextAction δ κ (Vector Binary32 size) :=
  ask (Device.queryFloats program location size) fun _ ↦ .queryFloats program location size

end Context

end Shading
