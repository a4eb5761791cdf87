import Shading.Program.Basic
import Shading.Uniform.Value

/-!
# Uniform access

A uniform can be written and read while its program is linked, bound and current in the context,
if the device reports the name as active and the sources declare it. A write checks the number and
the type of the components, finds the location and makes one upload. A read makes room for the
locations of all elements and finds them, for an array has no location of its own, and makes one
query for each.

The number that a write checks is a word, so it is the true number of components only where that
one fits. Two of the errors are panics: the access ends there and so does what it is a part of.
-/

namespace Shading

open Shading.Uniform

/-- Why a uniform cannot be written or read. -/
inductive UniformError
  | unbound
  | notActive (name : String)
  | undeclared (name : String)
  | arityMismatch (name : String) (expected actual : Nat)
  | typeMismatch (name : String) (expected : BaseType)
  | locationNotFound (name : String)
  | oneWideMatrix (name : String)
  | capacityOverflow
  deriving DecidableEq

def UniformError.message : UniformError → String
  | .unbound => "shader program is not bound; cannot access uniforms"
  | .notActive name =>
    "uniform " ++ name ++ " is not active; make sure the variable is used in the source code"
  | .undeclared name =>
    "uniform " ++ name ++ " is active but its declaration was not found in the shader sources"
  | .arityMismatch name expected actual =>
    "uniform " ++ name ++ " expects " ++ toString expected ++ " values, got " ++ toString actual
  | .typeMismatch name expected =>
    "uniform " ++ name ++ " expects " ++ expected.name ++ " values"
  | .locationNotFound name => "cannot query the location of uniform " ++ name
  | .oneWideMatrix name => "one-wide matrix uniform " ++ name
  | .capacityOverflow => "capacity overflow"

/-- Errors that no caller gets to see. -/
def UniformError.isPanic : UniformError → Bool
  | .oneWideMatrix _ | .capacityOverflow => true
  | _ => false

/-- An access may end at any step, and what it asked for until then stays on record. -/
abbrev AccessAction (δ κ α : Type) : Type :=
  ExceptT UniformError (Action (Traffic κ) (Context δ)) α

namespace Program

variable {δ κ : Type} [Device δ κ] {n : Nat}

/-- The mark of being bound may be out of date, so the context is asked as well. -/
def isAccessible (p : Program n) (c : Context δ) : Bool :=
  p.bound ∧ c.current = some p.id ∧ p.linkState = .linked

/-- The device must list the name and the sources must declare it. -/
def accessibleDescriptor (p : Program n) (name : String) : AccessAction δ κ Descriptor := do
  if p.isAccessible (← ExceptT.lift get) then
    let active ← ExceptT.lift (Context.activeUniforms p.handle)
    if name ∈ active then
      match p.uniforms[name]? with
      | some d => return d
      | none => throw (.undeclared name)
    else throw (.notActive name)
  else throw .unbound

/-- A name without a location ends the access. -/
def location (p : Program n) (name : String) : AccessAction δ κ Int := do
  match ← ExceptT.lift (Context.uniformLocation p.handle name) with
  | some location => return location
  | none => throw (.locationNotFound name)

/-- Locations take four octets each, and no list may take half of the octets that a word counts. -/
def locationLimit : Nat := UInt64.size / 2 / 4

/-- Makes room for the locations of all elements. -/
def reserve (d : Descriptor) : Except UniformError Unit :=
  if d.arrayLength < locationLimit then .ok () else .error .capacityOverflow

/-- The locations of the elements from `first` on. -/
def elementLocations (p : Program n) (name : String) (first : Nat) :
    Nat → AccessAction δ κ (List Int)
  | 0 => return []
  | count + 1 => do
    let location ← p.location (elementName name first)
    return location :: (← p.elementLocations name (first + 1) count)

/-- The components in the type that is stored, if there are as many as there should be. -/
def prepare (name : String) (d : Descriptor) (data : Data) : Except UniformError Data :=
  if data.length = d.len then
    match data.coerce d.storageType with
    | some data => .ok data
    | none => .error (.typeMismatch name d.storageType)
  else .error (.arityMismatch name d.len data.length)

/-- All checks come before the upload, so a write that fails has changed nothing. -/
def setUniform (p : Program n) (name : String) (value : HostValue) : AccessAction δ κ Unit := do
  let d ← p.accessibleDescriptor name
  let data ← prepare name d value.toData
  let location ← p.location name
  ExceptT.lift (Action.note .trace ("uploading " ++ name ++ " as " ++ d.display ++ " (" ++
    toString data.length ++ " component(s))"))
  match Upload.ofData d data with
  | some upload => ExceptT.lift (Context.upload location d.arrayLength upload)
  | none => throw (.oneWideMatrix name)

/-- One query for each location, each as long as an element. -/
def queryElements (p : Program n) (d : Descriptor) (locations : List Int) :
    ContextAction δ κ Value := do
  match d.storageType with
  | .int =>
    let elements ← locations.mapM fun location ↦ Context.queryInts p.handle location d.elementLen
    return .ofInts (elements.map Vector.toList).flatten
  | .float =>
    let elements ← locations.mapM fun location ↦ Context.queryFloats p.handle location d.elementLen
    return .ofFloatElements d (elements.map Vector.toList)

/-- The locations of all elements are found before the first of them is read. -/
def getUniform (p : Program n) (name : String) : AccessAction δ κ Value := do
  let d ← p.accessibleDescriptor name
  reserve d
  let first ← p.location name
  let others ← p.elementLocations name 1 (d.arrayLength - 1)
  ExceptT.lift (Action.note .trace ("querying " ++ name ++ " as " ++ d.display))
  ExceptT.lift (p.queryElements d (first :: others))

end Program

end Shading
