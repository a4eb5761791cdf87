import Shading.Session.Operation
import Shading.World

/-!
# Sessions

A session is a world together with its slots. A slot that receives something new releases what it
held before, once the new tenant is there. Stages leave their slots when they are handed to a
program, even if the program then fails. When a session ends, its programs are released by
ascending slot name, and after them its stages.
-/

namespace Shading

open Shading.Uniform

/-- Tenants by the names of their slots. -/
abbrev Slots (α : Type) : Type :=
  Std.ExtTreeMap String α compare

/-- Takes the tenants of distinct slots, all of which must be filled. -/
def Slots.takeAll {α : Type} : List String → Slots α → Option (List α × Slots α)
  | [], slots => some ([], slots)
  | name :: rest, slots => do
    let tenant ← slots[name]?
    let (tenants, slots) ← takeAll rest (slots.erase name)
    return (tenant :: tenants, slots)

/-- The contexts and the slots of stages and of programs; a tenant may come from any context. -/
structure Session (δ : Type) (n : Nat) where
  world : World δ n
  stages : Slots (Stage n)
  programs : Slots (Program n)

abbrev SessionAction (δ κ : Type) (n : Nat) (α : Type) : Type :=
  Action (Fin n × Traffic κ) (Session δ n) α

namespace Session

variable {δ κ α : Type} {n : Nat}

def new (devices : Vector δ n) : Session δ n :=
  ⟨devices.map Context.new, ∅, ∅⟩

/-- Runs an action on the contexts and leaves the slots alone. -/
def onWorld (x : WorldAction δ κ n α) : SessionAction δ κ n α :=
  Action.focus world (fun world s ↦ { s with world }) id x

def within (i : Fin n) (x : ContextAction δ κ α) : SessionAction δ κ n α :=
  onWorld (World.within i x)

def withStage (name : String) (f : Stage n → SessionAction δ κ n Answer) :
    SessionAction δ κ n Answer := do
  match (← get).stages[name]? with
  | some stage => f stage
  | none => return .error .noSuchStage

def withProgram (name : String) (f : Program n → SessionAction δ κ n Answer) :
    SessionAction δ κ n Answer := do
  match (← get).programs[name]? with
  | some program => f program
  | none => return .error .noSuchProgram

/-- The stages leave their slots, whatever becomes of them. -/
def withStages (names : List String) (f : List (Stage n) → SessionAction δ κ n Answer) :
    SessionAction δ κ n Answer := do
  match (← get).stages.takeAll names with
  | some (stages, rest) =>
    modify fun s ↦ { s with stages := rest }
    f stages
  | none => return .error .noSuchStage

def storeProgram (name : String) (p : Program n) : SessionAction δ κ n Unit :=
  modify fun s ↦ { s with programs := s.programs.insert name p }

def eraseStage (name : String) : SessionAction δ κ n Unit :=
  modify fun s ↦ { s with stages := s.stages.erase name }

def eraseProgram (name : String) : SessionAction δ κ n Unit :=
  modify fun s ↦ { s with programs := s.programs.erase name }

variable [Device δ κ]

/-- A tenant that has to leave is released after the new one has moved in. -/
def settleStage (name : String) (stage : Stage n) : SessionAction δ κ n Unit := do
  let tenant := (← get).stages[name]?
  modify fun s ↦ { s with stages := s.stages.insert name stage }
  match tenant with
  | some tenant => onWorld tenant.release
  | none => pure ()

def settleProgram (name : String) (p : Program n) : SessionAction δ κ n Unit := do
  let tenant := (← get).programs[name]?
  storeProgram name p
  match tenant with
  | some tenant => onWorld tenant.release
  | none => pure ()

/-- A program that was not made takes no slot and leaves the tenant in peace. -/
def settleNewProgram (name : String) (made : Except ProgramError (Program n)) :
    SessionAction δ κ n Answer := do
  match made with
  | .ok p =>
    settleProgram name p
    return .ok (.program p.id)
  | .error e => return .error (.program e)

/-- Keeps the program as an attempt left it, whether or not the attempt succeeded. -/
def keepProgram (name : String) (attempt : Program n × Except ProgramError Unit) :
    SessionAction δ κ n Answer := do
  storeProgram name attempt.1
  match attempt.2 with
  | .ok () => return .ok .done
  | .error e => return .error (.program e)

def reportOn (stages : List (Stage n)) (index : Option Nat) : StagesReport where
  types := stages.map fun stage ↦ stage.type
  sources := stages.map fun stage ↦ stage.source
  selected := index.bind fun i ↦ stages[i]?.map fun stage ↦ stage.source
  listing := Stage.listingOfAll stages

/-- What an operation does in a context, and its answer. -/
def perform (i : Fin n) : Operation → SessionAction δ κ n Answer
  | .newStage slot type sources => do
    match ← onWorld (Stage.new i type sources) with
    | .ok stage =>
      settleStage slot stage
      return .ok (.stage stage.type stage.source)
    | .error e => return .error (.stage e)
  | .stageInfo name =>
    withStage name fun stage ↦ return .ok (.stageInfo stage.type stage.source stage.listing)
  | .dropStage name =>
    withStage name fun stage ↦ do
      eraseStage name
      onWorld stage.release
      return .ok .done
  | .collect names index =>
    withStages names fun stages ↦ do
      onWorld (stages.forM Stage.release)
      return .ok (.stages (reportOn stages index))
  | .newProgram slot names =>
    withStages names fun stages ↦ do
      settleNewProgram slot (← onWorld (Program.new i stages))
  | .ofSources slot vertex fragment => do
    settleNewProgram slot (← onWorld (Program.ofSources i vertex fragment))
  | .append program stage =>
    withProgram program fun p ↦
      withStage stage fun s ↦ do
        eraseStage stage
        keepProgram program (← within i (p.append s))
  | .bind name =>
    withProgram name fun p ↦ do
      keepProgram name (← within i p.bind)
  | .unbind name =>
    withProgram name fun p ↦ do
      keepProgram name (← within i p.unbind, .ok ())
  | .destroy name =>
    withProgram name fun p ↦ do
      eraseProgram name
      onWorld (p.destroy i)
      return .ok .done
  | .drop name =>
    withProgram name fun p ↦ do
      eraseProgram name
      onWorld p.release
      return .ok .done
  | .isCurrent name =>
    withProgram name fun p ↦ do
      return .ok (.flag (p.isCurrent ((← get).world.context i)))
  | .isLinked name =>
    withProgram name fun p ↦ do
      return .ok (.flag (← within i (Context.isLinked p.handle)))
  | .activeUniforms name =>
    withProgram name fun p ↦ do
      return .ok (.names (← within i (Context.activeUniforms p.handle)))
  | .uniforms name =>
    withProgram name fun p ↦ return .ok (.table p.uniforms)
  | .descriptor program name =>
    withProgram program fun p ↦ return .ok (.descriptor p.uniforms[name]?)
  | .stageTypes name =>
    withProgram name fun p ↦ return .ok (.types (p.stages.map fun stage ↦ stage.type))
  | .listing name =>
    withProgram name fun p ↦
      return if 1 < p.uniforms.size then .error .unordered else .ok (.text p.listing)
  | .set program name value =>
    withProgram program fun p ↦ do
      match ← within i (p.setUniform name value).run with
      | .ok () => return .ok .done
      | .error e => return .error (.uniform e)
  | .get program name =>
    withProgram program fun p ↦ do
      match ← within i (p.getUniform name).run with
      | .ok value => return .ok (.value value)
      | .error e => return .error (.uniform e)

/-- Releases all tenants, programs before stages, by the names of their slots. -/
def close : SessionAction δ κ n Unit := do
  let programs := (← get).programs.toList
  let stages := (← get).stages.toList
  modify fun s ↦ { s with programs := ∅, stages := ∅ }
  onWorld (programs.forM fun entry ↦ entry.2.release)
  onWorld (stages.forM fun entry ↦ entry.2.release)

end Session

end Shading
