import Shading.Program.Basic

/-!
# Linking and binding

Linking attaches the stages that are new, asks the device to link, and reads the uniform table out
of the sources. Binding links first if need be and makes the program the current one of the
context; when that link fails, a program that was current is unbound. Appending to a bound program
binds it again at once, so that the context goes on with all of its stages.
-/

namespace Shading

namespace Program

variable {δ κ : Type} [Device δ κ] {n : Nat}

/-- The number decides; the mark of being bound is not asked. -/
def isCurrent (p : Program n) (c : Context δ) : Bool :=
  c.current = some p.id

/-- The log names a program by its number. -/
def title (id : ProgramId) : String :=
  "program " ++ id.listing

/-- Stages that were attached before are not attached again. -/
def attachNew (p : Program n) : ContextAction δ κ (Program n) := do
  (p.stages.drop p.attached).forM fun stage ↦ Context.attachStage p.handle stage.toShader
  return { p with attached := p.stages.length }

/-- A program whose declarations cannot be read counts as failed, though the device has linked it.
-/
def readUniforms (p : Program n) : ContextAction δ κ (Program n × Except ProgramError Unit) := do
  match Uniform.parse p.source with
  | .ok uniforms =>
    Action.note .debug (title p.id ++ " linked with " ++ toString uniforms.size ++
      " uniform declaration(s)")
    return ({ p with uniforms, linkState := .linked }, .ok ())
  | .error e =>
    Action.note .warn (title p.id ++ ": " ++ e.message)
    return (p.fail, .error (.declaration e))

/-- Attaches what is new and links; without success the program has no uniforms. -/
def link (p : Program n) : ContextAction δ κ (Program n × Except ProgramError Unit) := do
  let p ← p.attachNew
  match ← Context.linkProgram p.handle with
  | .ok () => p.readUniforms
  | .error e =>
    Action.note .warn (title p.id ++ ": " ++ e.message)
    return (p.fail, .error e)

/-- A program that is linked is not linked again. -/
def linkIfNeeded (p : Program n) : ContextAction δ κ (Program n × Except ProgramError Unit) :=
  if p.linkState = .linked then pure (p, .ok ()) else p.link

/-- A change of the current program is worth a note if another one was current. -/
def noteChange (previous : Option ProgramId) (id : ProgramId) (text : String → String) :
    ContextAction δ κ Unit :=
  match previous with
  | some other => if other = id then pure () else Action.note .debug (text (title other))
  | none => pure ()

/-- Clears the current program of the context, whichever it is. -/
def unbind (p : Program n) : ContextAction δ κ (Program n) := do
  Context.useProgram none
  let previous := (← get).current
  Context.setCurrent none
  noteChange previous p.id fun other ↦
    "unbinding through " ++ title p.id ++ " clears " ++ other
  return { p with bound := false }

/-- Puts the program to use, whatever was in use before. -/
def makeCurrent (p : Program n) : ContextAction δ κ (Program n) := do
  Context.useProgram (some p.handle)
  let previous := (← get).current
  Context.setCurrent (some p.id)
  noteChange previous p.id fun other ↦ title p.id ++ " supersedes " ++ other
  return { p with bound := true }

/-- If the program cannot be linked it does not stay in use. -/
def bind (p : Program n) : ContextAction δ κ (Program n × Except ProgramError Unit) := do
  let (p, linked) ← p.linkIfNeeded
  match linked with
  | .ok () => return (← p.makeCurrent, .ok ())
  | .error e =>
    if p.isCurrent (← get) then return (← p.unbind, .error e)
    else return ({ p with bound := false }, .error e)

/-- The mark of being bound decides whether the program is bound again, be it up to date or not. -/
def append (p : Program n) (stage : Stage n) :
    ContextAction δ κ (Program n × Except ProgramError Unit) := do
  Action.note .debug ("appending " ++ stage.type.name ++ " to " ++ title p.id)
  let p := { p with stages := p.stages ++ [stage], linkState := .unlinked }
  if p.bound then p.bind else return (p, .ok ())

/-- The part of releasing a program that concerns its own context. -/
def retire (p : Program n) : ContextAction δ κ Unit := do
  if p.isCurrent (← get) then
    Action.note .warn (title p.id ++ " dropped while in use; releasing it anyway")
    Context.setCurrent none
  Context.destroyProgram p.handle

end Program

end Shading
