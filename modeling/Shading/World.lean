import Shading.Program.Binding

/-!
# Worlds

A world is a number of contexts. Stages and programs are made by one of them and released by the
one that made them: a program first, then its stages in order. A program that cannot be completed
is released at once, together with every stage that was given to it.
-/

namespace Shading

/-- Contexts that share nothing. -/
abbrev World (δ : Type) (n : Nat) : Type :=
  Vector (Context δ) n

abbrev WorldAction (δ κ : Type) (n : Nat) (α : Type) : Type :=
  Action (Fin n × Traffic κ) (World δ n) α

namespace World

variable {δ κ α : Type} {n : Nat}

def context (i : Fin n) (world : World δ n) : Context δ :=
  world[i]

/-- Runs an action in one of the contexts and leaves the others alone. -/
def within (i : Fin n) (x : ContextAction δ κ α) : WorldAction δ κ n α :=
  Action.focus (context i) (fun c world ↦ world.set i c) (fun call ↦ (i, call)) x

end World

open World

variable {δ κ : Type} [Device δ κ] {n : Nat}

namespace Stage

/-- The source of a stage of several strings is the strings on lines of their own. -/
def new (i : Fin n) (type : StageType) (sources : List String) :
    WorldAction δ κ n (Except StageError (Stage n)) :=
  within i do
    if sources.isEmpty then return .error (.noSource type)
    else
      match ← Context.newStage type sources with
      | .error e =>
        Action.note .warn e.message
        return .error e
      | .ok handle =>
        Action.note .debug ("compiled " ++ type.name ++ " from " ++ toString sources.length ++
          " source string(s)")
        return .ok { handle, type, source := String.intercalate "\n" sources, home := i }

def release (s : Stage n) : WorldAction δ κ n Unit :=
  within s.home (Context.destroyStage s.handle)

end Stage

namespace Program

def release (p : Program n) : WorldAction δ κ n Unit := do
  within p.home p.retire
  p.stages.forM Stage.release

/-- The number of a program is taken even if it cannot be linked. -/
def assemble (i : Fin n) (stages : List (Stage n)) :
    ContextAction δ κ (Program n × Except ProgramError Unit) := do
  let handle ← Context.newProgram
  let id ← Context.newId
  link
    { id, handle, home := i, stages, attached := 0, linkState := .unlinked, bound := false,
      uniforms := ∅ }

/-- What was made for a program that cannot be linked is released again. -/
def new (i : Fin n) (stages : List (Stage n)) :
    WorldAction δ κ n (Except ProgramError (Program n)) := do
  if stages.isEmpty then return .error .noStage
  else
    let (p, linked) ← within i (assemble i stages)
    match linked with
    | .ok () => return .ok p
    | .error e =>
      p.release
      return .error e

def ofSources (i : Fin n) (vertex fragment : String) :
    WorldAction δ κ n (Except ProgramError (Program n)) := do
  match ← Stage.new i .vertex [vertex] with
  | .error e => return .error (.stage e)
  | .ok first =>
    match ← Stage.new i .fragment [fragment] with
    | .error e =>
      first.release
      return .error (.stage e)
    | .ok second => new i [first, second]

/-- A program is taken out of use first if it is the current one. -/
def destroy (i : Fin n) (p : Program n) : WorldAction δ κ n Unit := do
  let p ← within i do
    let p ← if p.isCurrent (← get) then p.unbind else pure p
    Action.note .debug ("destroying " ++ title p.id)
    return p
  p.release

end Program

end Shading
