import Shading.Session.Direct
import Shading.Session.Environment

/-!
# Transcripts

A step of a session is a command in one of its contexts: an operation, a direct request, an event,
or an operation between two events. The transcript of a session tells, step by step, the answer,
what an observer saw, what was logged, and how the program that the step is about was left. It
begins with the start of the devices and ends with the release of whatever the slots of the
session still held. A panic ends the session in the middle, and leaves no transcript of it.
-/

namespace Shading

/-- What a step may do. -/
inductive Command (ε : Type)
  | manage (operation : Operation)
  | request (operation : DeviceOperation)
  | event (event : ε)
  | during (enter leave : ε) (operation : Operation)
  | unreadable

namespace Command

variable {δ κ ε : Type} {n : Nat} [Environment δ κ ε]

def react (i : Fin n) (event : ε) : WorkbenchAction δ κ n Answer := do
  match ← Workbench.within i (Context.onDevice (Environment.react event)) with
  | .ok () => return .ok .done
  | .error e => return .error (.state e)

/-- An operation between two events is executed whatever the events answer. -/
def execute [Device δ κ] (i : Fin n) : Command ε → WorkbenchAction δ κ n Answer
  | manage operation => Workbench.onSession (Session.perform i operation)
  | request operation => Workbench.request i operation
  | event e => react i e
  | during enter leave operation => do
    let _ ← react i enter
    let answer ← Workbench.onSession (Session.perform i operation)
    let _ ← react i leave
    return answer
  | unreadable => return .error .unreadable

end Command

/-- A command with the context it is given in. -/
structure Step (n : Nat) (ε : Type) where
  context : Fin n
  command : Command ε
  /-- The slot of the program that is reported on afterwards. -/
  watched : Option String

/-- How a step has left a program. -/
structure ProgramReport where
  id : ProgramId
  linkState : LinkState
  bound : Bool
  current : Bool
  stages : Nat
  uniforms : Nat

/-- What is told of a step. -/
structure StepReport (κ : Type) where
  answer : Answer
  seen : List κ
  logged : List String
  current : Option ProgramId
  program : Option ProgramReport

/-- What is told of a session. -/
structure Transcript (κ : Type) where
  opening : List κ
  steps : List (StepReport κ)
  closing : List κ
  closingLog : List String
  current : List (Option ProgramId)

namespace Transcript

variable {δ κ ε : Type} {n : Nat}

/-- What an observer saw at each context, context by context. -/
def seen (δ : Type) [Environment δ κ ε] (record : List (Entry (Fin n × Traffic κ))) : List κ :=
  (List.finRange n).flatMap fun i ↦
    record.filterMap fun
      | .call (j, traffic) => if j = i then Environment.observe δ traffic else none
      | .note _ _ => none

/-- The notes of a record as lines of a log. -/
def logged (record : List (Entry (Fin n × Traffic κ))) : List String :=
  record.filterMap fun
    | .call _ => none
    | .note level text => some (level.name ++ " " ++ text)

/-- An outcome that is a panic, be it the answer or a note on record. -/
def panics {σ : Type} (outcome : Outcome (Fin n × Traffic κ) σ Answer) : Bool :=
  (match outcome.value with
    | .ok _ => false
    | .error fault => fault.isPanic) ||
  outcome.record.any fun
    | .call _ => false
    | .note level _ => level = .panic

def reportOn (p : Program n) (c : Context δ) : ProgramReport where
  id := p.id
  linkState := p.linkState
  bound := p.bound
  current := p.isCurrent c
  stages := p.stages.length
  uniforms := p.uniforms.size

variable [Device δ κ] [Environment δ κ ε]

/-- A step that panics is not reported. -/
def step (s : Step n ε) (before : Workbench δ n) : Option (StepReport κ × Workbench δ n) :=
  let outcome := (s.command.execute s.context).run before
  let after := outcome.state.session
  let context := after.world.context s.context
  let watched := s.watched.bind fun name ↦ after.programs[name]?
  let report :=
    { answer := outcome.value
      seen := seen δ outcome.record
      logged := logged outcome.record
      current := context.current
      program := watched.map fun p ↦ reportOn p context }
  if panics outcome then none else some (report, outcome.state)

/-- The reports of all steps, if none of them panics. -/
def run : List (Step n ε) → Workbench δ n → Option (List (StepReport κ) × Workbench δ n)
  | [], bench => some ([], bench)
  | s :: rest, bench => do
    let (report, bench) ← step s bench
    let (reports, bench) ← run rest bench
    return (report :: reports, bench)

def start : WorkbenchAction δ κ n Unit :=
  (List.finRange n).forM fun i ↦ Workbench.within i (Context.onDevice Environment.start)

/-- The transcript of a session without a panic. -/
def ofSteps (devices : Vector δ n) (script : List (Step n ε)) : Option (Transcript κ) := do
  let opened := start.run (Workbench.new devices)
  let (reports, bench) ← run script opened.state
  let closed := Session.close.run bench.session
  return {
    opening := seen δ opened.record
    steps := reports
    closing := seen δ closed.record
    closingLog := logged closed.record
    current := closed.state.world.toList.map Context.current }

end Transcript

end Shading
