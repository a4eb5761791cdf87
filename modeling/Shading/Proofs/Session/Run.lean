import Shading.Session.Basic
import Shading.Session.Environment

/-!
# Runs of a session

A run is any sequence of operations and of events from outside, each in one of the contexts. What
happened in it is told by a history: every entry on record, and every write to a uniform that was
answered without a fault, together with the program that the move was about. A move that makes a
program is about the program with the next number.
-/

namespace Shading

open Shading.Uniform

inductive Move (n : Nat) (ε : Type)
  | perform (context : Fin n) (operation : Operation)
  | react (context : Fin n) (event : ε)

inductive Deed (n : Nat) (κ : Type)
  | recorded (entry : Entry (Fin n × Traffic κ))
  | wrote (name : String) (data : Data)

abbrev History (n : Nat) (κ : Type) : Type :=
  List (Option ProgramId × Deed n κ)

namespace Operation

/-- The slot of the program that an operation works on. -/
def target : Operation → Option String
  | append program _ | bind program | unbind program => some program
  | destroy program | drop program => some program
  | isCurrent program | isLinked program | activeUniforms program | uniforms program => some program
  | descriptor program _ | stageTypes program | listing program => some program
  | set program _ _ | get program _ => some program
  | newStage .. | stageInfo _ | dropStage _ | collect .. | newProgram .. | ofSources .. => none

def makesProgram : Operation → Bool
  | newProgram .. | ofSources .. => true
  | _ => false

end Operation

namespace Session

variable {δ κ ε : Type} {n : Nat}

/-- The program that a move is about. -/
def subject (s : Session δ n) : Move n ε → Option ProgramId
  | .perform i operation =>
    if operation.makesProgram then some ⟨(s.world.context i).nextId⟩
    else operation.target.bind fun name ↦ s.programs[name]?.map Program.id
  | .react _ _ => none

def writes : Move n ε → Answer → List (Deed n κ)
  | .perform _ (.set _ name value), .ok _ => [.wrote name value.toData]
  | _, _ => []

variable [Device δ κ] [Environment δ κ ε]

def move : Move n ε → SessionAction δ κ n Answer
  | .perform i operation => perform i operation
  | .react i event => do
    match ← within i (Context.onDevice (Environment.react event)) with
    | .ok () => return .ok .done
    | .error e => return .error (.state e)

def deeds (m : Move n ε) (s : Session δ n) : History n κ :=
  let outcome := (move m).run s
  (outcome.record.map Deed.recorded ++ writes m outcome.value).map (subject s m, ·)

def after : List (Move n ε) → Session δ n → Session δ n
  | [], s => s
  | m :: rest, s => after rest ((move m).run s).state

def history : List (Move n ε) → Session δ n → History n κ
  | [], _ => []
  | m :: rest, s => deeds m s ++ history rest ((move m).run s).state

@[simp] theorem after_nil (s : Session δ n) : after ([] : List (Move n ε)) s = s := rfl

@[simp] theorem after_cons (m : Move n ε) (rest : List (Move n ε)) (s : Session δ n) :
    after (m :: rest) s = after rest ((move m).run s).state := rfl

theorem after_append (first second : List (Move n ε)) (s : Session δ n) :
    after (first ++ second) s = after second (after first s) := by
  induction first generalizing s with
  | nil => rfl
  | cons m rest ih => exact ih _

@[simp] theorem history_nil (s : Session δ n) :
    history ([] : List (Move n ε)) s = ([] : History n κ) := rfl

@[simp] theorem history_cons (m : Move n ε) (rest : List (Move n ε)) (s : Session δ n) :
    (history (m :: rest) s : History n κ) =
      deeds m s ++ history rest ((move m).run s).state := rfl

theorem history_append (first second : List (Move n ε)) (s : Session δ n) :
    (history (first ++ second) s : History n κ) =
      history first s ++ history second (after first s) := by
  induction first generalizing s with
  | nil => rfl
  | cons m rest ih =>
    calc history (m :: rest ++ second) s
        = deeds m s ++ (history rest ((move m).run s).state ++
            history second (after rest ((move m).run s).state)) := by
          rw [List.cons_append, history_cons, ih]
      _ = history (m :: rest) s ++ history second (after (m :: rest) s) := by
          rw [history_cons, after_cons, List.append_assoc]

end Session

end Shading
