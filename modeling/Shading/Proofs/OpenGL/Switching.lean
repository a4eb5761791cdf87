import Mathlib.Data.List.Chain
import Shading.OpenGL.Backend
import Shading.OpenGL.Scripted

/-!
# Switching programs

A back end remembers the program in use and makes no call that its record says is not needed. As
far as the program in use goes, it cannot be told from a back end without a record: the record is
right whenever there is one, a program that was put to use is in use, and no call is made in vain.
Others may use the driver as well, as long as the record is invalidated before it is consulted.

Taking a program out of use is another matter. Without a record the back end does not know that
the program is in use, and leaves it there.
-/

namespace Shading.OpenGL.Backend

variable {γ : Type}

/-- What goes on record when the state is used while it is borrowed. -/
def borrowNotes (b : Backend γ) : List (Entry Call) :=
  if b.borrowed then [.note .panic alreadyBorrowed] else []

/-- Whatever is read off the calls of a record is not read off these notes. -/
theorem filterMap_borrowNotes {α : Type} {f : Entry Call → Option α}
    (h : ∀ level text, f (.note level text) = none) (b : Backend γ) :
    b.borrowNotes.filterMap f = [] := by
  unfold borrowNotes
  split
  · rw [List.filterMap_cons_none (h _ _), List.filterMap_nil]
  · rfl

variable [Driver γ]

/-- A back end that has just acquired the state of its driver. -/
def opened (driver : γ) : Backend γ :=
  ((acquire false).run ⟨driver, none, false⟩).state

/-- The back end after a program was put to use by a call. -/
def switchedTo (program : Nat) (b : Backend γ) : Backend γ :=
  { b with driver := Driver.useProgram program b.driver, inUse := some program }

/-- What is told to the driver is believed. -/
theorem run_setProgram (program : Nat) (b : Backend γ) :
    (setProgram program).run b = ⟨(), b.switchedTo program, [.call (.useProgram program)]⟩ := rfl

/-- One call or none. -/
theorem run_switchProgram (program : Nat) (b : Backend γ) :
    (switchProgram program).run b =
      if b.inUse = some program then ⟨(), b, []⟩
      else ⟨(), b.switchedTo program, [.call (.useProgram program)]⟩ := by
  by_cases h : b.inUse = some program <;> simp [switchProgram, h, run_setProgram]

theorem run_useProgram (program : Option Nat) (b : Backend γ) :
    (useProgram program).run b =
      if b.inUse = some (program.getD 0) then ⟨(), b, b.borrowNotes⟩
      else ⟨(), b.switchedTo (program.getD 0),
        b.borrowNotes ++ [.call (.useProgram (program.getD 0))]⟩ := by
  cases hborrowed : b.borrowed <;> by_cases h : b.inUse = some (program.getD 0) <;>
    simp [useProgram, borrowNotes, run_switchProgram, hborrowed, h]

theorem run_leaveProgram (program : Nat) (b : Backend γ) :
    (leaveProgram program).run b =
      if b.inUse = some program then ⟨(), b.switchedTo 0, [.call (.useProgram 0)]⟩
      else ⟨(), b, []⟩ := by
  by_cases h : b.inUse = some program <;> simp [leaveProgram, h, run_setProgram]

/-- What concerns the program in use. A step of others may do anything to the driver; the record is
invalidated right after it. -/
inductive Switch (γ : Type)
  | use (program : Option Nat)
  | leave (program : Nat) (exists_program : program ≠ 0)
  | invalidate
  | interfere (others : γ → γ)

namespace Switch

def run : Switch γ → Action Call (Backend γ) Unit
  | use program => useProgram program
  | leave program _ => leaveProgram program
  | invalidate => invalidateProgram
  | interfere others => do
    modify fun b ↦ { b with driver := others b.driver }
    invalidateProgram

/-- The same step of a driver that is told every time. -/
def direct : Switch γ → γ → γ
  | use program, driver => Driver.useProgram (program.getD 0) driver
  | leave program _, driver =>
    if Driver.currentProgram driver = program then Driver.useProgram 0 driver else driver
  | invalidate, driver => driver
  | interfere others, driver => others driver

/-- After such a step the back end does not know what is in use. -/
def invalidates : Switch γ → Bool
  | use _ | leave _ _ => false
  | invalidate | interfere _ => true

/-- The calls that put a program to use, each as that program, and invalidations as `none`. -/
def marks (step : Switch γ) (b : Backend γ) : List (Option Nat) :=
  ((step.run.run b).record.filterMap fun
    | .call (.useProgram program) => some (some program)
    | _ => none) ++
    if step.invalidates then [none] else []

end Switch

/-- The back end behind a sequence of steps. -/
def afterSwitches : List (Switch γ) → Backend γ → Backend γ
  | [], b => b
  | step :: rest, b => afterSwitches rest (step.run.run b).state

/-- The driver if every step had called it. -/
def directly : List (Switch γ) → γ → γ
  | [], driver => driver
  | step :: rest, driver => directly rest (step.direct driver)

/-- The programs that were put to use by calls, one for each call. -/
def marksOf : List (Switch γ) → Backend γ → List (Option Nat)
  | [], _ => []
  | step :: rest, b => step.marks b ++ marksOf rest (step.run.run b).state

theorem afterSwitches_append (first second : List (Switch γ)) (b : Backend γ) :
    afterSwitches (first ++ second) b = afterSwitches second (afterSwitches first b) := by
  induction first generalizing b with
  | nil => rfl
  | cons step rest ih => exact ih _

/-- Whatever the record says is in use here, and in a driver that was told every time. -/
def Records (b : Backend γ) (driver : γ) : Prop :=
  ∀ program, b.inUse = some program →
    Driver.currentProgram b.driver = program ∧ Driver.currentProgram driver = program

variable {b : Backend γ} {driver : γ}

/-- A step keeps the back end and the plain driver in agreement. -/
theorem Records.step (huse : ∀ program (d : γ), Driver.currentProgram (Driver.useProgram program d)
      = program) (h : Records b driver) (step : Switch γ) :
    Records (step.run.run b).state (step.direct driver) := by
  cases step with
  | use program =>
    rw [Switch.run, run_useProgram]
    split
    · rename_i hsame
      intro found hfound
      obtain rfl : program.getD 0 = found := Option.some.inj (hsame.symm.trans hfound)
      exact ⟨(h _ hfound).1, huse _ _⟩
    · intro found hfound
      obtain rfl : program.getD 0 = found := Option.some.inj hfound
      exact ⟨huse _ _, huse _ _⟩
  | leave program =>
    rw [Switch.run, run_leaveProgram, Switch.direct]
    split
    · rename_i hsame
      rw [if_pos (h _ hsame).2]
      intro found hfound
      obtain rfl : 0 = found := Option.some.inj hfound
      exact ⟨huse _ _, huse _ _⟩
    · rename_i hother
      intro found hfound
      obtain ⟨hhere, hthere⟩ := h found hfound
      have hne : Driver.currentProgram driver ≠ program := by
        rintro rfl
        exact hother (hfound.trans (congrArg some hthere.symm))
      rw [if_neg hne]
      exact ⟨hhere, hthere⟩
  | invalidate =>
    intro found hfound
    cases hfound
  | interfere others =>
    intro found hfound
    cases hfound

/-- So does a sequence of steps. -/
theorem records_after (huse : ∀ program (d : γ), Driver.currentProgram (Driver.useProgram program d)
      = program) (h : Records b driver) (steps : List (Switch γ)) :
    Records (afterSwitches steps b) (directly steps driver) := by
  induction steps generalizing b driver with
  | nil => exact h
  | cons step rest ih => exact ih (h.step huse step)

/-- Two marks in a row that do not put the same program to use. -/
def Differ (first second : Option Nat) : Prop :=
  first = second → first = none

/-- What the record says before a step stands for the last mark. -/
theorem isChain_marks_append (step : Switch γ) {b : Backend γ} {rest : List (Option Nat)}
    (h : ((step.run.run b).state.inUse :: rest).IsChain Differ) :
    (b.inUse :: (step.marks b ++ rest)).IsChain Differ := by
  cases step with
  | use program =>
    rw [Switch.run, run_useProgram] at h
    rw [Switch.marks, Switch.run, run_useProgram]
    split at h
    · rename_i hsame
      rwa [if_pos hsame, filterMap_borrowNotes fun _ _ ↦ rfl]
    · rename_i hother
      rw [if_neg hother, List.filterMap_append, filterMap_borrowNotes fun _ _ ↦ rfl]
      exact .cons_cons (fun heq ↦ absurd heq hother) h
  | leave program hprogram =>
    rw [Switch.run, run_leaveProgram] at h
    rw [Switch.marks, Switch.run, run_leaveProgram]
    split at h
    · rename_i hsame
      rw [if_pos hsame, hsame]
      exact .cons_cons (fun heq ↦ absurd (Option.some.inj heq) hprogram) h
    · rename_i hother
      rwa [if_neg hother]
  | invalidate => exact .cons_cons id h
  | interfere others => exact .cons_cons id h

/-- No call repeats the one before it. -/
theorem isChain_marksOf (steps : List (Switch γ)) (b : Backend γ) :
    (b.inUse :: marksOf steps b).IsChain Differ := by
  induction steps generalizing b with
  | nil => exact .singleton _
  | cons step rest ih => exact isChain_marks_append step (ih _)

/-- A back end with a record and a driver that is told every time agree on the program in use
whenever there is a record, and after every use. Two calls in a row to use a program, without an
invalidation in between, never name the same one, and the first names another one than was found
in use unless the record was invalidated before. -/
theorem switching_agrees_with_direct
    (huse : ∀ program (d : γ), Driver.currentProgram (Driver.useProgram program d) = program)
    (driver : γ) (steps : List (Switch γ)) :
    (∀ program, (afterSwitches steps (opened driver)).inUse = some program →
      Driver.currentProgram (afterSwitches steps (opened driver)).driver = program ∧
        Driver.currentProgram (directly steps driver) = program) ∧
    (∀ program, Driver.currentProgram
          (afterSwitches (steps ++ [.use program]) (opened driver)).driver = program.getD 0 ∧
        Driver.currentProgram (directly (steps ++ [.use program]) driver) = program.getD 0) ∧
    (some (Driver.currentProgram driver) :: marksOf steps (opened driver)).IsChain Differ := by
  have hopened : Records (opened driver) driver := by
    intro program h
    have hcurrent : Driver.currentProgram driver = program := Option.some.inj h
    exact ⟨hcurrent, hcurrent⟩
  refine ⟨records_after huse hopened steps, ?_, isChain_marksOf steps (opened driver)⟩
  intro program
  refine records_after huse hopened (steps ++ [.use program]) _ ?_
  rw [afterSwitches_append]
  simp only [afterSwitches, Switch.run, run_useProgram]
  split
  · assumption
  · rfl

/-- A program found in use is used, left, and used again after others have put it to use. -/
def sharedDriver : List (Switch Scripted) :=
  [.use (some 3), .leave 3 (by decide), .use none, .interfere (Driver.useProgram 3), .use (some 3)]

theorem switching_agrees_with_direct_sharedDriver :
    marksOf sharedDriver (opened (Scripted.new { Script.blank with current := 3 })) =
        [some 0, none, some 3] ∧
      [some 3, some 0, none, some 3].IsChain Differ := by
  have hmarks : marksOf sharedDriver (opened (Scripted.new { Script.blank with current := 3 })) =
      [some 0, none, some 3] := by
    decide +kernel
  refine ⟨hmarks, ?_⟩
  have hchain := (switching_agrees_with_direct (fun _ _ ↦ rfl)
    (Scripted.new { Script.blank with current := 3 }) sharedDriver).2.2
  rwa [hmarks] at hchain

end Shading.OpenGL.Backend
