import Mathlib.Data.List.Forall2
import Shading.Proofs.Session.Run
import Shading.Proofs.Uniform.Components

/-!
# Values with the same components

Whether a host value was nested in one way or in another, was given as truth values or was made as
data beforehand can be told neither from the answer to a write nor from anything that the write
does, and so neither from a whole run.
-/

namespace Shading

open Shading.Uniform

section

variable {δ κ : Type} [Device δ κ] {n : Nat} {value value' : HostValue}

/-- A write looks at the components and at nothing else. -/
theorem Program.setUniform_eq_of_components_eq (p : Program n) (name : String)
    (h : value.components = value'.components) :
    (p.setUniform name value : AccessAction δ κ Unit) = p.setUniform name value' := by
  rw [setUniform, setUniform, HostValue.toData_eq_of_components_eq h]

theorem Session.perform_set_eq_of_components_eq (i : Fin n) (slot name : String)
    (h : value.components = value'.components) :
    (perform i (.set slot name value) : SessionAction δ κ n Answer) =
      perform i (.set slot name value') := by
  simp only [perform, Program.setUniform_eq_of_components_eq _ name h]

/-- Values of the same components flatten to just these, one for each leaf, and a write of the one
does what a write of the other does: it has the same answer, leaves the same state and puts the
same requests and notes on record. -/
theorem Session.only_components_matter (h : value.components = value'.components) :
    (value.toData = value.components ∧ value'.toData = value.components ∧
      value.toData.length = value.leafCount ∧ value'.toData.length = value'.leafCount) ∧
    (∀ (p : Program n) (name : String) (c : Context δ),
      (p.setUniform name value : AccessAction δ κ Unit).run.run c =
        (p.setUniform name value' : AccessAction δ κ Unit).run.run c) ∧
    ∀ (s : Session δ n) (i : Fin n) (slot name : String),
      (perform i (.set slot name value) : SessionAction δ κ n Answer).run s =
        (perform i (.set slot name value') : SessionAction δ κ n Answer).run s := by
  refine ⟨⟨value.toData_eq_components, ?_, ?_, ?_⟩, ?_, ?_⟩
  · rw [value'.toData_eq_components, h]
  · rw [value.toData_eq_components, value.length_components]
  · rw [value'.toData_eq_components, value'.length_components]
  · intro p name c
    rw [Program.setUniform_eq_of_components_eq p name h]
  · intro s i slot name
    rw [perform_set_eq_of_components_eq i slot name h]

end

/-- A vector of two truth values, which are stored as integers. -/
def flagRun : List (Move 1 (List InMemory.Settings.Setting)) :=
  [.perform 0 (.ofSources "program" "uniform bvec2 flags;" ""), .perform 0 (.bind "program")]

/-- One and zero at different depths, among empty parts. -/
def raggedFlags : HostValue :=
  .ints (.node [.node [], .node [.leaf 1, .node []], .leaf 0])

/-- True and false, which flatten to the same components. -/
def truthFlags : HostValue :=
  .bools (.node [.leaf true, .node [.leaf false]])

theorem Session.only_components_matter_flagRun :
    let s := after flagRun (.new #v[InMemory.new .blank])
    let ragged := (perform 0 (.set "program" "flags" raggedFlags) :
      SessionAction InMemory Request 1 Answer).run s
    let truths := (perform 0 (.set "program" "flags" truthFlags) :
      SessionAction InMemory Request 1 Answer).run s
    raggedFlags.toData = .ints [1, 0] ∧ truthFlags.toData = .ints [1, 0] ∧
      ragged.value.isOk = true ∧ ragged = truths := by
  intro s ragged truths
  have hragged : raggedFlags.components = .ints [1, 0] := by decide +kernel
  have htruths : truthFlags.components = .ints [1, 0] := by decide +kernel
  obtain ⟨⟨hdata, hdata', -, -⟩, -, hperform⟩ :=
    @only_components_matter InMemory Request _ 1 _ _ (hragged.trans htruths.symm)
  have hok : ragged.value.isOk = true := by decide +kernel
  exact ⟨hdata.trans hragged, hdata'.trans hragged, hok, hperform s 0 "program" "flags"⟩

variable {δ κ ε : Type} {n : Nat}

/-- The two moves are the same one, up to how a value that is written was given. -/
inductive Move.Alike : Move n ε → Move n ε → Prop
  | refl (m : Move n ε) : Alike m m
  | set {value value' : HostValue} (i : Fin n) (slot name : String)
      (h : value.components = value'.components) :
      Alike (.perform i (.set slot name value)) (.perform i (.set slot name value'))

namespace Session

theorem subject_eq_of_alike {m m' : Move n ε} (h : m.Alike m') (s : Session δ n) :
    s.subject m = s.subject m' := by
  cases h with
  | refl | set => rfl

theorem writes_eq_of_alike {m m' : Move n ε} (h : m.Alike m') (answer : Answer) :
    (writes m answer : List (Deed n κ)) = writes m' answer := by
  cases h with
  | refl => rfl
  | set i slot name h =>
    cases answer with
    | ok reply => rw [writes, writes, HostValue.toData_eq_of_components_eq h]
    | error fault => rfl

variable [Device δ κ] [Environment δ κ ε]

theorem move_eq_of_alike {m m' : Move n ε} (h : m.Alike m') :
    (move m : SessionAction δ κ n Answer) = move m' := by
  cases h with
  | refl => rfl
  | set i slot name h => exact perform_set_eq_of_components_eq i slot name h

/-- What is told of two moves that are alike is the same. -/
theorem deeds_eq_of_alike {m m' : Move n ε} (h : m.Alike m') (s : Session δ n) :
    (deeds m s : History n κ) = deeds m' s := by
  simp only [deeds, move_eq_of_alike h, writes_eq_of_alike h, subject_eq_of_alike h]

/-- Runs that write the same components go the same way and leave the same history. -/
theorem run_eq_of_forall₂_alike {moves moves' : List (Move n ε)}
    (h : List.Forall₂ Move.Alike moves moves') (s : Session δ n) :
    after moves s = after moves' s ∧ (history moves s : History n κ) = history moves' s := by
  induction h generalizing s with
  | nil => exact ⟨rfl, rfl⟩
  | @cons m m' rest rest' halike _ ih =>
    obtain ⟨hafter, hhistory⟩ := ih ((move m).run s).state
    constructor
    · rw [after_cons, after_cons, hafter, move_eq_of_alike halike]
    · rw [history_cons, history_cons, hhistory, deeds_eq_of_alike halike,
        move_eq_of_alike halike]

end Session

end Shading
