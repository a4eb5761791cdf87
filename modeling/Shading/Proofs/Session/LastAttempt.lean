import Shading.Proofs.Session.LinkedPrograms

/-!
# The last attempt to link

A program keeps what its last attempt to link made of it. The attempt was about the stages that are
attached; if the device accepted it and their declarations can be read, it left their table, and
otherwise no table at all. A stage that arrives later does not touch the table: until the program is
bound again it is unlinked and still shows the table of the stages before.
-/

namespace Shading

open Shading.Uniform World

namespace Program

variable {n : Nat}

/-- The text that the last attempt to link was about. -/
def attemptedSource (p : Program n) : String :=
  String.intercalate ";" ((p.stages.take p.attached).map fun stage ↦ stage.source)

/-- The table that the last attempt to link was to leave, if it succeeded. -/
def lastAttempt (p : Program n) (asked : List Request) : Option Table :=
  if asked.getLast? = some (.linkProgram p.handle true) then (parse p.attemptedSource).toOption
  else none

/-- What the last attempt makes of the link state, if no stage was added since. -/
def linkStateAfter (p : Program n) (attempt : Option Table) : LinkState :=
  if p.attached < p.stages.length then .unlinked else if attempt.isSome then .linked else .failed

end Program

/-- A program that shows what its last attempt to link left. -/
structure Remembers (asked : List Request) (p : Program 1) : Prop where
  bounded : p.attached ≤ p.stages.length
  table : p.uniforms = (p.lastAttempt asked).getD ∅
  linkState : p.linkState = p.linkStateAfter (p.lastAttempt asked)
  unmarked (h : p.attached < p.stages.length) : p.bound = false

namespace Remembers

variable {asked : List Request} {p : Program 1}

/-- An attempt to link is about all stages that there are. -/
theorem lastAttempt_linkRequests (p q : Program 1) (hstages : q.stages = p.stages)
    (hattached : q.attached = p.stages.length) (hhandle : q.handle = p.handle)
    (asked : List Request) (linked : Bool) :
    q.lastAttempt (asked ++ p.linkRequests linked) =
      if linked then (parse p.source).toOption else none := by
  have hlast : (asked ++ p.linkRequests linked).getLast? =
      some (.linkProgram p.handle linked) := by
    rw [Program.linkRequests, ← List.append_assoc, List.getLast?_concat]
  have hsource : q.attemptedSource = p.source := by
    rw [Program.attemptedSource, hstages, hattached, List.take_length, Program.source]
  rw [Program.lastAttempt, hlast, hhandle, hsource]
  cases linked <;> simp

/-- Nothing that was so before an attempt to link matters after it. -/
theorem settle (asked : List Request) (p : Program 1) (answer : Except ProgramError Unit) :
    Remembers (asked ++ p.linkRequests answer.isOk) (p.settle answer).1 := by
  have hnew : ¬p.stages.length < p.stages.length := Nat.lt_irrefl _
  rcases p.settle_cases answer with ⟨uniforms, rfl, hparse, hsettle⟩ | ⟨e, hcause, hsettle⟩
  · have hattempt : (p.withTable uniforms).lastAttempt (asked ++ p.linkRequests true) =
        some uniforms := by
      rw [lastAttempt_linkRequests p (p.withTable uniforms) rfl rfl rfl, hparse]
      rfl
    rw [hsettle]
    refine ⟨le_rfl, (congrArg (·.getD ∅) hattempt).symm, ?_, fun h ↦ absurd h hnew⟩
    exact ((if_neg hnew).trans (if_pos (congrArg Option.isSome hattempt))).symm
  · have hattempt : p.withoutTable.lastAttempt (asked ++ p.linkRequests answer.isOk) = none := by
      rw [lastAttempt_linkRequests p p.withoutTable rfl rfl rfl]
      rcases hcause with hrefused | ⟨fault, hparse⟩
      · rw [hrefused]
        rfl
      · rw [hparse]
        exact ite_self none
    rw [hsettle]
    refine ⟨le_rfl, (congrArg (·.getD ∅) hattempt).symm, ?_, fun h ↦ absurd h hnew⟩
    refine ((if_neg hnew).trans (if_neg ?_)).symm
    rw [hattempt]
    exact Bool.false_ne_true

theorem mark (h : Remembers asked p) {bound : Bool}
    (unmarked : p.attached < p.stages.length → bound = false) :
    Remembers asked { p with bound } :=
  ⟨h.bounded, h.table, h.linkState, unmarked⟩

theorem grow (h : Remembers asked p) (unmarked : p.bound = false) (stage : Stage 1) :
    Remembers asked (p.grow stage) := by
  have hlonger : p.attached < (p.grow stage).stages.length := by
    have hlength : (p.grow stage).stages.length = p.stages.length + 1 := List.length_append
    rw [hlength]
    exact Nat.lt_succ_of_le h.bounded
  have hattempt : (p.grow stage).lastAttempt asked = p.lastAttempt asked := by
    rw [Program.lastAttempt, Program.lastAttempt, Program.attemptedSource, Program.attemptedSource,
      Program.grow, List.take_append_of_le_length h.bounded]
  refine ⟨hlonger.le, ?_, ?_, fun _ ↦ unmarked⟩
  · rw [hattempt]
    exact h.table
  · exact (if_pos hlonger).symm

/-- Every operation on a program keeps what the program remembers. -/
theorem upheld : Upheld Remembers where
  made id handle stages answer := settle [] (Program.fresh id handle 0 stages) answer
  grown h unmarked stage := h.grow unmarked stage
  marked h linked := by
    refine h.mark fun hless ↦ ?_
    have hstate := h.linkState
    rw [linked, Program.linkStateAfter, if_pos hless] at hstate
    cases hstate
  unmarked h := h.mark fun _ ↦ rfl
  relinked {asked p q} _ _ answer bound := by
    refine (settle asked q answer).mark fun hless ↦ absurd hless ?_
    rcases q.settle_cases answer with ⟨uniforms, -, -, hsettle⟩ | ⟨e, -, hsettle⟩
    · rw [hsettle]
      exact Nat.lt_irrefl _
    · rw [hsettle]
      exact Nat.lt_irrefl _

end Remembers

variable {δ κ ε : Type} [Device δ κ] [Environment δ κ ε]

/-- After every run, whatever the device answers, a program shows the table of its last attempt to
link, and says that it is unlinked as long as that attempt missed some of its stages. So a failed
program has no table, while an unlinked one has none just if the last attempt failed or found
nothing declared. -/
theorem table_of_last_attempt (device : δ) (moves : List (Move 1 ε)) {slot : String}
    {p : Program 1} (live : (Session.after moves (.new #v[device])).programs[slot]? = some p) :
    let asked := linkingRequests (actsAbout (Session.history moves (.new #v[device])) p.id)
    p.uniforms = (p.lastAttempt asked).getD ∅ ∧
      (p.linkState = .unlinked ↔ p.attached < p.stages.length) ∧
      (p.linkState = .linked ↔
        p.attached = p.stages.length ∧ p.lastAttempt asked = some p.uniforms) ∧
      (p.linkState = .failed → p.uniforms = ∅) ∧
      (p.linkState = .unlinked → p.bound = false ∧
        (p.uniforms = ∅ ↔ p.lastAttempt asked = none ∨ p.lastAttempt asked = some ∅)) := by
  intro asked
  obtain ⟨hbounded, htable, hstate, hunmarked⟩ := holds_of_live Remembers.upheld device moves live
  change p.uniforms = (p.lastAttempt asked).getD ∅ at htable
  change p.linkState = p.linkStateAfter (p.lastAttempt asked) at hstate
  have hempty : p.uniforms = ∅ ↔ p.lastAttempt asked = none ∨ p.lastAttempt asked = some ∅ := by
    rw [htable]
    cases p.lastAttempt asked <;> simp
  by_cases hnew : p.attached < p.stages.length
  · rw [Program.linkStateAfter, if_pos hnew] at hstate
    rw [hstate]
    refine ⟨htable, by simp [hnew], ?_, nofun, fun _ ↦ ⟨hunmarked hnew, hempty⟩⟩
    exact ⟨nofun, fun h ↦ absurd h.1 hnew.ne⟩
  · have hall : p.attached = p.stages.length := Nat.le_antisymm hbounded (Nat.le_of_not_lt hnew)
    rw [Program.linkStateAfter, if_neg hnew] at hstate
    cases hattempt : p.lastAttempt asked with
    | none =>
      rw [hattempt] at hstate htable
      rw [hstate]
      exact ⟨htable, by simp [hnew], ⟨nofun, nofun⟩, fun _ ↦ htable, nofun⟩
    | some table =>
      rw [hattempt] at hstate htable
      rw [hstate]
      exact ⟨htable, by simp [hnew], ⟨fun _ ↦ ⟨hall, congrArg some htable.symm⟩, fun _ ↦ rfl⟩,
        nofun, nofun⟩

/-- A run in which a program that is not bound receives another stage. -/
def lateRun : List (Move 1 (List InMemory.Settings.Setting)) :=
  [.here (.ofSources "program" "uniform float a;" ""),
    .here (.newStage "stage" .fragment ["uniform vec2 b;"]),
    .here (.append "program" "stage")]

/-- The table of an old link is shown by a program that is unlinked. -/
theorem shown_lateRun :
    (Session.after lateRun (.new #v[InMemory.new .blank])).programs["program"]?.map
      (fun p ↦ (p.linkState, p.uniforms.size)) = some (.unlinked, 1) := by
  decide +kernel

theorem table_of_last_attempt_lateRun :
    ∃ p : Program 1,
      (Session.after lateRun (.new #v[InMemory.new .blank])).programs["program"]? = some p ∧
        p.linkState = .unlinked ∧ p.bound = false ∧ p.uniforms ≠ ∅ := by
  obtain ⟨p, live, hshown⟩ := Option.map_eq_some_iff.1 shown_lateRun
  obtain ⟨hstate, hsize⟩ := Prod.mk.inj hshown
  have hlast := table_of_last_attempt (InMemory.new .blank) lateRun live
  refine ⟨p, live, hstate, (hlast.2.2.2.2 hstate).1, ?_⟩
  intro hempty
  rw [hempty] at hsize
  exact absurd hsize (by decide)

/-- A program that is not linked may still show a table. -/
theorem not_forall_table_empty_unless_linked :
    ¬∀ (settings : InMemory.Settings) (moves : List (Move 1 (List InMemory.Settings.Setting)))
      (slot : String) (p : Program 1),
      (Session.after moves (.new #v[InMemory.new settings])).programs[slot]? = some p →
        p.linkState ≠ .linked → p.uniforms = ∅ ∧ ∀ name : String, p.uniforms[name]? = none := by
  intro hempty
  obtain ⟨p, live, hshown⟩ := Option.map_eq_some_iff.1 shown_lateRun
  obtain ⟨hstate, hsize⟩ := Prod.mk.inj hshown
  have htable := (hempty .blank lateRun "program" p live (by rw [hstate]; nofun)).1
  rw [htable] at hsize
  exact absurd hsize (by decide)

end Shading
