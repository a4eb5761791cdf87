import Shading.Proofs.Session.OneContext

/-!
# The promise made to devices

A device is promised that a program is used and queried only while the last attempt to link it
succeeded. Whether the promise is kept can be told from the acts alone: they show the last answer to
a request to link each program, and which program is in use when a uniform is uploaded.
-/

namespace Shading

open Shading.Uniform World

/-- The last answer to a request to link a program. -/
def lastLink (program : Nat) (acts : List Act) : Option Bool :=
  (acts.filterMap fun
    | .asked (.linkProgram other linked) => if other = program then some linked else none
    | _ => none).getLast?

/-- The program in use after an act. A program that is destroyed goes out of use. -/
def Act.useAfter (current : Option Nat) : Act → Option Nat
  | .asked (.useProgram program) => program
  | .asked (.destroyProgram program) => if current = some program then none else current
  | _ => current

def programInUse (acts : List Act) : Option Nat :=
  acts.foldl Act.useAfter none

/-- The program that an act uses or queries. An upload goes to the program in use. -/
def Act.needs (current : Option Nat) : Act → Option Nat
  | .asked (.useProgram program) => program
  | .asked (.activeUniforms program) | .asked (.uniformLocation program ..) => some program
  | .asked (.queryInts program ..) | .asked (.queryFloats program ..) => some program
  | .asked (.upload ..) => current
  | _ => none

/-- The last attempt to link the program that an act uses or queries succeeded. -/
def Lawful (past : List Act) (act : Act) : Prop :=
  ∀ program, act.needs (programInUse past) = some program → lastLink program past = some true

/-- Every act of a sequence is lawful at its time. -/
def LawfulAfter (past acts : List Act) : Prop :=
  ∀ before act later, acts = before ++ act :: later → Lawful (past ++ before) act

theorem lastLink_append (program : Nat) (first second : List Act) :
    lastLink program (first ++ second) = (lastLink program second).or (lastLink program first) := by
  rw [lastLink, List.filterMap_append, List.getLast?_append]
  rfl

@[simp] theorem programInUse_append (first second : List Act) :
    programInUse (first ++ second) = second.foldl Act.useAfter (programInUse first) :=
  List.foldl_append

namespace LawfulAfter

variable {past first second acts : List Act}

theorem nil : LawfulAfter past [] := by
  intro before act later h
  simp at h

theorem append (hfirst : LawfulAfter past first) (hsecond : LawfulAfter (past ++ first) second) :
    LawfulAfter past (first ++ second) := by
  intro before act later h
  rcases List.append_eq_append_iff.1 h with ⟨others, rfl, hrest⟩ | ⟨others, hfirst', hrest⟩
  · rw [← List.append_assoc]
    exact hsecond others act later hrest
  · cases others with
    | nil =>
      rw [List.append_nil] at hfirst'
      have hnow := hsecond [] act later hrest.symm
      rwa [List.append_nil, hfirst'] at hnow
    | cons other others =>
      obtain ⟨rfl, -⟩ := List.cons.inj hrest
      exact hfirst before act others hfirst'

theorem singleton {act : Act} (h : Lawful past act) : LawfulAfter past [act] := by
  intro before other later hsplit
  obtain ⟨rfl, hrest⟩ | ⟨others, rfl, hrest⟩ := List.cons_eq_append_iff.1 hsplit
  · obtain ⟨rfl, -⟩ := List.cons.inj hrest
    rwa [List.append_nil]
  · simp at hrest

theorem of_needs_none {act : Act} (h : ∀ current, act.needs current = none) :
    LawfulAfter past [act] := by
  apply singleton
  intro program hneeds
  rw [h] at hneeds
  cases hneeds

theorem of_linked {act : Act} {program : Nat} (h : lastLink program past = some true)
    (hneeds : ∀ current, act.needs current = some program) : LawfulAfter past [act] := by
  apply singleton
  intro other hother
  rw [hneeds] at hother
  rwa [← Option.some.inj hother]

end LawfulAfter

/-- A request that neither links a program nor puts one to use or out of it. -/
def Request.steady : Request → Bool
  | linkProgram .. | useProgram _ | destroyProgram _ => false
  | _ => true

def Steady (acts : List Act) : Prop :=
  ∀ request, .asked request ∈ acts → request.steady = true

/-- A request by which the uniforms of a program are accessed. -/
def Request.accesses (program : Nat) : Request → Bool
  | activeUniforms other | uniformLocation other .. => other = program
  | queryInts other .. | queryFloats other .. => other = program
  | upload .. => true
  | _ => false

theorem Request.steady_of_accesses {program : Nat} {request : Request}
    (h : request.accesses program = true) : request.steady = true := by
  cases request <;> first | rfl | cases h

namespace Steady

variable {past acts : List Act}

theorem asked {request : Request} (h : request.steady = true) : Steady [.asked request] := by
  intro other hother
  cases List.mem_singleton.1 hother
  exact h

theorem lastLink_append (h : Steady acts) (program : Nat) (past : List Act) :
    lastLink program (past ++ acts) = lastLink program past := by
  have hnone : lastLink program acts = none := by
    rw [lastLink, List.getLast?_eq_none_iff, List.filterMap_eq_nil_iff]
    intro act hact
    rcases act with request | ⟨name, data⟩
    · cases request <;> first | rfl | cases h _ hact
    · rfl
  rw [Shading.lastLink_append, hnone, Option.none_or]

theorem programInUse_append (h : Steady acts) (past : List Act) :
    programInUse (past ++ acts) = programInUse past := by
  rw [Shading.programInUse_append]
  generalize programInUse past = current
  induction acts with
  | nil => rfl
  | cons act acts ih =>
    have hsame : Act.useAfter current act = current := by
      rcases act with request | ⟨name, data⟩
      · cases request <;> first | rfl | cases h _ List.mem_cons_self
      · rfl
    rw [List.foldl_cons, hsame]
    exact ih fun request hrequest ↦ h request (List.mem_cons_of_mem _ hrequest)

end Steady

namespace LawfulAfter

variable {past acts : List Act}

theorem of_needs (h : ∀ act ∈ acts, ∀ current, act.needs current = none) :
    LawfulAfter past acts := by
  rintro before act later rfl program hneeds
  rw [h act (by simp)] at hneeds
  cases hneeds

/-- A program in use whose last attempt to link succeeded may be accessed. -/
theorem of_accesses {program : Nat} (hlinked : lastLink program past = some true)
    (hused : programInUse past = some program)
    (h : ∀ request, .asked request ∈ acts → request.accesses program = true) :
    LawfulAfter past acts := by
  rintro before act later rfl other hneeds
  have hbefore : Steady before := by
    intro request hrequest
    exact Request.steady_of_accesses (h request (List.mem_append_left _ hrequest))
  rw [hbefore.programInUse_append, hused] at hneeds
  rw [hbefore.lastLink_append]
  suffices heq : other = program by rwa [heq]
  rcases act with request | ⟨name, data⟩
  · have haccess := h request (by simp)
    cases request <;> simp_all [Act.needs, Request.accesses]
  · cases hneeds

end LawfulAfter

section LinkRequests

variable {n : Nat} (p : Program n) (linked : Bool) (past : List Act)

theorem linkRequests_map_asked :
    (p.linkRequests linked).map Act.asked =
      ((p.stages.drop p.attached).map fun stage ↦ .asked (.attachStage p.handle stage.handle)) ++
        [.asked (.linkProgram p.handle linked)] := by
  rw [Program.linkRequests, List.map_append, List.map_map]
  rfl

theorem steady_attachments (stages : List (Stage n)) :
    Steady (stages.map fun stage ↦ .asked (.attachStage p.handle stage.handle)) := by
  intro request hrequest
  obtain ⟨stage, -, hstage⟩ := List.mem_map.1 hrequest
  cases hstage
  rfl

theorem lastLink_linkRequests (program : Nat) :
    lastLink program (past ++ (p.linkRequests linked).map .asked) =
      if p.handle = program then some linked else lastLink program past := by
  rw [linkRequests_map_asked, ← List.append_assoc, lastLink_append,
    (steady_attachments p _).lastLink_append]
  by_cases h : p.handle = program <;> simp [lastLink, h]

theorem programInUse_linkRequests :
    programInUse (past ++ (p.linkRequests linked).map .asked) = programInUse past := by
  rw [linkRequests_map_asked, ← List.append_assoc, programInUse_append,
    (steady_attachments p _).programInUse_append]
  rfl

theorem lawfulAfter_linkRequests : LawfulAfter past ((p.linkRequests linked).map .asked) := by
  apply LawfulAfter.of_needs
  intro act hact current
  obtain ⟨request, hrequest, rfl⟩ := List.mem_map.1 hact
  rcases List.mem_append.1 hrequest with hattach | hlink
  · obtain ⟨stage, -, rfl⟩ := List.mem_map.1 hattach
    rfl
  · rw [List.mem_singleton.1 hlink]
    rfl

/-- Putting a program to use does not link it. -/
theorem lastLink_useProgram (program : Nat) (used : Option Nat) :
    lastLink program (past ++ [.asked (.useProgram used)]) = lastLink program past := by
  rw [lastLink_append]
  rfl

end LinkRequests

end Shading
