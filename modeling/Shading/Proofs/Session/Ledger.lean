import Mathlib.Algebra.Order.BigOperators.Group.Multiset
import Mathlib.Data.Multiset.OrderedMonoid

/-!
# Handles and their lives

A device names programs and stages by handles, and what happens to a handle can be told without
the device: it is made, it is named, and it is let go of. A ledger keeps the programs that are
alive, each with the stages attached to it, and the stages that are alive, which include all those
that are attached. A device may use a handle again, even for two programs or stages at a time, so
a ledger counts.

A trace that leads from the empty ledger back to it is orderly: every handle is let go of as often
as it was made, none is named that is not alive, and a stage goes after the program it was
attached to.
-/

namespace Shading

/-- What a request or a call tells of handles. -/
inductive Usage
  | createStage (stage : Nat)
  | nameStage (stage : Nat)
  | deleteStage (stage : Nat)
  | createProgram (program : Nat)
  | attach (program stage : Nat)
  | nameProgram (program : Nat)
  | deleteProgram (program : Nat)
  deriving DecidableEq

namespace Usage

/-- Whatever does not make a program needs it. -/
def needsProgram (program : Nat) : Usage → Prop
  | attach p _ | nameProgram p | deleteProgram p => p = program
  | createProgram _ | createStage _ | nameStage _ | deleteStage _ => False

/-- The usage is in order only while the stage is alive. -/
def needsStage (stage : Nat) : Usage → Prop
  | attach _ s | nameStage s | deleteStage s => s = stage
  | createStage _ | createProgram _ | nameProgram _ | deleteProgram _ => False

/-- The handle that is made. -/
def made : Usage → Option Nat
  | createStage handle | createProgram handle => some handle
  | nameStage _ | deleteStage _ | attach _ _ | nameProgram _ | deleteProgram _ => none

end Usage

/-- The handles that are alive. -/
structure Ledger where
  /-- The handle of every program, with the handles of the stages attached to it. -/
  programs : Multiset (Nat × Multiset Nat)
  stages : Multiset Nat
  /-- What is attached is alive. -/
  covered : (programs.map Prod.snd).sum ≤ stages

namespace Ledger

@[ext] theorem ext {l l' : Ledger} (programs : l.programs = l'.programs)
    (stages : l.stages = l'.stages) : l = l' := by
  cases l
  cases l'
  cases programs
  cases stages
  rfl

def empty : Ledger :=
  ⟨0, 0, le_rfl⟩

/-- What a usage does to a ledger. The ledger afterwards covers what is attached, so no stage goes
before its program. -/
inductive Step (l : Ledger) : Usage → Ledger → Prop
  | createStage {l' : Ledger} (stage : Nat) (programs : l'.programs = l.programs)
      (stages : l'.stages = stage ::ₘ l.stages) : Step l (.createStage stage) l'
  | nameStage (stage : Nat) (alive : stage ∈ l.stages) : Step l (.nameStage stage) l
  | deleteStage {l' : Ledger} (stage : Nat) (programs : l.programs = l'.programs)
      (stages : l.stages = stage ::ₘ l'.stages) : Step l (.deleteStage stage) l'
  | createProgram {l' : Ledger} (program : Nat)
      (programs : l'.programs = (program, 0) ::ₘ l.programs) (stages : l'.stages = l.stages) :
      Step l (.createProgram program) l'
  | attach {l' : Ledger} {attached others} (program stage : Nat)
      (before : l.programs = (program, attached) ::ₘ others)
      (after : l'.programs = (program, stage ::ₘ attached) ::ₘ others)
      (stages : l'.stages = l.stages) : Step l (.attach program stage) l'
  | nameProgram (program : Nat) (alive : program ∈ l.programs.map Prod.fst) :
      Step l (.nameProgram program) l
  | deleteProgram {l' : Ledger} {attached} (program : Nat)
      (programs : l.programs = (program, attached) ::ₘ l'.programs)
      (stages : l.stages = l'.stages) : Step l (.deleteProgram program) l'

/-- Usages that the ledger takes, one after the other. -/
inductive Runs : Ledger → List Usage → Ledger → Prop
  | nil {l} : Runs l [] l
  | cons {l l' l'' usage rest} (first : Step l usage l') (others : Runs l' rest l'') :
      Runs l (usage :: rest) l''

variable {l l' l'' : Ledger} {usage : Usage} {first second trace : List Usage}

namespace Runs

theorem single (h : Step l usage l') : Runs l [usage] l' :=
  .cons h .nil

theorem of_single (h : Runs l [usage] l') : Step l usage l' := by
  cases h with
  | cons hstep hrest =>
    cases hrest
    exact hstep

/-- Two runs in sequence are one. -/
theorem append (hfirst : Runs l first l') (hsecond : Runs l' second l'') :
    Runs l (first ++ second) l'' := by
  induction hfirst with
  | nil => exact hsecond
  | cons h others ih => exact .cons h (ih hsecond)

theorem of_append (h : Runs l (first ++ second) l'') :
    ∃ l', Runs l first l' ∧ Runs l' second l'' := by
  induction first generalizing l with
  | nil => exact ⟨l, .nil, h⟩
  | cons usage first ih =>
    cases h with
    | cons hstep others =>
      obtain ⟨l', hfirst, hsecond⟩ := ih others
      exact ⟨l', .cons hstep hfirst, hsecond⟩

theorem of_append_cons (h : Runs l (first ++ usage :: second) l'') :
    ∃ before after, Runs l first before ∧ Step before usage after ∧ Runs after second l'' := by
  obtain ⟨before, hfirst, hrest⟩ := h.of_append
  cases hrest with
  | cons hstep others => exact ⟨before, _, hfirst, hstep, others⟩

end Runs

/-- What changes nothing can be told any number of times. -/
theorem Runs.of_forall_eq (hstep : Step l usage l) (h : ∀ other ∈ trace, other = usage) :
    Runs l trace l := by
  induction trace with
  | nil => exact .nil
  | cons other rest ih =>
    rw [List.forall_mem_cons] at h
    obtain ⟨rfl, hrest⟩ := h
    exact .cons hstep (ih hrest)

theorem Runs.of_nameProgram {program : Nat} (h : Runs l [.nameProgram program] l') :
    l = l' ∧ Step l (.nameProgram program) l := by
  cases h.of_single with
  | nameProgram _ alive => exact ⟨rfl, .nameProgram program alive⟩

/-- A stage may be named any number of times as soon as it is made. -/
theorem Runs.stageNames {stage : Nat} {names : List Usage}
    (hmade : Step l (.createStage stage) l') (h : ∀ usage ∈ names, usage = .nameStage stage) :
    Runs l (.createStage stage :: names) l' := by
  refine .cons hmade (.of_forall_eq (.nameStage stage ?_) h)
  cases hmade with
  | createStage _ programs stages => exact stages ▸ Multiset.mem_cons_self stage l.stages

/-- A stage that comes and goes leaves no trace behind. -/
theorem Runs.stageGone {stage : Nat} {names : List Usage}
    (h : ∀ usage ∈ names, usage = .nameStage stage) :
    Runs l (.createStage stage :: names ++ [.deleteStage stage]) l := by
  let more : Ledger :=
    ⟨l.programs, stage ::ₘ l.stages, l.covered.trans (Multiset.le_cons_self _ _)⟩
  have hmade : Step l (.createStage stage) more := .createStage stage rfl rfl
  exact (stageNames hmade h).append (.single (.deleteStage stage rfl rfl))

/-- Stages are attached to a program one after another. -/
theorem Runs.attachAll {program : Nat} {attached : Multiset Nat}
    {others : Multiset (Nat × Multiset Nat)} {stages : List Nat}
    (before : l.programs = (program, attached) ::ₘ others)
    (after : l'.programs = (program, ↑stages + attached) ::ₘ others)
    (same : l'.stages = l.stages) : Runs l (stages.map (.attach program)) l' := by
  induction stages generalizing l attached with
  | nil =>
    obtain rfl : l' = l := by
      ext1
      · rw [before, after, Multiset.coe_nil, zero_add]
      · exact same
    exact .nil
  | cons stage rest ih =>
    have hmoved : (↑(stage :: rest) : Multiset Nat) + attached = ↑rest + stage ::ₘ attached := by
      rw [← Multiset.cons_coe, Multiset.cons_add, Multiset.add_cons]
    rw [hmoved] at after
    have hcovered : (((program, stage ::ₘ attached) ::ₘ others).map Prod.snd).sum ≤ l.stages := by
      have hlast := l'.covered
      rw [after, same, Multiset.map_cons, Multiset.sum_cons] at hlast
      rw [Multiset.map_cons, Multiset.sum_cons]
      exact (add_le_add_left (Multiset.le_add_left _ _) _).trans hlast
    let next : Ledger := ⟨(program, stage ::ₘ attached) ::ₘ others, l.stages, hcovered⟩
    have hfirst : Step l (.attach program stage) next := .attach program stage before rfl rfl
    exact .cons hfirst (ih rfl after same)

/-! ## Counting -/

/-- How often a program of this handle is alive. -/
def programCount (l : Ledger) (program : Nat) : Nat :=
  (l.programs.map Prod.fst).count program

def stageCount (l : Ledger) (stage : Nat) : Nat :=
  l.stages.count stage

theorem Step.programCount (h : Step l usage l') (program : Nat) :
    l.programCount program + [usage].count (.createProgram program) =
      l'.programCount program + [usage].count (.deleteProgram program) := by
  unfold Ledger.programCount
  cases h with
  | createStage stage programs stages => simp [programs]
  | nameStage stage alive => simp
  | deleteStage stage programs stages => simp [programs]
  | createProgram created programs stages =>
    rw [programs, Multiset.map_cons, Multiset.count_cons]
    by_cases hsame : program = created
    · simp [hsame]
    · simp [hsame, Ne.symm hsame]
  | attach p s before after stages => simp [before, after]
  | nameProgram p alive => simp
  | deleteProgram deleted programs stages =>
    rw [programs, Multiset.map_cons, Multiset.count_cons]
    by_cases hsame : program = deleted
    · simp [hsame]
    · simp [hsame, Ne.symm hsame]

theorem Step.stageCount (h : Step l usage l') (stage : Nat) :
    l.stageCount stage + [usage].count (.createStage stage) =
      l'.stageCount stage + [usage].count (.deleteStage stage) := by
  unfold Ledger.stageCount
  cases h with
  | createStage created programs stages =>
    rw [stages, Multiset.count_cons]
    by_cases hsame : stage = created
    · simp [hsame]
    · simp [hsame, Ne.symm hsame]
  | nameStage s alive => simp
  | deleteStage deleted programs stages =>
    rw [stages, Multiset.count_cons]
    by_cases hsame : stage = deleted
    · simp [hsame]
    · simp [hsame, Ne.symm hsame]
  | createProgram p programs stages => simp [stages]
  | attach p s before after stages => simp [stages]
  | nameProgram p alive => simp
  | deleteProgram p programs stages => simp [stages]

theorem Runs.programCount (h : Runs l trace l') (program : Nat) :
    l.programCount program + trace.count (.createProgram program) =
      l'.programCount program + trace.count (.deleteProgram program) := by
  induction h with
  | nil => rfl
  | @cons _ _ _ usage rest hstep others ih =>
    have hcounts := hstep.programCount program
    rw [← List.singleton_append, List.count_append, List.count_append]
    omega

theorem Runs.stageCount (h : Runs l trace l') (stage : Nat) :
    l.stageCount stage + trace.count (.createStage stage) =
      l'.stageCount stage + trace.count (.deleteStage stage) := by
  induction h with
  | nil => rfl
  | @cons _ _ _ usage rest hstep others ih =>
    have hcounts := hstep.stageCount stage
    rw [← List.singleton_append, List.count_append, List.count_append]
    omega

theorem mem_stages_of_attached {program stage : Nat} {attached : Multiset Nat}
    (hprogram : (program, attached) ∈ l.programs) (hstage : stage ∈ attached) :
    stage ∈ l.stages := by
  have hattached : attached ≤ (l.programs.map Prod.snd).sum :=
    Multiset.le_sum_of_mem (Multiset.mem_map_of_mem Prod.snd hprogram)
  exact Multiset.mem_of_le (hattached.trans l.covered) hstage

theorem Step.programCount_pos (h : Step l usage l') {program : Nat}
    (hneeds : usage.needsProgram program) : 0 < l.programCount program := by
  rw [Ledger.programCount, Multiset.count_pos]
  cases h with
  | attach p s before after stages =>
    obtain rfl : p = program := hneeds
    simp [before]
  | nameProgram p alive =>
    obtain rfl : p = program := hneeds
    exact alive
  | deleteProgram p programs stages =>
    obtain rfl : p = program := hneeds
    simp [programs]
  | createStage | nameStage | deleteStage | createProgram => exact hneeds.elim

theorem Step.stageCount_pos (h : Step l usage l') {stage : Nat}
    (hneeds : usage.needsStage stage) : 0 < l.stageCount stage := by
  rw [Ledger.stageCount, Multiset.count_pos]
  cases h with
  | attach p s before after stages =>
    obtain rfl : s = stage := hneeds
    rw [← stages]
    exact mem_stages_of_attached (after ▸ Multiset.mem_cons_self _ _) (Multiset.mem_cons_self _ _)
  | nameStage s alive =>
    obtain rfl : s = stage := hneeds
    exact alive
  | deleteStage s programs stages =>
    obtain rfl : s = stage := hneeds
    rw [stages]
    exact Multiset.mem_cons_self _ _
  | createStage | createProgram | nameProgram | deleteProgram => exact hneeds.elim

def Attached (program stage : Nat) (l : Ledger) : Prop :=
  ∃ attached, (program, attached) ∈ l.programs ∧ stage ∈ attached

/-- A stage stays attached until a program of that handle is deleted. -/
theorem Attached.of_step {program stage : Nat} (hattached : l.Attached program stage)
    (h : Step l usage l') (hkept : usage ≠ .deleteProgram program) :
    l'.Attached program stage := by
  obtain ⟨attached, hprogram, hstage⟩ := hattached
  cases h with
  | createStage s programs stages => exact ⟨attached, programs ▸ hprogram, hstage⟩
  | nameStage s alive => exact ⟨attached, hprogram, hstage⟩
  | deleteStage s programs stages => exact ⟨attached, programs ▸ hprogram, hstage⟩
  | createProgram p programs stages =>
    exact ⟨attached, programs ▸ Multiset.mem_cons_of_mem hprogram, hstage⟩
  | @attach _ _ others p s before after stages =>
    rw [before] at hprogram
    rcases Multiset.mem_cons.1 hprogram with heq | hother
    · obtain ⟨rfl, rfl⟩ := Prod.mk.inj heq
      exact ⟨_, after ▸ Multiset.mem_cons_self _ _, Multiset.mem_cons_of_mem hstage⟩
    · exact ⟨attached, after ▸ Multiset.mem_cons_of_mem hother, hstage⟩
  | nameProgram p alive => exact ⟨attached, hprogram, hstage⟩
  | deleteProgram p programs stages =>
    rw [programs] at hprogram
    rcases Multiset.mem_cons.1 hprogram with heq | hother
    · obtain ⟨rfl, -⟩ := Prod.mk.inj heq
      exact absurd rfl hkept
    · exact ⟨attached, hother, hstage⟩

theorem Attached.of_runs {program stage : Nat} (hattached : l.Attached program stage)
    (h : Runs l trace l') (hkept : .deleteProgram program ∉ trace) :
    l'.Attached program stage := by
  induction h with
  | nil => exact hattached
  | cons hstep others ih =>
    rw [List.mem_cons, not_or] at hkept
    exact ih (hattached.of_step hstep (Ne.symm hkept.1)) hkept.2

/-- A stage that is attached can go only if there is another one of its handle. -/
theorem Attached.one_lt_stageCount {program stage : Nat} (hattached : l.Attached program stage)
    (h : Step l (.deleteStage stage) l') : 1 < l.stageCount stage := by
  obtain ⟨attached, hprogram, hstage⟩ := hattached
  cases h with
  | deleteStage _ programs stages =>
    have hleft : stage ∈ l'.stages := mem_stages_of_attached (programs ▸ hprogram) hstage
    rw [Ledger.stageCount, stages, Multiset.count_cons_self]
    have hpos := Multiset.count_pos.2 hleft
    omega

end Ledger

/-! ## Orderly traces -/

/-- Every handle is let go of as often as it was made, whatever needs a handle finds it alive, and
no stage is let go of before the program it is attached to, unless another stage of the same handle
is alive. -/
structure Orderly (trace : List Usage) : Prop where
  programs (program : Nat) :
    trace.count (.deleteProgram program) = trace.count (.createProgram program)
  stages (stage : Nat) : trace.count (.deleteStage stage) = trace.count (.createStage stage)
  alive {before usage after} (split : trace = before ++ usage :: after) :
    (∀ program, usage.needsProgram program →
      before.count (.deleteProgram program) < before.count (.createProgram program)) ∧
    ∀ stage, usage.needsStage stage →
      before.count (.deleteStage stage) < before.count (.createStage stage)
  attached {before program stage middle after}
    (split : trace = before ++ .attach program stage :: (middle ++ .deleteStage stage :: after)) :
    .deleteProgram program ∈ middle ∨
      (before ++ .attach program stage :: middle).count (.deleteStage stage) + 1 <
        (before ++ .attach program stage :: middle).count (.createStage stage)

theorem Ledger.Runs.orderly {trace : List Usage} (h : Runs .empty trace .empty) :
    Orderly trace where
  programs program := by
    have hcounts := h.programCount program
    omega
  stages stage := by
    have hcounts := h.stageCount stage
    omega
  alive := by
    rintro before usage after rfl
    obtain ⟨middle, _, hbefore, hstep, -⟩ := h.of_append_cons
    constructor
    · intro program hneeds
      have hpos := hstep.programCount_pos hneeds
      have hcounts := hbefore.programCount program
      have hnone : empty.programCount program = 0 := rfl
      omega
    · intro stage hneeds
      have hpos := hstep.stageCount_pos hneeds
      have hcounts := hbefore.stageCount stage
      have hnone : empty.stageCount stage = 0 := rfl
      omega
  attached := by
    rintro before program stage middle after rfl
    by_cases hdeleted : .deleteProgram program ∈ middle
    · exact .inl hdeleted
    right
    rw [← List.cons_append, ← List.append_assoc] at h
    obtain ⟨last, _, hbefore, hdelete, -⟩ := h.of_append_cons
    obtain ⟨_, next, -, hattach, hmiddle⟩ := hbefore.of_append_cons
    have hattached : next.Attached program stage := by
      cases hattach with
      | attach _ _ _ programs _ =>
        exact ⟨_, programs ▸ Multiset.mem_cons_self _ _, Multiset.mem_cons_self _ _⟩
    have htwo := (hattached.of_runs hmiddle hdeleted).one_lt_stageCount hdelete
    have hcounts := hbefore.stageCount stage
    have hnone : empty.stageCount stage = 0 := rfl
    omega

/-- Every handle that is made is let go of once, whatever needs it comes between the two, and a
stage goes after every program it was attached to. -/
structure ReleasedOnce (trace : List Usage) : Prop where
  programs {program : Nat} (created : .createProgram program ∈ trace) :
    trace.count (.deleteProgram program) = 1
  stages {stage : Nat} (created : .createStage stage ∈ trace) :
    trace.count (.deleteStage stage) = 1
  alive {before usage after} (split : trace = before ++ usage :: after) :
    (∀ program, usage.needsProgram program →
      .createProgram program ∈ before ∧ .deleteProgram program ∉ before) ∧
    ∀ stage, usage.needsStage stage → .createStage stage ∈ before ∧ .deleteStage stage ∉ before
  attached {before program stage middle after}
    (split : trace = before ++ .attach program stage :: (middle ++ .deleteStage stage :: after)) :
    .deleteProgram program ∈ middle

section Once

variable {trace before : List Usage} {usage create delete : Usage} {handle : Nat}

theorem Usage.count_le_one (hmade : (trace.filterMap Usage.made).Nodup)
    (husage : usage.made = some handle) : trace.count usage ≤ 1 := by
  have hcount : trace.count usage ≤ (trace.filterMap Usage.made).count handle := by
    rw [List.count_filterMap, List.count]
    apply List.countP_mono_left
    intro other _ hother
    rw [eq_of_beq hother, husage, beq_self_eq_true]
  exact hcount.trans (List.nodup_iff_count_le_one.1 hmade handle)

theorem mem_and_notMem_of_count_lt (hlt : before.count delete < before.count create)
    (hone : before.count create ≤ 1) : create ∈ before ∧ delete ∉ before := by
  constructor
  · exact List.count_pos_iff.1 (Nat.zero_lt_of_lt hlt)
  · rw [← List.count_eq_zero]
    omega

/-- In an orderly trace that makes no handle twice no handle has to be counted. -/
theorem Orderly.releasedOnce (h : Orderly trace) (hmade : (trace.filterMap Usage.made).Nodup) :
    ReleasedOnce trace where
  programs {program} hcreated := by
    have hone : trace.count (.createProgram program) ≤ 1 := Usage.count_le_one hmade rfl
    have hsome := List.count_pos_iff.2 hcreated
    have hequal := h.programs program
    omega
  stages {stage} hcreated := by
    have hone : trace.count (.createStage stage) ≤ 1 := Usage.count_le_one hmade rfl
    have hsome := List.count_pos_iff.2 hcreated
    have hequal := h.stages stage
    omega
  alive {before usage after} hsplit := by
    have hbefore : (before.filterMap Usage.made).Nodup := by
      rw [hsplit, List.filterMap_append] at hmade
      exact hmade.of_append_left
    obtain ⟨hprograms, hstages⟩ := h.alive hsplit
    exact ⟨fun program hneeds ↦
        mem_and_notMem_of_count_lt (hprograms program hneeds) (Usage.count_le_one hbefore rfl),
      fun stage hneeds ↦
        mem_and_notMem_of_count_lt (hstages stage hneeds) (Usage.count_le_one hbefore rfl)⟩
  attached {before program stage middle after} hsplit := by
    refine (h.attached hsplit).resolve_right fun htwo ↦ ?_
    have hearlier : ((before ++ .attach program stage :: middle).filterMap Usage.made).Nodup := by
      rw [hsplit, ← List.cons_append, ← List.append_assoc, List.filterMap_append] at hmade
      exact hmade.of_append_left
    have hone : (before ++ .attach program stage :: middle).count (.createStage stage) ≤ 1 :=
      Usage.count_le_one hearlier rfl
    omega

end Once

end Shading
