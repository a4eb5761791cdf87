import Shading.Proofs.InMemory.Calls
import Shading.Proofs.InMemory.CurrentProgram
import Shading.Proofs.Session.FilledSlots

/-!
# Letting a program go

A program is let go of in two ways. When it is destroyed, the context finds out by its number
whether it is the current one, and takes it out of use before it is released. When it is dropped,
the context forgets it, and the device finds out by its handle whether it is in use. Since the
context and the device agree on the current program, both ways make the same calls and leave the
same state.
-/

namespace Shading

open World

namespace InMemory

variable {n : Nat}

theorem run_stageRelease (stage : Stage n) (w : World InMemory n) :
    (stage.release : WorldAction InMemory Request n Unit).run w =
      ⟨(), w, [.call (stage.home, .request (.destroyStage stage.handle))]⟩ := by
  rw [Stage.release, run_within, Context.destroyStage, Context.run_ask]
  exact congrArg (Outcome.mk () · _) (set_context_self w stage.home)

theorem run_releaseAll (stages : List (Stage n)) (w : World InMemory n) :
    (stages.forM Stage.release : WorldAction InMemory Request n Unit).run w =
      ⟨(), w, stages.map fun stage ↦
        .call (stage.home, .request (.destroyStage stage.handle))⟩ := by
  induction stages with
  | nil => rfl
  | cons stage stages ih =>
    rw [Action.run_forM_cons, run_stageRelease, ih]
    rfl

theorem seen_releaseAll (stages : List (Stage 1)) (w : World InMemory 1) :
    Transcript.seen InMemory
        ((stages.forM Stage.release : WorldAction InMemory Request 1 Unit).run w).record =
      stages.map fun stage ↦ .destroyStage stage.handle := by
  rw [run_releaseAll, Transcript.seen_eq_filterMap]
  induction stages with
  | nil => rfl
  | cons stage stages ih => exact congrArg (_ :: ·) ih

/-- A context after a program is gone. -/
def without (c : Context InMemory) (p : Program n) : Context InMemory :=
  { c with
    device := { c.device with
      current := if c.current = some p.id then none else c.device.current
      programs := c.device.programs.erase p.handle }
    current := if c.current = some p.id then none else c.current }

/-- The calls that let go of a program: it is taken out of use if need be, then it is released, and
then its stages are in the order of attachment. -/
def farewell (c : Context InMemory) (p : Program n) : List Request :=
  (if c.current = some p.id then [.useProgram none] else []) ++
    .destroyProgram p.handle :: p.stages.map fun stage ↦ .destroyStage stage.handle

section Worlds

variable {w : World InMemory 1} {p : Program 1}

theorem run_release
    (agreed : (context 0 w).current = some p.id ↔ (context 0 w).device.current = some p.handle) :
    ((p.release : WorldAction InMemory Request 1 Unit).run w).state =
        w.set 0 (without (context 0 w) p) Nat.one_pos ∧
      Transcript.seen InMemory ((p.release : WorldAction InMemory Request 1 Unit).run w).record =
        farewell (context 0 w) p := by
  have hstate : ((p.retire : ContextAction InMemory Request Unit).run (context 0 w)).state =
      without (context 0 w) p := by
    rw [(p.run_retire (context 0 w)).1, state_destroyProgram, without]
    simp only [agreed]
  rw [Program.release, Action.run_bind, run_within, Fin.fin_one_eq_zero p.home]
  constructor
  · rw [run_releaseAll]
    exact congrArg (w.set 0 · Nat.one_pos) hstate
  · rw [Transcript.seen_append, seen_map, seen_releaseAll, observed_retire, farewell,
      List.append_assoc]
    simp only [agreed]
    rfl

theorem run_destroy
    (agreed : (context 0 w).current = some p.id ↔ (context 0 w).device.current = some p.handle) :
    ((p.destroy 0 : WorldAction InMemory Request 1 Unit).run w).state =
        w.set 0 (without (context 0 w) p) Nat.one_pos ∧
      Transcript.seen InMemory ((p.destroy 0 : WorldAction InMemory Request 1 Unit).run w).record =
        farewell (context 0 w) p := by
  rw [Program.destroy, Action.run_bind, run_within]
  by_cases hcurrent : p.isCurrent (context 0 w) = true
  · have hown : (context 0 w).current = some p.id := of_decide_eq_true hcurrent
    obtain ⟨hvalue, hstate, hrequests⟩ := p.run_unbind (κ := Request) (context 0 w)
    -- nothing is current and nothing in use when the program is released
    let c : Context InMemory :=
      { context 0 w with
        device := { (context 0 w).device with current := none }
        current := none }
    have hleft : without c { p with bound := false } = without (context 0 w) p := by
      simp [c, without, hown]
    have hset : context 0 (w.set 0 c Nat.one_pos) = c := context_set_self w 0 c
    have hreleased := run_release (w := w.set 0 c Nat.one_pos) (p := { p with bound := false })
      (by simp [hset, c])
    rw [hset, hleft, Vector.set_set] at hreleased
    simp only [Action.run_bind, Action.run_get, hcurrent, if_true, Action.run_note,
      Action.run_pure, List.nil_append, List.append_nil, hvalue, hstate]
    refine ⟨hreleased.1, ?_⟩
    rw [Transcript.seen_append, seen_map, observed_append, observed_of_plain (plain_unbind p _),
      hrequests, farewell, if_pos hown]
    exact congrArg (_ :: ·) hreleased.2
  · simp only [Action.run_bind, Action.run_get, hcurrent, Bool.false_eq_true, if_false,
      Action.run_note, Action.run_pure, List.nil_append, List.append_nil, set_context_self]
    rw [Transcript.seen_append, seen_map]
    exact run_release agreed

end Worlds

theorem Coherent.current_iff_inUse {s : Session InMemory 1} (h : Coherent s) {slot : String}
    {p : Program 1} (live : s.programs[slot]? = some p) :
    (context 0 s.world).current = some p.id ↔
      (context 0 s.world).device.current = some p.handle := by
  rw [h.current_iff]
  constructor
  · rintro ⟨other, q, hq, hid, hdevice⟩
    obtain rfl := h.distinct hq live (.inl hid)
    rwa [Option.some.inj (live.symm.trans hq)]
  · intro hdevice
    exact ⟨slot, p, live, rfl, hdevice⟩

/-- After every run it is the same whether a program is destroyed or dropped. A program that is
current leaves none behind; any other leaves the current one alone. -/
theorem destroy_eq_drop (settings : Settings) (moves : List (Move 1 (List Settings.Setting)))
    {slot : String} {p : Program 1}
    (live : (Session.after moves (.new #v[new settings])).programs[slot]? = some p) :
    let s := Session.after moves (.new #v[new settings])
    let destroyed := (Session.perform 0 (.destroy slot)).run s
    let dropped := (Session.perform 0 (.drop slot)).run s
    let c := context 0 s.world
    let c' := context 0 destroyed.state.world
    destroyed.value = .ok .done ∧ dropped.value = .ok .done ∧
      destroyed.state = dropped.state ∧
      Transcript.seen InMemory destroyed.record = farewell c p ∧
      Transcript.seen InMemory dropped.record = farewell c p ∧
      (c.current = some p.id → c'.current = none ∧ c'.device.current = none) ∧
      (c.current ≠ some p.id →
        c'.current = c.current ∧ c'.device.current = c.device.current) := by
  intro s destroyed dropped c c'
  have agreed := (kept_after settings moves).coherent.current_iff_inUse live
  have hdestroy : destroyed = _ := Session.perform_destroy live
  have hdrop : dropped = _ := Session.perform_drop live
  obtain ⟨hdestroyed, hfirst⟩ := run_destroy agreed
  obtain ⟨hdropped, hsecond⟩ := run_release agreed
  have hleft : c' = without c p := by
    change context 0 destroyed.state.world = _
    rw [hdestroy, hdestroyed]
    exact context_set_self _ _ _
  rw [hleft, hdestroy, hdrop, hdestroyed, hdropped]
  refine ⟨rfl, rfl, rfl, hfirst, hsecond, ?_, ?_⟩
  · exact fun hown ↦ ⟨if_pos hown, if_pos hown⟩
  · exact fun hother ↦ ⟨if_neg hother, if_neg hother⟩

/-- A run after which the second program is current, and the mark of the first is stale. -/
def supersededRun : List (Move 1 (List Settings.Setting)) :=
  [.here (.ofSources "first" "" ""), .here (.ofSources "second" "" ""), .here (.bind "first"),
    .here (.bind "second")]

theorem destroy_eq_drop_supersededRun :
    let s := Session.after supersededRun (.new #v[new .blank])
    let destroyed := (Session.perform 0 (.destroy "second")).run s
    let dropped := (Session.perform 0 (.drop "second")).run s
    destroyed.state = dropped.state ∧
      Transcript.seen InMemory dropped.record =
        [.useProgram none, .destroyProgram 6, .destroyStage 4, .destroyStage 5] ∧
      (context 0 destroyed.state.world).current = none := by
  intro s destroyed dropped
  have hshown : s.programs["second"]?.map
      (fun p ↦ (decide ((context 0 s.world).current = some p.id), farewell (context 0 s.world) p)) =
        some (true, [.useProgram none, .destroyProgram 6, .destroyStage 4, .destroyStage 5]) := by
    decide +kernel
  obtain ⟨p, live, hp⟩ := Option.map_eq_some_iff.1 hshown
  obtain ⟨hcurrent, hcalls⟩ := Prod.mk.inj hp
  obtain ⟨-, -, hstate, -, hseen, hown, -⟩ := destroy_eq_drop .blank supersededRun live
  exact ⟨hstate, hseen.trans hcalls, (hown (of_decide_eq_true hcurrent)).1⟩

end InMemory

end Shading
