import Shading.Proofs.InMemory.Device
import Shading.Proofs.Program.Lifetime
import Shading.Proofs.Program.Traffic
import Shading.Proofs.Session.OneContext
import Shading.Session.Transcript

/-!
# Calls of the device in memory

An observer of this device sees every request, and the calls that the device makes by itself. There
is only one such call: a program that is released while in use is taken out of use. So an action
that releases no program is seen by its requests alone.
-/

namespace Shading

section OneContext

variable {δ κ ε : Type} [Environment δ κ ε]

/-- With one context an observer sees the calls in the order in which they are made. -/
theorem Transcript.seen_eq_filterMap (record : List (Entry (Fin 1 × Traffic κ))) :
    Transcript.seen δ record =
      (callsOf record).filterMap fun call ↦ Environment.observe δ call.2 := by
  have hone : List.finRange 1 = [0] := rfl
  rw [Transcript.seen, hone, List.flatMap_singleton, callsOf, List.filterMap_filterMap]
  congr 1
  funext entry
  rcases entry with ⟨i, traffic⟩ | ⟨level, text⟩
  · exact if_pos (Fin.fin_one_eq_zero i)
  · rfl

@[simp] theorem Transcript.seen_append (first second : List (Entry (Fin 1 × Traffic κ))) :
    Transcript.seen δ (first ++ second) = Transcript.seen δ first ++ Transcript.seen δ second := by
  simp only [seen_eq_filterMap, callsOf_append, List.filterMap_append]

end OneContext

namespace InMemory

variable {n : Nat}

/-- What is seen of the device of a context. -/
def observed (record : List (Entry (Traffic Request))) : List Request :=
  (callsOf record).filterMap (Environment.observe InMemory)

@[simp] theorem observed_append (first second : List (Entry (Traffic Request))) :
    observed (first ++ second) = observed first ++ observed second := by
  rw [observed, callsOf_append, List.filterMap_append]
  rfl

@[simp] theorem observed_map_issued (record : List (Entry Request)) :
    observed (record.map (Entry.map Traffic.issued)) = callsOf record := by
  have hobserve : Environment.observe InMemory ∘ Traffic.issued = some := rfl
  rw [observed, callsOf_map, List.filterMap_map, hobserve, List.filterMap_some]

/-- With one context, what is seen at it is everything that is observed. -/
theorem seen_map (record : List (Entry (Traffic Request))) :
    Transcript.seen InMemory (record.map (Entry.map ((0 : Fin 1), ·))) = observed record := by
  rw [Transcript.seen_eq_filterMap, callsOf_map, List.filterMap_map]
  rfl

/-- Traffic that is requests and nothing else. -/
def Plain (_ : Context InMemory) (traffic : List (Traffic Request)) (_ : Context InMemory) : Prop :=
  issuedOf traffic = []

theorem composes_plain : Composes Plain := by
  refine ⟨fun _ ↦ rfl, ?_⟩
  intro _ _ _ first second earlier later
  rw [Plain] at *
  rw [issuedOf_append, earlier, later, List.append_nil]

theorem plain_ask {α : Type} {x : Reply α} {request : α → Request}
    (h : ∀ device, (x.run device).record = []) : Follows Plain (Context.ask x request) := by
  intro c
  rw [Context.run_ask, h]
  rfl

/-- Where the device makes no calls of its own, the requests are all there is to see. -/
theorem observed_of_plain {record : List (Entry (Traffic Request))}
    (h : issuedOf (callsOf record) = []) : observed record = requests record := by
  induction record with
  | nil => rfl
  | cons entry rest ih =>
    rcases entry with ⟨request | call⟩ | ⟨level, text⟩
    · exact congrArg (request :: ·) (ih h)
    · cases h
    · exact ih h

theorem plain_linkProgram (program : Nat) : Follows Plain (Context.linkProgram program) :=
  plain_ask (record_linkProgram program)

theorem plain_setCurrent (current : Option ProgramId) :
    Follows Plain (Context.setCurrent current) :=
  fun _ ↦ rfl

/-- To bind and to link makes no call beyond the requests. -/
theorem plain_bind (p : Program n) : Follows Plain (p.bind : ContextAction InMemory Request _) :=
  p.follows_bind composes_plain plain_setCurrent (fun _ _ ↦ plain_ask fun _ ↦ rfl)
    plain_linkProgram fun _ ↦ plain_ask fun _ ↦ rfl

theorem plain_append (p : Program n) (stage : Stage n) :
    Follows Plain (p.append stage : ContextAction InMemory Request _) :=
  p.follows_append composes_plain plain_setCurrent (fun _ _ ↦ plain_ask fun _ ↦ rfl)
    plain_linkProgram (fun _ ↦ plain_ask fun _ ↦ rfl) stage

theorem plain_unbind (p : Program n) :
    Follows Plain (p.unbind : ContextAction InMemory Request _) :=
  p.follows_unbind composes_plain plain_setCurrent (plain_ask fun _ ↦ rfl)

theorem plain_assemble (i : Fin n) (stages : List (Stage n)) :
    Follows Plain (Program.assemble i stages : ContextAction InMemory Request _) :=
  Program.follows_assemble composes_plain (fun _ _ ↦ plain_ask fun _ ↦ rfl) plain_linkProgram
    (plain_ask fun _ ↦ rfl) (fun _ ↦ rfl) i stages

/-- Only the release of a program may show a call that nobody asked for. -/
theorem observed_retire (p : Program n) (c : Context InMemory) :
    observed ((p.retire : ContextAction InMemory Request Unit).run c).record =
      (if c.device.current = some p.handle then [.useProgram none] else []) ++
        [.destroyProgram p.handle] := by
  have hdestroy : ∀ c : Context InMemory,
      observed ((Context.destroyProgram p.handle).run c).record =
        (if c.device.current = some p.handle then [.useProgram none] else []) ++
          [.destroyProgram p.handle] := by
    intro c
    rw [Context.destroyProgram, Context.run_ask, run_destroyProgram, observed_append,
      observed_map_issued]
    split <;> rfl
  unfold Program.retire
  rw [Action.run_bind, Action.run_get, List.nil_append]
  split
  · exact hdestroy { c with current := none }
  · exact hdestroy c

end InMemory

end Shading
