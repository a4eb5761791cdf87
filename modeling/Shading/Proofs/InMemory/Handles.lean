import Shading.Proofs.InMemory.Device
import Shading.Proofs.Session.Releasing

/-!
# Handles of the device in memory

This device repeats every request, and the only request of its own takes a program out of use, so
whoever sees it sees what the requests tell of handles. It numbers programs and stages in one
sequence and never gives a number twice.
-/

namespace Shading

namespace InMemory

/-- What an observer learns of handles from the requests, those of the device itself included. -/
def seen : Traffic Request → Option Usage
  | .request r | .issued r => r.usage

def handlesMade (traffic : List (Traffic Request)) : List Nat :=
  (traffic.filterMap seen).filterMap Usage.made

@[simp] theorem handlesMade_append (first second : List (Traffic Request)) :
    handlesMade (first ++ second) = handlesMade first ++ handlesMade second := by
  rw [handlesMade, List.filterMap_append, List.filterMap_append]
  rfl

/-- Nothing is seen but what the requests tell, and every handle that is made is above all earlier
ones. -/
structure Numbers (d : InMemory) (traffic : List (Traffic Request)) (d' : InMemory) : Prop where
  refines : Refines seen traffic
  grows : d.lastHandle ≤ d'.lastHandle
  bounds : ∀ handle ∈ handlesMade traffic, d.lastHandle < handle ∧ handle ≤ d'.lastHandle
  distinct : (handlesMade traffic).Nodup

namespace Numbers

theorem of_lastHandle_eq {d d' : InMemory} (h : d'.lastHandle = d.lastHandle) : Numbers d [] d' :=
  ⟨.nil, h.ge, fun _ hmem ↦ absurd hmem List.not_mem_nil, List.nodup_nil⟩

theorem composes : Composes Numbers := by
  refine ⟨fun d ↦ of_lastHandle_eq rfl, ?_⟩
  intro d d' d'' first second earlier later
  have hdisjoint : (handlesMade first).Disjoint (handlesMade second) := by
    intro handle hfirst hsecond
    have hbefore := (earlier.bounds handle hfirst).2
    have hafter := (later.bounds handle hsecond).1
    omega
  refine ⟨earlier.refines.append later.refines, earlier.grows.trans later.grows, ?_, ?_⟩
  · intro handle hmem
    rw [handlesMade_append, List.mem_append] at hmem
    rcases hmem with hmem | hmem
    · obtain ⟨hlow, hhigh⟩ := earlier.bounds handle hmem
      exact ⟨hlow, hhigh.trans later.grows⟩
    · obtain ⟨hlow, hhigh⟩ := later.bounds handle hmem
      exact ⟨earlier.grows.trans_lt hlow, hhigh⟩
  · rw [handlesMade_append]
    exact earlier.distinct.append later.distinct hdisjoint

variable {α : Type} {x : Reply α} {request : α → Request}

theorem filterMap_seen_ask {calls : List Request} (h : calls.filterMap Request.usage = [])
    (r : Request) :
    (calls.map Traffic.issued ++ [Traffic.request r]).filterMap seen = r.usage.toList := by
  have hissued : seen ∘ Traffic.issued = Request.usage := rfl
  rw [List.filterMap_append, List.filterMap_map, hissued, h, List.nil_append]
  cases husage : r.usage <;> simp [seen, husage]

/-- A request is seen as what it tells of handles if the device tells nothing by itself. -/
theorem of_ask (hsilent : ∀ d, (callsOf (x.run d).record).filterMap Request.usage = [])
    (hmade : ∀ d, let made := (request (x.run d).value).usage.bind Usage.made
      made = none ∧ (x.run d).state.lastHandle = d.lastHandle ∨
        made = some (d.lastHandle + 1) ∧ (x.run d).state.lastHandle = d.lastHandle + 1) :
    Follows (OnDevice Numbers) (Context.ask x request) := by
  apply Follows.ask
  intro d
  have hseen := filterMap_seen_ask (hsilent d) (request (x.run d).value)
  have hhandles : handlesMade ((callsOf (x.run d).record).map Traffic.issued ++
      [.request (request (x.run d).value)]) =
        ((request (x.run d).value).usage.bind Usage.made).toList := by
    rw [handlesMade, hseen]
    cases (request (x.run d).value).usage with
    | none => rfl
    | some usage => cases hmade : usage.made <;> simp [hmade]
  have hrefines : Refines seen ((callsOf (x.run d).record).map Traffic.issued ++
      [.request (request (x.run d).value)]) := by
    intro l l' h
    rwa [hseen, ← filterMap_requested_ask (callsOf (x.run d).record)]
  rcases hmade d with ⟨hnone, hlast⟩ | ⟨hsome, hlast⟩
  · rw [hnone] at hhandles
    refine ⟨hrefines, hlast.ge, ?_, ?_⟩
    · rw [hhandles]
      exact fun _ hmem ↦ absurd hmem List.not_mem_nil
    · rw [hhandles]
      exact List.nodup_nil
  · rw [hsome] at hhandles
    refine ⟨hrefines, hlast ▸ Nat.le_succ _, ?_, ?_⟩
    · rw [hhandles, hlast]
      intro handle hmem
      rw [List.mem_singleton.1 hmem]
      exact ⟨Nat.lt_succ_self _, le_rfl⟩
    · rw [hhandles]
      exact List.nodup_singleton _

end Numbers

theorem obeyed_numbers : Obeyed Numbers where
  toComposes := Numbers.composes
  newStage type sources := by
    refine Numbers.of_ask ?_ ?_ <;> intro d <;> rw [run_newStage] <;> split
    · rfl
    · rfl
    · exact .inl ⟨rfl, rfl⟩
    · exact .inr ⟨rfl, rfl⟩
  destroyStage stage := Numbers.of_ask (fun _ ↦ rfl) fun _ ↦ .inl ⟨rfl, rfl⟩
  newProgram := Numbers.of_ask (fun _ ↦ rfl) fun _ ↦ .inr ⟨rfl, rfl⟩
  attachStage program stage := Numbers.of_ask (fun _ ↦ rfl) fun d ↦
    .inl ⟨rfl, lastHandle_updateProgram _ _ d⟩
  linkProgram program := by
    refine Numbers.of_ask (fun d ↦ ?_) fun d ↦ .inl ⟨rfl, ?_⟩
    · rw [record_linkProgram]
      rfl
    · rw [(run_linkProgram program d).2, lastHandle_updateProgram]
  isLinked program := Numbers.of_ask (fun _ ↦ rfl) fun _ ↦ .inl ⟨rfl, rfl⟩
  destroyProgram program := by
    refine Numbers.of_ask (fun d ↦ ?_) fun d ↦ .inl ⟨rfl, ?_⟩ <;> rw [run_destroyProgram]
    split <;> rfl
  useProgram program := by
    refine Numbers.of_ask (fun _ ↦ rfl) fun _ ↦ .inl ⟨?_, rfl⟩
    cases program <;> rfl
  activeUniforms program := Numbers.of_ask (fun _ ↦ rfl) fun _ ↦ .inl ⟨rfl, rfl⟩
  uniformLocation program name := by
    have hlocation : (Device.uniformLocation program name : Reply _) =
        uniformLocation program name := rfl
    refine Numbers.of_ask ?_ fun d ↦ .inl ⟨rfl, ?_⟩
    · intro d
      rw [hlocation, uniformLocation, Action.run_bind, Action.run_get]
      split <;> rfl
    · rw [run_uniformLocation]
  upload location count data := Numbers.of_ask (fun _ ↦ rfl) fun d ↦ .inl ⟨rfl, by
    rw [run_upload, lastHandle_afterUpload]⟩
  queryInts program location size := Numbers.of_ask (fun _ ↦ rfl) fun _ ↦ .inl ⟨rfl, rfl⟩
  queryFloats program location size := Numbers.of_ask (fun _ ↦ rfl) fun _ ↦ .inl ⟨rfl, rfl⟩

/-- What is seen of a session, its end included, is orderly, and no handle is made twice in it. -/
theorem orderly_wholeTraffic (settings : Settings) (moves : List (Move 1 (List Settings.Setting))) :
    let traffic := Session.wholeTraffic moves (Session.new #v[new settings])
    Orderly (traffic.filterMap seen) ∧ (handlesMade traffic).Nodup := by
  intro traffic
  have hnumbers := Session.obeys_wholeTraffic obeyed_numbers
    (fun _ _ ↦ Numbers.of_lastHandle_eq rfl) (Session.new #v[new settings]) moves
  exact ⟨hnumbers.refines.orderly, hnumbers.distinct⟩

end InMemory

end Shading
