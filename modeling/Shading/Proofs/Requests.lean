import Shading.Context

/-!
# Requests of a context

What the actions of a context do to it, and which requests they put on record. A request reaches
the device and leaves the rest of the context alone; what the device does by itself on the way is
no request.
-/

namespace Shading

namespace Action

variable {κ σ α : Type}

theorem run_forM_nil (f : α → Action κ σ Unit) (s : σ) :
    (([] : List α).forM f).run s = ⟨(), s, []⟩ := rfl

theorem run_forM_cons (f : α → Action κ σ Unit) (x : α) (xs : List α) (s : σ) :
    ((x :: xs).forM f).run s =
      ⟨((xs.forM f).run ((f x).run s).state).value, ((xs.forM f).run ((f x).run s).state).state,
        ((f x).run s).record ++ ((xs.forM f).run ((f x).run s).state).record⟩ := rfl

end Action

namespace Context

variable {δ κ α : Type}

@[simp] theorem run_ask (x : Action κ δ α) (request : α → Request) (c : Context δ) :
    (ask x request).run c =
      ⟨(x.run c.device).value, { c with device := (x.run c.device).state },
        (x.run c.device).record.map (Entry.map Traffic.issued) ++
          [.call (.request (request (x.run c.device).value))]⟩ := by
  simp [ask, onDevice]

@[simp] theorem run_newId (c : Context δ) :
    (newId : ContextAction δ κ ProgramId).run c =
      ⟨⟨c.nextId⟩, { c with nextId := c.nextId + 1 }, []⟩ := by
  simp [newId]

@[simp] theorem run_setCurrent (current : Option ProgramId) (c : Context δ) :
    (setCurrent current : ContextAction δ κ Unit).run c = ⟨(), { c with current }, []⟩ := by
  simp [setCurrent]

end Context

/-- The requests among the entries of a record. -/
def requests {κ : Type} (record : List (Entry (Traffic κ))) : List Request :=
  record.filterMap fun
    | .call (.request request) => some request
    | _ => none

section Requests

variable {κ : Type}

@[simp] theorem requests_nil : requests ([] : List (Entry (Traffic κ))) = [] := rfl

@[simp] theorem requests_append (first second : List (Entry (Traffic κ))) :
    requests (first ++ second) = requests first ++ requests second :=
  List.filterMap_append

@[simp] theorem requests_cons_request (request : Request) (rest : List (Entry (Traffic κ))) :
    requests (.call (.request request) :: rest) = request :: requests rest := rfl

@[simp] theorem requests_cons_note (level : Level) (text : String)
    (rest : List (Entry (Traffic κ))) :
    requests (.note level text :: rest) = requests rest := rfl

@[simp] theorem requests_map_issued (record : List (Entry κ)) :
    requests (record.map (Entry.map Traffic.issued)) = [] := by
  induction record with
  | nil => rfl
  | cons entry rest ih => cases entry <;> exact ih

end Requests

end Shading
