/-!
# Recorded actions

An action reads and changes a state, answers with a value, and puts entries on record: calls, and
notes of the log. It cannot look at what was recorded before, so its record only grows. The record
of two actions in sequence is the record of the first followed by that of the second. A panic that
no answer tells is put on record as a note; what comes behind it would not happen.
-/

namespace Shading

/-- The weight of a note; a panic outweighs all that follows. -/
inductive Level
  | trace
  | debug
  | warn
  | panic
  deriving DecidableEq

def Level.name : Level → String
  | .trace => "TRACE"
  | .debug => "DEBUG"
  | .warn => "WARN"
  | .panic => "PANIC"

/-- An entry of a record. -/
inductive Entry (κ : Type)
  | call (call : κ)
  | note (level : Level) (text : String)

def Entry.map {κ μ : Type} (f : κ → μ) : Entry κ → Entry μ
  | call c => call (f c)
  | note level text => note level text

/-- What comes of running an action once. -/
structure Outcome (κ σ α : Type) where
  value : α
  state : σ
  record : List (Entry κ)

/-- A computation from a state to an outcome. -/
structure Action (κ σ α : Type) where
  run : σ → Outcome κ σ α

namespace Action

variable {κ μ σ τ α β : Type}

instance : Monad (Action κ σ) where
  pure a := ⟨fun s ↦ ⟨a, s, []⟩⟩
  bind x f :=
    ⟨fun s ↦
      let first := x.run s
      let second := (f first.value).run first.state
      ⟨second.value, second.state, first.record ++ second.record⟩⟩

instance : MonadStateOf σ (Action κ σ) where
  get := ⟨fun s ↦ ⟨s, s, []⟩⟩
  set s := ⟨fun _ ↦ ⟨⟨⟩, s, []⟩⟩
  modifyGet f := ⟨fun s ↦ ⟨(f s).1, (f s).2, []⟩⟩

/-- Puts one entry on record and does nothing else. -/
def put (entry : Entry κ) : Action κ σ Unit :=
  ⟨fun s ↦ ⟨(), s, [entry]⟩⟩

def call (c : κ) : Action κ σ Unit :=
  put (.call c)

def note (level : Level) (text : String) : Action κ σ Unit :=
  put (.note level text)

/-- Runs an action on a part of the state, with its calls renamed. -/
def focus (part : σ → τ) (restore : τ → σ → σ) (rename : μ → κ) (x : Action μ τ α) :
    Action κ σ α :=
  ⟨fun s ↦
    let inner := x.run (part s)
    ⟨inner.value, restore inner.state s, inner.record.map (Entry.map rename)⟩⟩

/-- Actions are the same if they run in the same way from every state. -/
theorem ext {x y : Action κ σ α} (h : ∀ s, x.run s = y.run s) : x = y := by
  cases x
  cases y
  congr
  exact funext h

@[simp] theorem run_pure (a : α) (s : σ) : (pure a : Action κ σ α).run s = ⟨a, s, []⟩ := rfl

@[simp] theorem run_bind (x : Action κ σ α) (f : α → Action κ σ β) (s : σ) :
    (x >>= f).run s =
      ⟨((f (x.run s).value).run (x.run s).state).value,
        ((f (x.run s).value).run (x.run s).state).state,
        (x.run s).record ++ ((f (x.run s).value).run (x.run s).state).record⟩ := rfl

/-- A map adds nothing to the record. -/
@[simp] theorem run_map (f : α → β) (x : Action κ σ α) (s : σ) :
    (f <$> x).run s = ⟨f (x.run s).value, (x.run s).state, (x.run s).record⟩ := by
  show (⟨_, _, (x.run s).record ++ []⟩ : Outcome κ σ β) = _
  rw [List.append_nil]
  rfl

@[simp] theorem run_get (s : σ) : (get : Action κ σ σ).run s = ⟨s, s, []⟩ := rfl

@[simp] theorem run_set (s t : σ) : (set t : Action κ σ PUnit).run s = ⟨⟨⟩, t, []⟩ := rfl

@[simp] theorem run_modify (f : σ → σ) (s : σ) :
    (modify f : Action κ σ PUnit).run s = ⟨⟨⟩, f s, []⟩ := rfl

@[simp] theorem run_call (c : κ) (s : σ) : (call c).run s = ⟨(), s, [.call c]⟩ := rfl

@[simp] theorem run_note (level : Level) (text : String) (s : σ) :
    (note level text : Action κ σ Unit).run s = ⟨(), s, [.note level text]⟩ := rfl

@[simp] theorem run_focus (part : σ → τ) (restore : τ → σ → σ) (rename : μ → κ)
    (x : Action μ τ α) (s : σ) :
    (focus part restore rename x).run s =
      ⟨(x.run (part s)).value, restore (x.run (part s)).state s,
        (x.run (part s)).record.map (Entry.map rename)⟩ := rfl

instance : LawfulMonad (Action κ σ) :=
  LawfulMonad.mk' (Action κ σ)
    (fun x ↦ ext fun s ↦ by simp)
    (fun _ _ ↦ rfl)
    (fun x f g ↦ ext fun s ↦ by simp)

end Action

end Shading
