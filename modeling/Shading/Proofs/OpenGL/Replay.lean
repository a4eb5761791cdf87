import Shading.OpenGL.Scripted
import Shading.Proofs.OpenGL.Switching
import Shading.Proofs.Session.Traffic

/-!
# Calls in the order of the driver

The calls on record, carried out once more from the driver as it was, lead to the driver as it is.
So the record tells which driver each call met. Of a driver nothing is assumed but that only a
call to use a program changes which program is in use.

Most requests leave the program in use alone, both in the driver and in the record of the back
end. The two that do not are using a program and destroying one.
-/

namespace Shading.OpenGL

@[simp] theorem Backend.callsOf_borrowNotes {γ : Type} (b : Backend γ) :
    callsOf b.borrowNotes = [] :=
  filterMap_borrowNotes (fun _ _ ↦ rfl) b

variable {γ : Type} [Driver γ]

namespace Call

/-- What a call does to the driver. Queries do nothing. -/
def perform : Call → γ → γ
  | createShader type _, d => (Driver.createShader type d).2
  | shaderSource shader sources, d => Driver.shaderSource shader sources d
  | compileShader shader, d => Driver.compileShader shader d
  | deleteShader shader, d => Driver.deleteShader shader d
  | createProgram _, d => (Driver.createProgram d).2
  | attachShader program shader, d => Driver.attachShader program shader d
  | linkProgram program, d => Driver.linkProgram program d
  | deleteProgram program, d => Driver.deleteProgram program d
  | useProgram program, d => Driver.useProgram program d
  | uniform location count data, d => Driver.uniform location count data d
  | getShader .., d | getShaderInfoLog .., d | getProgram .., d | getProgramInfoLog .., d => d
  | getCurrentProgram _, d | getActiveUniform .., d | getUniformLocation .., d => d
  | getUniformInts .., d | getUniformFloats .., d => d

/-- The program in use after a call. -/
def inUseAfter : Call → Nat → Nat
  | useProgram program, _ => program
  | _, current => current

/-- A call after which no other program is in use than before, and that deletes none. -/
def spares : Call → Bool
  | useProgram _ | deleteProgram _ => false
  | _ => true

/-- Only a call to use a program changes which one is in use. -/
theorem inUseAfter_of_spares {call : Call} (h : call.spares) (current : Nat) :
    call.inUseAfter current = current := by
  cases call <;> first | rfl | cases h

end Call

/-- A program in use stays in use until another one, or none, is put to use. -/
class LawfulDriver (γ : Type) [Driver γ] : Prop where
  currentProgram_perform (call : Call) (d : γ) :
    Driver.currentProgram (call.perform d) = call.inUseAfter (Driver.currentProgram d)

/-- What the calls make of a driver. -/
def replay (calls : List Call) (d : γ) : γ :=
  calls.foldl (fun d call ↦ call.perform d) d

@[simp] theorem replay_append (first second : List Call) (d : γ) :
    replay (first ++ second) d = replay second (replay first d) :=
  List.foldl_append

namespace Scripted

theorem currentProgram_createShader (s : Scripted) :
    s.createShader.2.script.current = s.script.current := by
  unfold createShader
  split <;> rfl

theorem currentProgram_linkProgram (program : Nat) (s : Scripted) :
    (linkProgram program s).script.current = s.script.current := by
  unfold linkProgram
  dsimp only
  split <;> rfl

theorem currentProgram_uniform (location : Int) (data : Upload) (s : Scripted) :
    (uniform location data s).script.current = s.script.current := by
  unfold uniform
  split <;> rfl

instance : LawfulDriver Scripted where
  currentProgram_perform call s := by
    cases call with
    | createShader => exact s.currentProgram_createShader
    | linkProgram program => exact currentProgram_linkProgram program s
    | uniform location _ data => exact currentProgram_uniform location data s
    | _ => rfl

end Scripted

/-! ## The program in use -/

section InUse

variable [LawfulDriver γ]

theorem currentProgram_useProgram (program : Nat) (d : γ) :
    Driver.currentProgram (Driver.useProgram program d) = program :=
  LawfulDriver.currentProgram_perform (.useProgram program) d

/-- Calls that spare the program in use leave it in use. -/
theorem currentProgram_replay {calls : List Call} (h : ∀ call ∈ calls, call.spares) (d : γ) :
    Driver.currentProgram (replay calls d) = Driver.currentProgram d := by
  induction calls generalizing d with
  | nil => rfl
  | cons call rest ih =>
    calc Driver.currentProgram (replay (call :: rest) d)
        = Driver.currentProgram (call.perform d) :=
          ih (fun other hother ↦ h other (List.mem_cons_of_mem _ hother)) _
      _ = Driver.currentProgram d := by
          rw [LawfulDriver.currentProgram_perform,
            Call.inUseAfter_of_spares (h call List.mem_cons_self)]

end InUse

namespace Backend

/-- The driver went through the calls and nothing else. -/
def Replays (b : Backend γ) (calls : List Call) (b' : Backend γ) : Prop :=
  b'.driver = replay calls b.driver

/-- Some calls that spare the program in use, and nothing else. -/
structure Spares (b : Backend γ) (calls : List Call) (b' : Backend γ) : Prop where
  replays : b.Replays calls b'
  inUse : b'.inUse = b.inUse
  borrowed : b'.borrowed = b.borrowed
  spared : ∀ call ∈ calls, call.spares

theorem composes_replays : Composes (Replays (γ := γ)) := by
  refine ⟨fun _ ↦ rfl, ?_⟩
  intro b b' b'' first second earlier later
  rw [Replays, replay_append, ← earlier]
  exact later

/-- To spare is kept by sequences. -/
theorem composes_spares : Composes (Spares (γ := γ)) := by
  refine ⟨fun b ↦ ⟨rfl, rfl, rfl, fun _ h ↦ by cases h⟩, ?_⟩
  intro b b' b'' first second earlier later
  refine ⟨composes_replays.trans earlier.replays later.replays, later.inUse.trans earlier.inUse,
    later.borrowed.trans earlier.borrowed, ?_⟩
  intro call hcall
  rcases List.mem_append.1 hcall with h | h
  · exact earlier.spared call h
  · exact later.spared call h

theorem follows_command {f : γ → γ} {call : Call} (hcall : call.perform = f)
    (hspares : call.spares) : Follows Spares (command f call) := by
  intro b
  refine ⟨?_, rfl, rfl, ?_⟩
  · rw [← hcall]
    rfl
  · intro other hother
    rwa [List.mem_singleton.1 hother]

/-- A query changes nothing. -/
theorem follows_query {α : Type} (f : γ → α) {call : α → Call}
    (hcall : ∀ answer, (call answer).perform = (id : γ → γ))
    (hspares : ∀ answer, (call answer).spares) : Follows Spares (query f call) := by
  intro b
  refine ⟨?_, rfl, rfl, ?_⟩
  · exact (congrFun (hcall (f b.driver)) b.driver).symm
  · intro other hother
    rw [List.mem_singleton.1 hother]
    exact hspares _

/-- A new handle is not in use. -/
theorem follows_create {f : γ → Nat × γ} {call : Nat → Call}
    (hcall : ∀ handle d, (call handle).perform d = (f d).2)
    (hspares : ∀ handle, (call handle).spares) : Follows Spares (create f call) := by
  intro b
  refine ⟨?_, rfl, rfl, ?_⟩
  · exact (hcall _ b.driver).symm
  · intro other hother
    rw [List.mem_singleton.1 hother]
    exact hspares _

theorem spares_rejectShader (type : StageType) (shader : Nat) :
    Follows Spares (rejectShader type shader : Action Call (Backend γ) _) :=
  .bind composes_spares (follows_query _ (fun _ ↦ rfl) fun _ ↦ rfl) fun _ ↦
    .bind composes_spares (follows_query _ (fun _ ↦ rfl) fun _ ↦ rfl) fun _ ↦
      .bind composes_spares (follows_command rfl rfl) fun _ ↦ .pure composes_spares _

/-- No stage touches the program in use. -/
theorem spares_newStage (type : StageType) (sources : List String) :
    Follows Spares (newStage type sources : Action Call (Backend γ) _) := by
  unfold newStage
  split
  · exact .pure composes_spares _
  · apply Follows.bind composes_spares (follows_create (fun _ _ ↦ rfl) fun _ ↦ rfl)
    intro shader
    split
    · exact .pure composes_spares _
    · apply Follows.bind composes_spares (follows_command rfl rfl)
      intro _
      apply Follows.bind composes_spares (follows_command rfl rfl)
      intro _
      apply Follows.bind composes_spares (follows_query _ (fun _ ↦ rfl) fun _ ↦ rfl)
      intro status
      split
      · exact .pure composes_spares _
      · exact .bind composes_spares (spares_rejectShader _ _) fun _ ↦ .pure composes_spares _

theorem spares_destroyStage (stage : Nat) :
    Follows Spares (destroyStage stage : Action Call (Backend γ) _) :=
  follows_command rfl rfl

theorem spares_newProgram : Follows Spares (newProgram : Action Call (Backend γ) _) :=
  follows_create (fun _ _ ↦ rfl) fun _ ↦ rfl

theorem spares_attachStage (program : Nat) (stage : Shader) :
    Follows Spares (attachStage program stage : Action Call (Backend γ) _) :=
  .bind composes_spares (.note composes_spares _ _) fun _ ↦ follows_command rfl rfl

theorem spares_isLinked (program : Nat) :
    Follows Spares (isLinked program : Action Call (Backend γ) _) :=
  .bind composes_spares (follows_query _ (fun _ ↦ rfl) fun _ ↦ rfl) fun _ ↦
    .pure composes_spares _

/-- A program is linked without being put to use. -/
theorem spares_linkProgram (program : Nat) :
    Follows Spares (linkProgram program : Action Call (Backend γ) _) := by
  apply Follows.bind composes_spares (follows_command rfl rfl)
  intro _
  apply Follows.bind composes_spares (spares_isLinked program)
  intro linked
  split
  · exact .pure composes_spares _
  · apply Follows.bind composes_spares (follows_query _ (fun _ ↦ rfl) fun _ ↦ rfl)
    intro size
    apply Follows.bind composes_spares (follows_query _ (fun _ ↦ rfl) fun _ ↦ rfl)
    intro written
    exact .pure composes_spares _

theorem spares_readNames (program size : Nat) (indices : List Nat) (front : List UInt8) :
    Follows Spares (readNames program size indices front : Action Call (Backend γ) _) := by
  induction indices generalizing front with
  | nil => exact .pure composes_spares _
  | cons index rest ih =>
    apply Follows.bind composes_spares (follows_query _ (fun _ ↦ rfl) fun _ ↦ rfl)
    intro written
    exact .bind composes_spares (ih _) fun _ ↦ .pure composes_spares _

/-- To ask for the names changes nothing. -/
theorem spares_activeUniforms (program : Nat) :
    Follows Spares (activeUniforms program : Action Call (Backend γ) _) := by
  apply Follows.bind composes_spares (follows_query _ (fun _ ↦ rfl) fun _ ↦ rfl)
  intro count
  apply Follows.bind composes_spares (follows_query _ (fun _ ↦ rfl) fun _ ↦ rfl)
  intro longest
  apply Follows.bind composes_spares (spares_readNames program _ _ _)
  exact fun _ ↦ .bind composes_spares (.note composes_spares _ _) fun _ ↦ .pure composes_spares _

theorem spares_uniformLocation (program : Nat) (name : String) :
    Follows Spares (uniformLocation program name : Action Call (Backend γ) _) := by
  unfold uniformLocation
  split
  · exact .pure composes_spares _
  · exact .bind composes_spares (follows_query _ (fun _ ↦ rfl) fun _ ↦ rfl) fun _ ↦
      .pure composes_spares _

theorem spares_upload (location : Int) (count : Nat) (data : Upload) :
    Follows Spares (upload location count data : Action Call (Backend γ) _) :=
  follows_command rfl rfl

theorem spares_queryInts (program : Nat) (location : Int) (size : Nat) :
    Follows Spares (queryInts program location size : Action Call (Backend γ) _) :=
  .bind composes_spares (follows_query _ (fun _ ↦ rfl) fun _ ↦ rfl) fun _ ↦
    .pure composes_spares _

theorem spares_queryFloats (program : Nat) (location : Int) (size : Nat) :
    Follows Spares (queryFloats program location size : Action Call (Backend γ) _) :=
  .bind composes_spares (follows_query _ (fun _ ↦ rfl) fun _ ↦ rfl) fun _ ↦
    .pure composes_spares _

theorem device_useProgram (program : Option Nat) :
    (Device.useProgram program : Action Call (Backend γ) Unit) = useProgram program := rfl

/-- The program is taken out of use first if the record may be touched and says it is in use. -/
theorem run_destroyProgram (program : Nat) (b : Backend γ) :
    ((Device.destroyProgram program : Action Call (Backend γ) Unit).run b) =
      if b.borrowed = false ∧ b.inUse = some program then
        ⟨(), { b.switchedTo 0 with
            driver := Driver.deleteProgram program (b.switchedTo 0).driver },
          [.call (.useProgram 0), .call (.deleteProgram program)]⟩
      else
        ⟨(), { b with driver := Driver.deleteProgram program b.driver },
          [.call (.deleteProgram program)]⟩ := by
  have hrun : ((Device.destroyProgram program : Action Call (Backend γ) Unit).run b) =
      ((destroyProgram program).run b) := rfl
  rw [hrun]
  cases hborrowed : b.borrowed <;> by_cases hinUse : b.inUse = some program <;>
    simp [destroyProgram, command, run_leaveProgram, hborrowed, hinUse, switchedTo]

/-- The requests that spare the program in use obey whatever follows from that. -/
theorem obeyed_issued {R : Backend γ → List Call → Backend γ → Prop} (hR : Composes R)
    (hspares : ∀ {b calls b'}, Spares b calls b' → R b calls b')
    (huse : ∀ program, Follows R (Device.useProgram program : Action Call (Backend γ) Unit))
    (hdestroy : ∀ program,
      Follows R (Device.destroyProgram program : Action Call (Backend γ) Unit)) :
    Obeyed (Issued R) where
  toComposes := hR.issued
  newStage type sources := .ask_issued (fun b ↦ hspares (spares_newStage type sources b)) _
  destroyStage stage := .ask_issued (fun b ↦ hspares (spares_destroyStage stage b)) _
  newProgram := .ask_issued (fun b ↦ hspares (spares_newProgram b)) _
  attachStage program stage := .ask_issued (fun b ↦ hspares (spares_attachStage program stage b)) _
  linkProgram program := .ask_issued (fun b ↦ hspares (spares_linkProgram program b)) _
  isLinked program := .ask_issued (fun b ↦ hspares (spares_isLinked program b)) _
  destroyProgram program := .ask_issued (hdestroy program) _
  useProgram program := .ask_issued (huse program) _
  activeUniforms program := .ask_issued (fun b ↦ hspares (spares_activeUniforms program b)) _
  uniformLocation program name :=
    .ask_issued (fun b ↦ hspares (spares_uniformLocation program name b)) _
  upload location count data :=
    .ask_issued (fun b ↦ hspares (spares_upload location count data b)) _
  queryInts program location size :=
    .ask_issued (fun b ↦ hspares (spares_queryInts program location size b)) _
  queryFloats program location size :=
    .ask_issued (fun b ↦ hspares (spares_queryFloats program location size b)) _

/-- The driver is where its calls have brought it, whether or not a call was made. -/
theorem replays_useProgram (program : Option Nat) :
    Follows Replays (Device.useProgram program : Action Call (Backend γ) Unit) := by
  intro b
  rw [device_useProgram, run_useProgram]
  split
  · rw [callsOf_borrowNotes]
    rfl
  · rw [callsOf_append, callsOf_borrowNotes]
    rfl

theorem replays_destroyProgram (program : Nat) :
    Follows Replays (Device.destroyProgram program : Action Call (Backend γ) Unit) := by
  intro b
  rw [run_destroyProgram]
  split <;> rfl

/-! ## The record of the back end -/

/-- The program on record is in use. -/
def Truthful (b : Backend γ) : Prop :=
  ∀ program, b.inUse = some program → Driver.currentProgram b.driver = program

/-- A back end starts with what the driver tells it. -/
theorem truthful_opened (driver : γ) : Truthful (opened driver) :=
  fun _ h ↦ Option.some.inj h

/-- An event that changes no program in use, and that at most takes the record away. -/
def Undisturbing {ε : Type} [Environment (Backend γ) Call ε] (event : ε) : Prop :=
  ∀ b : Backend γ,
    let b' := ((Environment.react event : Action Call (Backend γ) _).run b).state
    Driver.currentProgram b'.driver = Driver.currentProgram b.driver ∧
      (b'.inUse = b.inUse ∨ b'.inUse = none)

/-- An event that does not disturb keeps the belief true. -/
theorem Undisturbing.truthful {ε : Type} [Environment (Backend γ) Call ε] {event : ε}
    (h : Undisturbing (γ := γ) event) {b : Backend γ} (hb : Truthful b) :
    Truthful ((Environment.react event : Action Call (Backend γ) _).run b).state := by
  obtain ⟨hcurrent, hsame | hnone⟩ := h b
  · intro program hprogram
    rw [hcurrent]
    exact hb program (hsame ▸ hprogram)
  · intro program hprogram
    rw [hnone] at hprogram
    cases hprogram

/-- Among the events of a scripted driver only the adjustment of the program in use is none. -/
theorem undisturbing_of_forall {event : Event}
    (h : ∀ settings program, event = .adjust settings → .current program ∉ settings) :
    Undisturbing (γ := Scripted) event := by
  intro b
  cases event with
  | adjust settings =>
    refine ⟨?_, .inl rfl⟩
    have hkept : ∀ (settings : List Script.Setting) (script : Script),
        (∀ program, .current program ∉ settings) →
          (settings.foldl Script.adjust script).current = script.current := by
      intro settings
      induction settings with
      | nil => exact fun _ _ ↦ rfl
      | cons setting rest ih =>
        intro script hnone
        rw [List.foldl_cons, ih _ fun program hmem ↦ hnone program (List.mem_cons_of_mem _ hmem)]
        cases setting with
        | current program => exact absurd List.mem_cons_self (hnone program)
        | _ => rfl
    exact hkept settings _ fun program ↦ h settings program rfl
  | acquire => exact ⟨rfl, .inl rfl⟩
  | invalidate => exact ⟨rfl, .inr rfl⟩
  | borrow borrowed => exact ⟨rfl, .inl rfl⟩

section Steps

variable [LawfulDriver γ] {b b' : Backend γ} {calls : List Call}

theorem Spares.currentProgram (h : Spares b calls b') :
    Driver.currentProgram b'.driver = Driver.currentProgram b.driver := by
  have hreplays : b'.driver = replay calls b.driver := h.replays
  rw [hreplays]
  exact currentProgram_replay h.spared b.driver

theorem Spares.truthful (h : Spares b calls b') (hb : Truthful b) : Truthful b' := by
  intro program hprogram
  rw [h.currentProgram]
  exact hb program (h.inUse ▸ hprogram)

/-- A program that is used is in use, by a call or by the record. -/
theorem useProgram_spec (program : Option Nat) (hb : Truthful b) :
    let b' := ((Device.useProgram program : Action Call (Backend γ) Unit).run b).state
    Truthful b' ∧ Driver.currentProgram b'.driver = program.getD 0 := by
  rw [device_useProgram, run_useProgram]
  split
  · rename_i hsame
    exact ⟨hb, hb _ hsame⟩
  · refine ⟨?_, currentProgram_useProgram _ _⟩
    intro found hfound
    obtain rfl : program.getD 0 = found := Option.some.inj hfound
    exact currentProgram_useProgram _ _

/-- A program that is destroyed is taken out of use, or the program in use stays the same. -/
theorem destroyProgram_spec (program : Nat) (hb : Truthful b) :
    let b' := ((Device.destroyProgram program : Action Call (Backend γ) Unit).run b).state
    Truthful b' ∧
      (Driver.currentProgram b'.driver = Driver.currentProgram b.driver ∨
        Driver.currentProgram b.driver = program ∧ Driver.currentProgram b'.driver = 0) := by
  have hdelete : ∀ d : γ, Driver.currentProgram (Driver.deleteProgram program d) =
      Driver.currentProgram d :=
    LawfulDriver.currentProgram_perform (.deleteProgram program)
  rw [run_destroyProgram]
  split
  · rename_i hknown
    have hnone : Driver.currentProgram
        (Driver.deleteProgram program (Driver.useProgram 0 b.driver)) = 0 := by
      rw [hdelete, currentProgram_useProgram]
    refine ⟨?_, .inr ⟨hb _ hknown.2, hnone⟩⟩
    intro found hfound
    obtain rfl : 0 = found := Option.some.inj hfound
    exact hnone
  · refine ⟨?_, .inl (hdelete _)⟩
    intro found hfound
    exact (hdelete _).trans (hb found hfound)

end Steps

end Backend

end Shading.OpenGL
