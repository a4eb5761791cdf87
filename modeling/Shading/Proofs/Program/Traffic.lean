import Shading.Program.Uniforms
import Shading.Proofs.Requests
import Shading.World

/-!
# Traffic

What an action does to the device of its context is what its requests do, one after the other. So
a relation between the device before, the traffic in between and the device after holds of every
action that is made of requests, once it holds of each request, of no traffic at all, and of two
actions in sequence.
-/

namespace Shading

open Shading.Uniform

/-- The calls among the entries of a record. -/
def callsOf {κ : Type} (record : List (Entry κ)) : List κ :=
  record.filterMap fun
    | .call call => some call
    | .note _ _ => none

section CallsOf

variable {κ μ : Type}

@[simp] theorem callsOf_nil : callsOf ([] : List (Entry κ)) = [] := rfl

@[simp] theorem callsOf_append (first second : List (Entry κ)) :
    callsOf (first ++ second) = callsOf first ++ callsOf second :=
  List.filterMap_append

@[simp] theorem callsOf_map (f : κ → μ) (record : List (Entry κ)) :
    callsOf (record.map (Entry.map f)) = (callsOf record).map f := by
  induction record with
  | nil => rfl
  | cons entry rest ih =>
    cases entry with
    | call call => exact congrArg (f call :: ·) ih
    | note level text => exact ih

end CallsOf

/-- What the device did by itself. -/
def issuedOf {κ : Type} (traffic : List (Traffic κ)) : List κ :=
  traffic.filterMap fun
    | .issued call => some call
    | .request _ => none

section IssuedOf

variable {κ : Type}

@[simp] theorem issuedOf_nil : issuedOf ([] : List (Traffic κ)) = [] := rfl

@[simp] theorem issuedOf_append (first second : List (Traffic κ)) :
    issuedOf (first ++ second) = issuedOf first ++ issuedOf second :=
  List.filterMap_append

/-- What one request issued, the request itself behind it. -/
@[simp] theorem issuedOf_map_issued_append (calls : List κ) (request : Request) :
    issuedOf (calls.map .issued ++ [.request request]) = calls := by
  induction calls with
  | nil => rfl
  | cons call rest ih => exact congrArg (call :: ·) ih

end IssuedOf

/-! ## Relations that compose -/

variable {κ σ δ α β : Type}

/-- What two relations in sequence come to. -/
def Chains (R S T : σ → List κ → σ → Prop) : Prop :=
  ∀ ⦃s s' s'' : σ⦄ ⦃first second : List κ⦄, R s first s' → S s' second s'' →
    T s (first ++ second) s''

/-- A relation that holds of nothing done, and of two actions in sequence. -/
structure Composes (R : σ → List κ → σ → Prop) : Prop where
  refl (s : σ) : R s [] s
  trans : Chains R R R

/-- An action relates the state before it to the state after it. -/
def Follows (R : σ → List κ → σ → Prop) (x : Action κ σ α) : Prop :=
  ∀ s, R s (callsOf (x.run s).record) (x.run s).state

namespace Follows

variable {R : σ → List κ → σ → Prop} {x : Action κ σ α} {f : α → Action κ σ β}

/-- The form in which the relation is used: for one run. -/
theorem of_run (hx : Follows R x) {s s' : σ} {value : α} {record : List (Entry κ)}
    (h : x.run s = ⟨value, s', record⟩) : R s (callsOf record) s' := by
  have hs := hx s
  rwa [h] at hs

theorem pure (hR : Composes R) (a : α) : Follows R (Pure.pure a : Action κ σ α) :=
  fun s ↦ hR.refl s

theorem note (hR : Composes R) (level : Level) (text : String) :
    Follows R (Action.note level text : Action κ σ Unit) :=
  fun s ↦ hR.refl s

theorem get (hR : Composes R) : Follows R (MonadState.get : Action κ σ σ) :=
  fun s ↦ hR.refl s

/-- Two relations that chain into a third carry over to the sequence. -/
theorem bind_of_chains {S T : σ → List κ → σ → Prop} (h : Chains R S T) (hx : Follows R x)
    (hf : ∀ a, Follows S (f a)) : Follows T (x >>= f) := by
  intro s
  rw [Action.run_bind, callsOf_append]
  exact h (hx s) (hf _ _)

theorem bind (hR : Composes R) (hx : Follows R x) (hf : ∀ a, Follows R (f a)) :
    Follows R (x >>= f) :=
  bind_of_chains hR.trans hx hf

theorem map (g : α → β) (hx : Follows R x) : Follows R (g <$> x) := by
  intro s
  rw [Action.run_map]
  exact hx s

/-- One step after the other, for every item of a list. -/
theorem mapM (hR : Composes R) (hf : ∀ a, Follows R (f a)) (xs : List α) :
    Follows R (xs.mapM f) := by
  induction xs with
  | nil => exact .pure hR []
  | cons x xs ih =>
    rw [List.mapM_cons]
    exact .bind hR (hf x) fun _ ↦ .bind hR ih fun _ ↦ .pure hR _

theorem forM (hR : Composes R) {f : α → Action κ σ Unit} (hf : ∀ a, Follows R (f a))
    (xs : List α) : Follows R (xs.forM f) := by
  induction xs with
  | nil => exact .pure hR ()
  | cons x xs ih => exact .bind hR (hf x) fun _ ↦ ih

end Follows

/-- What a relation between devices says of contexts. -/
def OnDevice (R : δ → List (Traffic κ) → δ → Prop) :
    Context δ → List (Traffic κ) → Context δ → Prop :=
  fun c traffic c' ↦ R c.device traffic c'.device

/-- What a relation says of the calls of the device among some traffic. -/
def Issued (R : δ → List κ → δ → Prop) : δ → List (Traffic κ) → δ → Prop :=
  fun d traffic d' ↦ R d (issuedOf traffic) d'

/-- Relations of devices chain as relations of their contexts. -/
theorem Chains.onDevice {R S T : δ → List (Traffic κ) → δ → Prop} (h : Chains R S T) :
    Chains (OnDevice R) (OnDevice S) (OnDevice T) :=
  fun _ _ _ _ _ earlier later ↦ h earlier later

theorem Chains.issued {R S T : δ → List κ → δ → Prop} (h : Chains R S T) :
    Chains (Issued R) (Issued S) (Issued T) := by
  intro d d' d'' first second earlier later
  rw [Issued, issuedOf_append]
  exact h earlier later

theorem Composes.onDevice {R : δ → List (Traffic κ) → δ → Prop} (hR : Composes R) :
    Composes (OnDevice R) :=
  ⟨fun c ↦ hR.refl c.device, Chains.onDevice hR.trans⟩

theorem Composes.issued {R : δ → List κ → δ → Prop} (hR : Composes R) : Composes (Issued R) :=
  ⟨hR.refl, Chains.issued hR.trans⟩

namespace Follows

variable {R : δ → List (Traffic κ) → δ → Prop}

/-- A request is the calls it makes and the request itself. -/
theorem ask {x : Action κ δ α} {request : α → Request}
    (h : ∀ d, R d ((callsOf (x.run d).record).map .issued ++
      [.request (request (x.run d).value)]) (x.run d).state) :
    Follows (OnDevice R) (Context.ask x request) := by
  intro c
  rw [Context.run_ask, callsOf_append, callsOf_map]
  exact h c.device

/-- Where requests do not count, only the calls of the device do. -/
theorem ask_issued {R : δ → List κ → δ → Prop} {x : Action κ δ α} (hx : Follows R x)
    (request : α → Request) : Follows (OnDevice (Issued R)) (Context.ask x request) := by
  apply ask
  intro d
  rw [Issued, issuedOf_map_issued_append]
  exact hx d

theorem setCurrent (hR : Composes R) (current : Option ProgramId) :
    Follows (OnDevice R) (Context.setCurrent current : ContextAction δ κ Unit) :=
  fun c ↦ hR.refl c.device

theorem newId (hR : Composes R) :
    Follows (OnDevice R) (Context.newId : ContextAction δ κ ProgramId) :=
  fun c ↦ hR.refl c.device

end Follows

/-- An access that may fail follows a relation if each of its steps does. -/
theorem Follows.access_bind {R : Context δ → List (Traffic κ) → Context δ → Prop}
    (hR : Composes R) {x : AccessAction δ κ α} {f : α → AccessAction δ κ β}
    (hx : Follows R x.run) (hf : ∀ a, Follows R (f a).run) : Follows R (x >>= f).run := by
  rw [ExceptT.run_bind]
  apply Follows.bind hR hx
  intro answer
  cases answer with
  | ok a => exact hf a
  | error e => exact .pure hR _

namespace Program

variable [Device δ κ] {R : Context δ → List (Traffic κ) → Context δ → Prop}
variable {n : Nat} {p : Program n} (name : String)

/-- A program whose uniforms cannot be accessed says so before it asks for anything. -/
theorem run_access_of_not_accessible {c : Context δ} (h : p.isAccessible c = false) :
    (∀ value, (p.setUniform name value : AccessAction δ κ _).run.run c = ⟨.error .unbound, c, []⟩) ∧
      (p.getUniform name : AccessAction δ κ _).run.run c = ⟨.error .unbound, c, []⟩ := by
  have hdescriptor : (p.accessibleDescriptor name : AccessAction δ κ _).run.run c =
      ⟨.error .unbound, c, []⟩ := by
    simp [accessibleDescriptor, h]
  constructor
  · intro value
    rw [setUniform, ExceptT.run_bind, Action.run_bind, hdescriptor]
    rfl
  · rw [getUniform, ExceptT.run_bind, Action.run_bind, hdescriptor]
    rfl

/-- A descriptor is found by asking for the active uniforms. -/
theorem follows_accessibleDescriptor (hR : Composes R)
    (hactive : Follows R (Context.activeUniforms p.handle : ContextAction δ κ _)) :
    Follows R (p.accessibleDescriptor name : AccessAction δ κ _).run := by
  unfold accessibleDescriptor
  apply Follows.access_bind hR (.map _ (.get hR))
  intro c
  split
  · apply Follows.access_bind hR (.map _ hactive)
    intro active
    split
    · split <;> exact .pure hR _
    · exact .pure hR _
  · exact .pure hR _

theorem follows_location (hR : Composes R)
    (hlocation : Follows R (Context.uniformLocation p.handle name : ContextAction δ κ _)) :
    Follows R (p.location name : AccessAction δ κ _).run := by
  unfold location
  apply Follows.access_bind hR (.map _ hlocation)
  intro answer
  cases answer <;> exact .pure hR _

theorem follows_elementLocations (hR : Composes R)
    (hlocation : ∀ name, Follows R (Context.uniformLocation p.handle name : ContextAction δ κ _))
    (first count : Nat) :
    Follows R (p.elementLocations name first count : AccessAction δ κ _).run := by
  induction count generalizing first with
  | zero => exact .pure hR _
  | succ count ih =>
    apply Follows.access_bind hR (follows_location _ hR (hlocation _))
    intro location
    exact .access_bind hR (ih _) fun _ ↦ .pure hR _

/-- A write is made of two queries and one upload. -/
theorem follows_setUniform (hR : Composes R)
    (hactive : Follows R (Context.activeUniforms p.handle : ContextAction δ κ _))
    (hlocation : ∀ name, Follows R (Context.uniformLocation p.handle name : ContextAction δ κ _))
    (hupload : ∀ location count data,
      Follows R (Context.upload location count data : ContextAction δ κ _))
    (value : HostValue) : Follows R (p.setUniform name value : AccessAction δ κ _).run := by
  unfold setUniform
  apply Follows.access_bind hR (follows_accessibleDescriptor name hR hactive)
  intro d
  apply Follows.access_bind hR (.pure hR _)
  intro data
  apply Follows.access_bind hR (follows_location name hR (hlocation name))
  intro location
  apply Follows.access_bind hR (.map _ (.note hR _ _))
  intro _
  split
  · exact .map _ (hupload _ _ _)
  · exact .pure hR _

/-- A read is made of queries. -/
theorem follows_getUniform (hR : Composes R)
    (hactive : Follows R (Context.activeUniforms p.handle : ContextAction δ κ _))
    (hlocation : ∀ name, Follows R (Context.uniformLocation p.handle name : ContextAction δ κ _))
    (hints : ∀ location size,
      Follows R (Context.queryInts p.handle location size : ContextAction δ κ _))
    (hfloats : ∀ location size,
      Follows R (Context.queryFloats p.handle location size : ContextAction δ κ _)) :
    Follows R (p.getUniform name : AccessAction δ κ _).run := by
  unfold getUniform
  apply Follows.access_bind hR (follows_accessibleDescriptor name hR hactive)
  intro d
  apply Follows.access_bind hR (.pure hR _)
  intro _
  apply Follows.access_bind hR (follows_location name hR (hlocation name))
  intro first
  apply Follows.access_bind hR (follows_elementLocations name hR hlocation 1 _)
  intro others
  apply Follows.access_bind hR (.map _ (.note hR _ _))
  intro _
  apply Follows.map
  unfold queryElements
  cases d.storageType with
  | int => exact .bind hR (.mapM hR (fun _ ↦ hints _ _) _) fun _ ↦ .pure hR _
  | float => exact .bind hR (.mapM hR (fun _ ↦ hfloats _ _) _) fun _ ↦ .pure hR _

end Program

/-! ## Linking and binding -/

namespace Program

variable {R : Context δ → List (Traffic κ) → Context δ → Prop} {n : Nat} (p : Program n)

theorem follows_readUniforms (hR : Composes R) :
    Follows R (p.readUniforms : ContextAction δ κ _) := by
  unfold readUniforms
  split <;> exact .bind hR (.note hR _ _) fun _ ↦ .pure hR _

theorem follows_noteChange (hR : Composes R) (previous : Option ProgramId) (id : ProgramId)
    (text : String → String) :
    Follows R (noteChange previous id text : ContextAction δ κ Unit) := by
  unfold noteChange
  split
  · split
    · exact .pure hR _
    · exact .note hR _ _
  · exact .pure hR _

variable [Device δ κ] (hR : Composes R)
  (hcurrent : ∀ current, Follows R (Context.setCurrent current : ContextAction δ κ Unit))
  (hattach : ∀ program stage, Follows R (Context.attachStage program stage : ContextAction δ κ _))
  (hlink : ∀ program, Follows R (Context.linkProgram program : ContextAction δ κ _))
  (huse : ∀ program, Follows R (Context.useProgram program : ContextAction δ κ _))

include hR

include hattach in
theorem follows_attachNew : Follows R (p.attachNew : ContextAction δ κ _) :=
  .bind hR (.forM hR (fun _ ↦ hattach _ _) _) fun _ ↦ .pure hR _

include hattach hlink in
/-- An attempt to link attaches, links and reads the declarations. -/
theorem follows_link : Follows R (p.link : ContextAction δ κ _) := by
  unfold link
  apply Follows.bind hR (p.follows_attachNew hR hattach)
  intro p
  apply Follows.bind hR (hlink p.handle)
  intro answer
  cases answer with
  | ok done => exact p.follows_readUniforms hR
  | error e => exact .bind hR (.note hR _ _) fun _ ↦ .pure hR _

include hcurrent in
theorem follows_unbind
    (hunuse : Follows R (Context.useProgram none : ContextAction δ κ Unit)) :
    Follows R (p.unbind : ContextAction δ κ _) := by
  unfold unbind
  apply Follows.bind hR hunuse
  intro _
  apply Follows.bind hR (.get hR)
  intro c
  apply Follows.bind hR (hcurrent _)
  intro _
  exact .bind hR (follows_noteChange hR _ _ _) fun _ ↦ .pure hR _

include hcurrent huse in
theorem follows_makeCurrent : Follows R (p.makeCurrent : ContextAction δ κ _) := by
  unfold makeCurrent
  apply Follows.bind hR (huse _)
  intro _
  apply Follows.bind hR (.get hR)
  intro c
  apply Follows.bind hR (hcurrent _)
  intro _
  exact .bind hR (follows_noteChange hR _ _ _) fun _ ↦ .pure hR _

include hcurrent hattach hlink huse in
/-- To bind is to link, to use, or to take out of use. -/
theorem follows_bind : Follows R (p.bind : ContextAction δ κ _) := by
  unfold bind
  have hneeded : Follows R (p.linkIfNeeded : ContextAction δ κ _) := by
    unfold linkIfNeeded
    split
    · exact .pure hR _
    · exact p.follows_link hR hattach hlink
  apply Follows.bind hR hneeded
  rintro ⟨p, linked⟩
  cases linked with
  | ok done => exact .bind hR (p.follows_makeCurrent hR hcurrent huse) fun _ ↦ .pure hR _
  | error e =>
    apply Follows.bind hR (.get hR)
    intro c
    split
    · exact .bind hR (p.follows_unbind hR hcurrent (huse none)) fun _ ↦ .pure hR _
    · exact .pure hR _

include hcurrent hattach hlink huse in
/-- To append is at most to bind. -/
theorem follows_append (stage : Stage n) :
    Follows R (p.append stage : ContextAction δ κ _) := by
  unfold append
  apply Follows.bind hR (.note hR _ _)
  intro _
  dsimp only
  split
  · exact follows_bind _ hR hcurrent hattach hlink huse
  · exact .pure hR _

include hcurrent in
/-- To retire is to destroy. -/
theorem follows_retire
    (hdestroy : ∀ program, Follows R (Context.destroyProgram program : ContextAction δ κ _)) :
    Follows R (p.retire : ContextAction δ κ _) := by
  unfold retire
  apply Follows.bind hR (.get hR)
  intro c
  split
  · apply Follows.bind hR (.note hR _ _)
    intro _
    exact .bind hR (hcurrent _) fun _ ↦ hdestroy _
  · exact hdestroy _

include hattach hlink in
/-- To assemble is to make and to link. -/
theorem follows_assemble (hmake : Follows R (Context.newProgram : ContextAction δ κ _))
    (hnumber : Follows R (Context.newId : ContextAction δ κ _)) (i : Fin n)
    (stages : List (Stage n)) : Follows R (assemble i stages : ContextAction δ κ _) := by
  unfold assemble
  apply Follows.bind hR hmake
  intro handle
  exact .bind hR hnumber fun _ ↦ follows_link _ hR hattach hlink

end Program

variable {R : δ → List (Traffic κ) → δ → Prop}

/-- A relation that composes and holds of every request. -/
structure Obeyed [Device δ κ] (R : δ → List (Traffic κ) → δ → Prop) : Prop
    extends Composes R where
  newStage (type : StageType) (sources : List String) :
    Follows (OnDevice R) (Context.newStage type sources : ContextAction δ κ _)
  destroyStage (stage : Nat) :
    Follows (OnDevice R) (Context.destroyStage stage : ContextAction δ κ _)
  newProgram : Follows (OnDevice R) (Context.newProgram : ContextAction δ κ _)
  attachStage (program : Nat) (stage : Shader) :
    Follows (OnDevice R) (Context.attachStage program stage : ContextAction δ κ _)
  linkProgram (program : Nat) :
    Follows (OnDevice R) (Context.linkProgram program : ContextAction δ κ _)
  isLinked (program : Nat) : Follows (OnDevice R) (Context.isLinked program : ContextAction δ κ _)
  destroyProgram (program : Nat) :
    Follows (OnDevice R) (Context.destroyProgram program : ContextAction δ κ _)
  useProgram (program : Option Nat) :
    Follows (OnDevice R) (Context.useProgram program : ContextAction δ κ _)
  activeUniforms (program : Nat) :
    Follows (OnDevice R) (Context.activeUniforms program : ContextAction δ κ _)
  uniformLocation (program : Nat) (name : String) :
    Follows (OnDevice R) (Context.uniformLocation program name : ContextAction δ κ _)
  upload (location : Int) (count : Nat) (data : Upload) :
    Follows (OnDevice R) (Context.upload location count data : ContextAction δ κ _)
  queryInts (program : Nat) (location : Int) (size : Nat) :
    Follows (OnDevice R) (Context.queryInts program location size : ContextAction δ κ _)
  queryFloats (program : Nat) (location : Int) (size : Nat) :
    Follows (OnDevice R) (Context.queryFloats program location size : ContextAction δ κ _)

namespace Obeyed

variable [Device δ κ] {n : Nat} (h : Obeyed R) (p : Program n)

include h

/-- What every request obeys composes. -/
theorem composes : Composes (OnDevice R) :=
  h.toComposes.onDevice

theorem setCurrent (current : Option ProgramId) :
    Follows (OnDevice R) (Context.setCurrent current : ContextAction δ κ Unit) :=
  .setCurrent h.toComposes current

theorem unbind : Follows (OnDevice R) (p.unbind : ContextAction δ κ _) :=
  p.follows_unbind h.composes h.setCurrent (h.useProgram none)

theorem bind : Follows (OnDevice R) (p.bind : ContextAction δ κ _) :=
  p.follows_bind h.composes h.setCurrent h.attachStage h.linkProgram h.useProgram

theorem append (stage : Stage n) : Follows (OnDevice R) (p.append stage : ContextAction δ κ _) :=
  p.follows_append h.composes h.setCurrent h.attachStage h.linkProgram h.useProgram stage

theorem retire : Follows (OnDevice R) (p.retire : ContextAction δ κ _) :=
  p.follows_retire h.composes h.setCurrent h.destroyProgram

/-- A program is made as every request obeys it. -/
theorem assemble (i : Fin n) (stages : List (Stage n)) :
    Follows (OnDevice R) (Program.assemble i stages : ContextAction δ κ _) :=
  Program.follows_assemble h.composes h.attachStage h.linkProgram h.newProgram
    (.newId h.toComposes) i stages

theorem setUniform (name : String) (value : HostValue) :
    Follows (OnDevice R) (p.setUniform name value : AccessAction δ κ _).run :=
  Program.follows_setUniform name h.composes (h.activeUniforms _) (h.uniformLocation _)
    h.upload value

theorem getUniform (name : String) :
    Follows (OnDevice R) (p.getUniform name : AccessAction δ κ _).run :=
  Program.follows_getUniform name h.composes (h.activeUniforms _) (h.uniformLocation _)
    (h.queryInts _) (h.queryFloats _)

end Obeyed

end Shading
