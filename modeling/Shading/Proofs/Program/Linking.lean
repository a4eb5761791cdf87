import Shading.Program.Binding
import Shading.Proofs.Requests

/-!
# What linking and binding do

Linking a program has two parts: what is asked of the device, and what the answer makes of the
program. Neither part looks at the current program of the context. Binding comes down to four
cases: the program was linked already, or it is linked now, or it cannot be linked and was the
current program, or it cannot be linked and was not.
-/

namespace Shading.Program

variable {δ κ : Type} [Device δ κ] {n : Nat}

/-- What the device is asked to attach. -/
def attachAll (handle : Nat) (stages : List (Stage n)) : Action κ δ Unit :=
  stages.forM fun stage ↦ Device.attachStage handle stage.toShader

/-- What linking asks of the device. -/
def submit (p : Program n) : Action κ δ (Except ProgramError Unit) := do
  attachAll p.handle (p.stages.drop p.attached)
  Device.linkProgram p.handle

/-- What the answer of the device makes of the program. -/
def settle (p : Program n) (answer : Except ProgramError Unit) :
    Program n × Except ProgramError Unit :=
  let p := { p with attached := p.stages.length }
  match answer with
  | .error e => (p.fail, .error e)
  | .ok () =>
    match Uniform.parse p.source with
    | .ok uniforms => ({ p with uniforms, linkState := .linked }, .ok ())
    | .error e => (p.fail, .error (.declaration e))

/-- A program that has been linked and read. -/
def withTable (p : Program n) (uniforms : Uniform.Table) : Program n :=
  { p with attached := p.stages.length, uniforms, linkState := .linked }

/-- A program after an attempt that failed. -/
def withoutTable (p : Program n) : Program n :=
  { p with attached := p.stages.length, uniforms := ∅, linkState := .failed }

@[simp] theorem withoutTable_id (p : Program n) : p.withoutTable.id = p.id := rfl

theorem settle_of_parse {p : Program n} {uniforms : Uniform.Table}
    (h : Uniform.parse p.source = .ok uniforms) :
    p.settle (.ok ()) = (p.withTable uniforms, .ok ()) := by
  -- the source is that of the stages, which settling leaves alone
  have hsource : source { p with attached := p.stages.length } = p.source := rfl
  simp only [settle, hsource, h, withTable]

theorem settle_of_parse_error {p : Program n} {e : Uniform.DeclarationError}
    (h : Uniform.parse p.source = .error e) :
    p.settle (.ok ()) = (p.withoutTable, .error (.declaration e)) := by
  have hsource : source { p with attached := p.stages.length } = p.source := rfl
  simp only [settle, hsource, h, fail, withoutTable]

/-- The outcome of an attempt: a table, or none and an error. -/
theorem settle_cases (p : Program n) (answer : Except ProgramError Unit) :
    (∃ uniforms, answer = .ok () ∧ Uniform.parse p.source = .ok uniforms ∧
      p.settle answer = (p.withTable uniforms, .ok ())) ∨
    (∃ e, (answer.isOk = false ∨ ∃ fault, Uniform.parse p.source = .error fault) ∧
      p.settle answer = (p.withoutTable, .error e)) := by
  cases answer with
  | error e => exact .inr ⟨e, .inl rfl, rfl⟩
  | ok done =>
    cases hparse : Uniform.parse p.source with
    | ok uniforms => exact .inl ⟨uniforms, rfl, rfl, settle_of_parse hparse⟩
    | error e => exact .inr ⟨.declaration e, .inr ⟨e, rfl⟩, settle_of_parse_error hparse⟩

theorem settle_id (p : Program n) (answer : Except ProgramError Unit) :
    (p.settle answer).1.id = p.id := by
  rcases p.settle_cases answer with ⟨uniforms, -, -, h⟩ | ⟨e, -, h⟩ <;> rw [h] <;> rfl

theorem settle_handle (p : Program n) (answer : Except ProgramError Unit) :
    (p.settle answer).1.handle = p.handle := by
  rcases p.settle_cases answer with ⟨uniforms, -, -, h⟩ | ⟨e, -, h⟩ <;> rw [h] <;> rfl

theorem settle_home (p : Program n) (answer : Except ProgramError Unit) :
    (p.settle answer).1.home = p.home := by
  rcases p.settle_cases answer with ⟨uniforms, -, -, h⟩ | ⟨e, -, h⟩ <;> rw [h] <;> rfl

theorem settle_stages (p : Program n) (answer : Except ProgramError Unit) :
    (p.settle answer).1.stages = p.stages := by
  rcases p.settle_cases answer with ⟨uniforms, -, -, h⟩ | ⟨e, -, h⟩ <;> rw [h] <;> rfl

/-- The requests of an attempt to link, with the answer to the last one. -/
def linkRequests (p : Program n) (linked : Bool) : List Request :=
  ((p.stages.drop p.attached).map fun stage ↦ .attachStage p.handle stage.handle) ++
    [.linkProgram p.handle linked]

/-- An attempt attaches stages and links, all of one program. -/
theorem eq_of_mem_linkRequests {p : Program n} {linked : Bool} {request : Request}
    (h : request ∈ p.linkRequests linked) :
    (∃ stage, request = .attachStage p.handle stage) ∨ request = .linkProgram p.handle linked := by
  rcases List.mem_append.1 h with hattach | hlink
  · obtain ⟨stage, -, rfl⟩ := List.mem_map.1 hattach
    exact .inl ⟨_, rfl⟩
  · exact .inr (List.mem_singleton.1 hlink)

theorem state_forM_attachStage (handle : Nat) (stages : List (Stage n)) (c : Context δ) :
    ((stages.forM fun stage ↦
        (Context.attachStage handle stage.toShader : ContextAction δ κ Unit)).run c).state =
      { c with device := ((attachAll handle stages : Action κ δ Unit).run c.device).state } := by
  induction stages generalizing c with
  | nil => rfl
  | cons stage stages ih =>
    rw [Action.run_forM_cons, ih]
    simp only [attachAll, Action.run_forM_cons, Context.attachStage, Context.run_ask]

theorem requests_forM_attachStage (handle : Nat) (stages : List (Stage n)) (c : Context δ) :
    requests ((stages.forM fun stage ↦
        (Context.attachStage handle stage.toShader : ContextAction δ κ Unit)).run c).record =
      stages.map fun stage ↦ .attachStage handle stage.handle := by
  induction stages generalizing c with
  | nil => rfl
  | cons stage stages ih =>
    rw [Action.run_forM_cons, requests_append, ih]
    simp [Context.attachStage]

theorem value_attachNew (p : Program n) (c : Context δ) :
    ((p.attachNew : ContextAction δ κ _).run c).value =
      { p with attached := p.stages.length } := rfl

theorem state_attachNew (p : Program n) (c : Context δ) :
    ((p.attachNew : ContextAction δ κ _).run c).state =
      { c with
        device := ((attachAll p.handle (p.stages.drop p.attached) :
          Action κ δ Unit).run c.device).state } := by
  simp only [attachNew, Action.run_bind, Action.run_pure]
  rw [state_forM_attachStage]

theorem requests_attachNew (p : Program n) (c : Context δ) :
    requests ((p.attachNew : ContextAction δ κ _).run c).record =
      (p.stages.drop p.attached).map fun stage ↦ .attachStage p.handle stage.handle := by
  simp only [attachNew, Action.run_bind, Action.run_pure, List.append_nil]
  exact requests_forM_attachStage _ _ _

omit [Device δ κ] in
/-- Reading the declarations only adds a note to the record. -/
theorem run_readUniforms (p : Program n) (c : Context δ) :
    ∃ level text, (p.readUniforms : ContextAction δ κ _).run c =
      ⟨match Uniform.parse p.source with
        | .ok uniforms => ({ p with uniforms, linkState := .linked }, .ok ())
        | .error e => (p.fail, .error (.declaration e)), c, [.note level text]⟩ := by
  unfold readUniforms
  cases Uniform.parse p.source with
  | ok uniforms => exact ⟨_, _, rfl⟩
  | error e => exact ⟨_, _, rfl⟩

theorem run_submit (p : Program n) (d : δ) :
    (p.submit : Action κ δ _).run d =
      let attached := (attachAll p.handle (p.stages.drop p.attached) : Action κ δ Unit).run d
      let linked := (Device.linkProgram p.handle : Action κ δ _).run attached.state
      ⟨linked.value, linked.state, attached.record ++ linked.record⟩ := rfl

/-- An attempt to link is a submission whose answer is settled. -/
theorem run_link (p : Program n) (c : Context δ) :
    ((p.link : ContextAction δ κ _).run c).value =
        p.settle ((p.submit : Action κ δ _).run c.device).value ∧
      ((p.link : ContextAction δ κ _).run c).state =
        { c with device := ((p.submit : Action κ δ _).run c.device).state } ∧
      requests ((p.link : ContextAction δ κ _).run c).record =
        p.linkRequests ((p.submit : Action κ δ _).run c.device).value.isOk := by
  simp only [link, linkRequests, Action.run_bind, value_attachNew, Context.linkProgram,
    Context.run_ask, requests_append, requests_attachNew, state_attachNew, run_submit]
  generalize (Device.linkProgram p.handle : Action κ δ _).run _ = linked
  obtain ⟨value, device, record⟩ := linked
  cases value with
  | error e => simp [settle, Except.isOk, Except.toBool]
  | ok done =>
    obtain ⟨level, text, hread⟩ := run_readUniforms (δ := δ) (κ := κ)
      { p with attached := p.stages.length } ⟨device, c.current, c.nextId⟩
    simp [hread, settle, Except.isOk, Except.toBool]

omit [Device δ κ] in
/-- The log is all that it changes. -/
theorem run_noteChange (previous : Option ProgramId) (id : ProgramId) (text : String → String)
    (c : Context δ) :
    ((noteChange previous id text : ContextAction δ κ Unit).run c).value = () ∧
      ((noteChange previous id text : ContextAction δ κ Unit).run c).state = c ∧
      requests ((noteChange previous id text : ContextAction δ κ Unit).run c).record = [] := by
  unfold noteChange
  split
  · split <;> simp
  · simp

/-- Whatever was current, nothing is current afterwards. -/
theorem run_unbind (p : Program n) (c : Context δ) :
    ((p.unbind : ContextAction δ κ _).run c).value = { p with bound := false } ∧
      ((p.unbind : ContextAction δ κ _).run c).state =
        { c with
          device := ((Device.useProgram none : Action κ δ _).run c.device).state
          current := none } ∧
      requests ((p.unbind : ContextAction δ κ _).run c).record = [.useProgram none] := by
  simp [unbind, Context.useProgram, run_noteChange]

/-- The program is current and marked as bound. -/
theorem run_makeCurrent (p : Program n) (c : Context δ) :
    ((p.makeCurrent : ContextAction δ κ _).run c).value = { p with bound := true } ∧
      ((p.makeCurrent : ContextAction δ κ _).run c).state =
        { c with
          device := ((Device.useProgram (some p.handle) : Action κ δ _).run c.device).state
          current := some p.id } ∧
      requests ((p.makeCurrent : ContextAction δ κ _).run c).record =
        [.useProgram (some p.handle)] := by
  simp [makeCurrent, Context.useProgram, run_noteChange]

/-- The four outcomes of binding a program. -/
inductive Binds (p : Program n) (c : Context δ) :
    Program n → Except ProgramError Unit → Context δ → List Request → Prop
  | again (linked : p.linkState = .linked) :
      Binds p c { p with bound := true } (.ok ())
        { c with
          device := ((Device.useProgram (some p.handle) : Action κ δ _).run c.device).state
          current := some p.id }
        [.useProgram (some p.handle)]
  | linked {uniforms} (unlinked : p.linkState ≠ .linked)
      (accepted : ((p.submit : Action κ δ _).run c.device).value = .ok ())
      (parsed : Uniform.parse p.source = .ok uniforms) :
      Binds p c { p.withTable uniforms with bound := true } (.ok ())
        { c with
          device := ((Device.useProgram (some p.handle) : Action κ δ _).run
            ((p.submit : Action κ δ _).run c.device).state).state
          current := some p.id }
        (p.linkRequests true ++ [.useProgram (some p.handle)])
  | dropped {e} (unlinked : p.linkState ≠ .linked)
      (settled : p.settle ((p.submit : Action κ δ _).run c.device).value =
        (p.withoutTable, .error e))
      (current : c.current = some p.id) :
      Binds p c { p.withoutTable with bound := false } (.error e)
        { c with
          device := ((Device.useProgram none : Action κ δ _).run
            ((p.submit : Action κ δ _).run c.device).state).state
          current := none }
        (p.linkRequests ((p.submit : Action κ δ _).run c.device).value.isOk ++ [.useProgram none])
  | refused {e} (unlinked : p.linkState ≠ .linked)
      (settled : p.settle ((p.submit : Action κ δ _).run c.device).value =
        (p.withoutTable, .error e))
      (other : c.current ≠ some p.id) :
      Binds p c { p.withoutTable with bound := false } (.error e)
        { c with device := ((p.submit : Action κ δ _).run c.device).state }
        (p.linkRequests ((p.submit : Action κ δ _).run c.device).value.isOk)

/-- What binding does is told by its cases. -/
theorem binds_bind (p : Program n) (c : Context δ) :
    Binds (κ := κ) p c ((p.bind : ContextAction δ κ _).run c).value.1
      ((p.bind : ContextAction δ κ _).run c).value.2 ((p.bind : ContextAction δ κ _).run c).state
      (requests ((p.bind : ContextAction δ κ _).run c).record) := by
  by_cases hlinked : p.linkState = .linked
  · have hneeded : (p.linkIfNeeded : ContextAction δ κ _) = pure (p, .ok ()) := if_pos hlinked
    simp only [bind, hneeded, Action.run_bind, Action.run_pure, run_makeCurrent, List.nil_append,
      List.append_nil]
    exact .again hlinked
  have hneeded : (p.linkIfNeeded : ContextAction δ κ _) = p.link := if_neg hlinked
  obtain ⟨hvalue, hstate, hrequests⟩ := run_link (κ := κ) p c
  rcases p.settle_cases ((p.submit : Action κ δ _).run c.device).value with
    ⟨uniforms, haccepted, hparsed, hsettle⟩ | ⟨e, -, hsettle⟩
  · rw [hsettle] at hvalue
    simp only [bind, hneeded, Action.run_bind, Action.run_pure, requests_append, hvalue, hstate,
      hrequests, run_makeCurrent, List.append_nil, haccepted]
    exact .linked hlinked haccepted hparsed
  rw [hsettle] at hvalue
  by_cases hcurrent : c.current = some p.id
  · simp only [bind, hneeded, Action.run_bind, Action.run_get, requests_append, hvalue, hstate,
      hrequests, isCurrent, hcurrent, withoutTable_id, decide_true, if_true, Action.run_pure,
      run_unbind, List.append_nil, List.nil_append]
    exact .dropped hlinked hsettle hcurrent
  · simp only [bind, hneeded, Action.run_bind, Action.run_get, hvalue, hstate, hrequests,
      isCurrent, withoutTable_id, hcurrent, decide_false, Bool.false_eq_true, if_false,
      Action.run_pure, List.append_nil]
    exact .refused hlinked hsettle hcurrent

end Shading.Program
