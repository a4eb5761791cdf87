import Shading.Proofs.Program.Bounds

/-!
# What a read asks for

A read that succeeds is a conversation with the device. It asks for the active uniforms, then for
the location of every element, from the first to the last, and then for the components at each of
these locations, in the same order. What the device answers last is all that the value is made of,
so no element is lost or moved, however many there are and whatever the device does.
-/

namespace Shading

open Shading.Uniform World

/-- A question about a program, with the answer that was given. -/
inductive Exchange
  | active (names : List String)
  | located (name : String) (location : Int)
  | queried (location : Int) (buffer : Data)
  deriving DecidableEq

/-- The method of a query and the length of its buffer show in the request. -/
def Exchange.request (program : Nat) : Exchange → Request
  | active _ => .activeUniforms program
  | located name location => .uniformLocation program name (some location)
  | queried location (.ints components) => .queryInts program location components.length
  | queried location (.floats components) => .queryFloats program location components.length

section Conversations

variable {δ κ α β : Type} [Device δ κ] {program : Nat} {c : Context δ}
  {first second : List Exchange}

/-- The device answers in this way, and what it is from then on. -/
inductive Exchange.Gives (program : Nat) (device : δ) : Exchange → δ → Prop
  | active :
      Gives program device
        (.active ((Device.activeUniforms program : Action κ δ _).run device).value)
        ((Device.activeUniforms program : Action κ δ _).run device).state
  | located {name : String} {location : Int}
      (found : ((Device.uniformLocation program name : Action κ δ _).run device).value =
        some location) :
      Gives program device (.located name location)
        ((Device.uniformLocation program name : Action κ δ _).run device).state
  | ints (location : Int) (size : Nat) :
      Gives program device
        (.queried location
          (.ints ((Device.queryInts program location size : Action κ δ _).run device).value.toList))
        ((Device.queryInts program location size : Action κ δ _).run device).state
  | floats (location : Int) (size : Nat) :
      Gives program device
        (.queried location (.floats
          ((Device.queryFloats program location size : Action κ δ _).run device).value.toList))
        ((Device.queryFloats program location size : Action κ δ _).run device).state

/-- Every answer is given by the device that the answer before has left. -/
inductive Converses (program : Nat) : δ → List Exchange → δ → Prop
  | nil (device : δ) : Converses program device [] device
  | cons {device device' device'' : δ} {exchange : Exchange} {others : List Exchange}
      (h : exchange.Gives program device device')
      (rest : Converses program device' others device'') :
      Converses program device (exchange :: others) device''

/-- Two conversations in sequence are one. -/
theorem Converses.append {device device' device'' : δ}
    (hfirst : Converses program device first device')
    (hsecond : Converses program device' second device'') :
    Converses program device (first ++ second) device'' := by
  induction hfirst with
  | nil device => exact hsecond
  | cons h rest ih => exact .cons h (ih hsecond)

/-- The action asks these questions and no others, and is given these answers. -/
structure Conducts (program : Nat) (x : ContextAction δ κ α) (c : Context δ)
    (exchanges : List Exchange) : Prop where
  answers : Converses program c.device exchanges (x.run c).state.device
  asks : requests (x.run c).record = exchanges.map (Exchange.request program)

namespace Conducts

theorem pure (a : α) : Conducts program (Pure.pure a : ContextAction δ κ α) c [] :=
  ⟨.nil _, rfl⟩

theorem note (level : Level) (text : String) :
    Conducts program (Action.note level text : ContextAction δ κ Unit) c [] :=
  ⟨.nil _, rfl⟩

/-- One question, one answer. -/
theorem ask {x : Action κ δ α} {request : α → Request} {exchange : Exchange}
    (h : exchange.Gives program c.device (x.run c.device).state)
    (hrequest : request (x.run c.device).value = exchange.request program) :
    Conducts program (Context.ask x request) c [exchange] := by
  constructor
  · rw [Context.run_ask]
    exact .cons h (.nil _)
  · rw [Context.run_ask]
    simp [hrequest]

theorem map {x : ContextAction δ κ α} (h : Conducts program x c first) (f : α → β) :
    Conducts program (f <$> x) c first := by
  constructor
  · rw [Action.run_map]
    exact h.answers
  · rw [Action.run_map]
    exact h.asks

/-- The second part goes on from where the first has left the device. -/
theorem bind {x : ContextAction δ κ α} {f : α → ContextAction δ κ β}
    (hx : Conducts program x c first)
    (hf : Conducts program (f (x.run c).value) (x.run c).state second) :
    Conducts program (x >>= f) c (first ++ second) := by
  constructor
  · rw [Action.run_bind]
    exact hx.answers.append hf.answers
  · rw [Action.run_bind, requests_append, hx.asks, hf.asks, List.map_append]

/-- The second step of an access goes on from where the first has succeeded. -/
theorem access_bind {x : AccessAction δ κ α} {f : α → AccessAction δ κ β} {a : α}
    (ha : (x.run.run c).value = .ok a) (hx : Conducts program x.run c first)
    (hf : Conducts program (f a).run (x.run.run c).state second) :
    Conducts program (x >>= f).run c (first ++ second) := by
  rw [ExceptT.run_bind]
  refine hx.bind ?_
  rw [ha]
  exact hf

theorem queryInts (program : Nat) (location : Int) (size : Nat) :
    Conducts program (Context.queryInts program location size : ContextAction δ κ _) c
      [.queried location (.ints ((Context.queryInts program location size :
        ContextAction δ κ _).run c).value.toList)] :=
  .ask (.ints location size) (by rw [Exchange.request, Vector.length_toList])

theorem queryFloats (program : Nat) (location : Int) (size : Nat) :
    Conducts program (Context.queryFloats program location size : ContextAction δ κ _) c
      [.queried location (.floats ((Context.queryFloats program location size :
        ContextAction δ κ _).run c).value.toList)] :=
  .ask (.floats location size) (by rw [Exchange.request, Vector.length_toList])

/-- One query for each location, in order, and each fills a buffer. -/
theorem elements {size : Nat} {query : Int → ContextAction δ κ (Vector α size)}
    {data : List α → Data}
    (h : ∀ location c, Conducts program (query location) c
      [.queried location (data ((query location).run c).value.toList)])
    (locations : List Int) (c : Context δ) :
    let buffers := ((locations.mapM query).run c).value.map Vector.toList
    buffers.length = locations.length ∧ (∀ buffer ∈ buffers, buffer.length = size) ∧
      Conducts program (locations.mapM query) c
        (locations.zipWith .queried (buffers.map data)) := by
  induction locations generalizing c with
  | nil => exact ⟨rfl, by simp, .pure []⟩
  | cons location rest ih =>
    obtain ⟨hcount, hsize, hrest⟩ := ih ((query location).run c).state
    simp only [List.mapM_cons, ← map_eq_pure_bind, Action.run_bind, Action.run_map, List.map_cons,
      List.length_cons, List.zipWith_cons_cons, hcount, List.forall_mem_cons]
    exact ⟨trivial, ⟨Vector.length_toList, hsize⟩, (h location c).bind (hrest.map _)⟩

end Conducts

end Conversations

/-! ## The value -/

/-- The columns of the matrix stand in the buffer one after another. -/
structure IsMatrixOf (side : Nat) (buffer : List Binary32) (rows : List (List Binary32)) :
    Prop where
  height : rows.length = side
  width : ∀ row ∈ rows, row.length = side
  entries : ∀ r < side, ∀ c < side, ∃ row entry,
    rows[r]? = some row ∧ row[c]? = some entry ∧ buffer[c * side + r]? = some entry

/-- The value that the buffers of the elements come to. -/
inductive Assembles (d : Descriptor) : List Data → Value → Prop
  | int {component : Int32} (flat : d.kind ≠ .matrix) (single : d.componentCount = 1) :
      Assembles d [.ints [component]] (.int component)
  | float {component : Binary32} (flat : d.kind ≠ .matrix) (single : d.componentCount = 1) :
      Assembles d [.floats [component]] (.float component)
  | ints {elements : List (List Int32)} (flat : d.kind ≠ .matrix) (several : d.componentCount ≠ 1) :
      Assembles d (elements.map .ints) (.ints elements.flatten)
  | floats {elements : List (List Binary32)} (flat : d.kind ≠ .matrix)
      (several : d.componentCount ≠ 1) :
      Assembles d (elements.map .floats) (.floats elements.flatten)
  | matrices {elements : List (List Binary32)} {matrices : List (List (List Binary32))}
      (square : d.kind = .matrix)
      (same : List.Forall₂ (IsMatrixOf d.width.toNat) elements matrices) :
      Assembles d (elements.map .floats) (.matrices matrices)

/-- The rows are those of the matrix whose columns were read. -/
theorem isMatrixOf_rowsOfColumns {side : Nat} {buffer : List Binary32}
    (h : buffer.length = side * side) : IsMatrixOf side buffer (rowsOfColumns side buffer) := by
  obtain ⟨hheight, hwidth⟩ := length_rowsOfColumns side buffer
  refine ⟨hheight, hwidth, fun r hr c hc ↦ ?_⟩
  have hinside : c * side + r < buffer.length := h ▸ entry_lt_square hr hc
  have hrow : (rowsOfColumns side buffer)[r]? =
      some ((List.range side).map fun column ↦ buffer.getD (column * side + r) .zero) := by
    simp [rowsOfColumns, hr]
  refine ⟨_, buffer[c * side + r], hrow, ?_, List.getElem?_eq_getElem hinside⟩
  simp [hc, hinside]

section Elements

variable {α : Type} {d : Descriptor} {elements : List (List α)}

/-- Every component is read, and none twice. -/
theorem length_flatten_elements (hcount : elements.length = d.arrayLength)
    (hlength : ∀ element ∈ elements, element.length = d.elementLen) :
    elements.flatten.length = d.componentCount := by
  rw [length_flatten_of_forall hlength, hcount, Nat.mul_comm, Descriptor.componentCount]

/-- The only component of a uniform is the only one of its only element. -/
theorem exists_eq_singleton (hcount : elements.length = d.arrayLength)
    (hlength : ∀ element ∈ elements, element.length = d.elementLen) (hone : d.componentCount = 1) :
    ∃ component, elements = [[component]] := by
  have helement : d.elementLen = 1 := Nat.eq_one_of_mul_eq_one_right hone
  have harray : d.arrayLength = 1 := Nat.eq_one_of_mul_eq_one_left hone
  obtain ⟨element, rfl⟩ := List.length_eq_one_iff.1 (hcount.trans harray)
  have hsingle := (hlength element List.mem_cons_self).trans helement
  obtain ⟨component, rfl⟩ := List.length_eq_one_iff.1 hsingle
  exact ⟨component, rfl⟩

end Elements

theorem Uniform.Value.ofInts_of_ne_one {components : List Int32} (h : components.length ≠ 1) :
    Value.ofInts components = .ints components := by
  match components with
  | [] => rfl
  | [_] => exact absurd rfl h
  | _ :: _ :: _ => rfl

theorem Uniform.Value.ofFloats_of_ne_one {components : List Binary32} (h : components.length ≠ 1) :
    Value.ofFloats components = .floats components := by
  match components with
  | [] => rfl
  | [_] => exact absurd rfl h
  | _ :: _ :: _ => rfl

namespace Assembles

variable {d : Descriptor}

/-- Integer components are shown in the order in which they were read. -/
theorem ofInts {elements : List (List Int32)} (hstorage : d.storageType = .int)
    (hcount : elements.length = d.arrayLength)
    (hlength : ∀ element ∈ elements, element.length = d.elementLen) :
    Assembles d (elements.map .ints) (.ofInts elements.flatten) := by
  have hflat : d.kind ≠ .matrix := by
    intro hkind
    rw [Descriptor.storageType, hkind] at hstorage
    cases hstorage
  by_cases hone : d.componentCount = 1
  · obtain ⟨component, rfl⟩ := exists_eq_singleton hcount hlength hone
    exact .int hflat hone
  · rw [Value.ofInts_of_ne_one (by rwa [length_flatten_elements hcount hlength])]
    exact .ints hflat hone

/-- Elements of floating point numbers become components or matrices. -/
theorem ofFloatElements {elements : List (List Binary32)}
    (hcount : elements.length = d.arrayLength)
    (hlength : ∀ element ∈ elements, element.length = d.elementLen) :
    Assembles d (elements.map .floats) (.ofFloatElements d elements) := by
  by_cases hsquare : d.kind = .matrix
  · have hvalue : Value.ofFloatElements d elements =
        .matrices (elements.map (rowsOfColumns d.width.toNat)) := by
      rw [Value.ofFloatElements, hsquare]
    rw [hvalue]
    refine .matrices hsquare ?_
    rw [List.forall₂_map_right_iff, List.forall₂_same]
    intro element helement
    apply isMatrixOf_rowsOfColumns
    rw [hlength element helement, Descriptor.elementLen, hsquare]
  · have hvalue : Value.ofFloatElements d elements = .ofFloats elements.flatten := by
      cases hkind : d.kind with
      | matrix => exact absurd hkind hsquare
      | scalar | vector => rw [Value.ofFloatElements, hkind]
    rw [hvalue]
    by_cases hone : d.componentCount = 1
    · obtain ⟨component, rfl⟩ := exists_eq_singleton hcount hlength hone
      exact .float hsquare hone
    · rw [Value.ofFloats_of_ne_one (by rwa [length_flatten_elements hcount hlength])]
      exact .floats hsquare hone

/-- A component stands alone if it is the only one and belongs to no matrix. -/
theorem single_iff {buffers : List Data} {value : Value} (h : Assembles d buffers value) :
    ((∃ component, value = .int component) ∨ ∃ component, value = .float component) ↔
      d.kind ≠ .matrix ∧ d.componentCount = 1 := by
  cases h with
  | int flat single => exact ⟨fun _ ↦ ⟨flat, single⟩, fun _ ↦ .inl ⟨_, rfl⟩⟩
  | float flat single => exact ⟨fun _ ↦ ⟨flat, single⟩, fun _ ↦ .inr ⟨_, rfl⟩⟩
  | ints flat several => simp [several]
  | floats flat several => simp [several]
  | matrices square same => simp [square]

end Assembles

/-! ## Reads -/

namespace Program

variable {δ κ : Type} [Device δ κ] {n : Nat} {p : Program n} {name : String} {c : Context δ}

/-- The first element of an array goes by the name of the array. -/
def elementNames (name : String) (count : Nat) : List String :=
  name :: (List.range' 1 (count - 1)).map (elementName name)

/-- An access that knows its descriptor has asked for the active uniforms. -/
theorem conducts_accessibleDescriptor {d : Descriptor}
    (h : ((p.accessibleDescriptor name : AccessAction δ κ _).run.run c).value = .ok d) :
    ∃ active, name ∈ active ∧
      Conducts p.handle (p.accessibleDescriptor name : AccessAction δ κ _).run c
        [.active active] := by
  unfold accessibleDescriptor at h ⊢
  obtain ⟨_, hget, h, -⟩ := of_access_bind_eq_ok h
  obtain rfl := Except.ok.inj hget
  split at h
  · rename_i haccess
    obtain ⟨active, hactive, h, -⟩ := of_access_bind_eq_ok h
    split at h
    · rename_i hname
      refine ⟨active, hname, ?_⟩
      change Conducts _ _ _ ([] ++ ([Exchange.active active] ++ []))
      refine .access_bind hget ⟨.nil _, rfl⟩ ?_
      rw [if_pos haccess]
      refine .access_bind hactive ?_ ?_
      · obtain rfl := Except.ok.inj hactive
        exact (Conducts.ask .active rfl).map _
      · rw [if_pos hname]
        split <;> exact .pure _
    · cases h
  · cases h

theorem conducts_location {location : Int}
    (h : ((p.location name : AccessAction δ κ _).run.run c).value = .ok location) :
    Conducts p.handle (p.location name : AccessAction δ κ _).run c [.located name location] := by
  unfold Program.location at h ⊢
  obtain ⟨answer, hanswer, h, -⟩ := of_access_bind_eq_ok h
  cases answer with
  | none => cases h
  | some found =>
    obtain rfl : found = location := Except.ok.inj h
    have hfound := Except.ok.inj hanswer
    change Conducts _ _ _ ([Exchange.located name found] ++ [])
    refine .access_bind hanswer (.map (.ask (.located hfound) ?_) _) (.pure _)
    exact congrArg (Request.uniformLocation p.handle name) hfound

/-- Locations are asked for in order, each of them once. -/
theorem conducts_elementLocations {start count : Nat} {locations : List Int}
    (h : ((p.elementLocations name start count : AccessAction δ κ _).run.run c).value =
      .ok locations) :
    Conducts p.handle (p.elementLocations name start count : AccessAction δ κ _).run c
      (((List.range' start count).map (elementName name)).zipWith .located locations) := by
  induction count generalizing start locations c with
  | zero =>
    obtain rfl : [] = locations := Except.ok.inj h
    exact .pure _
  | succ count ih =>
    rw [elementLocations] at h ⊢
    obtain ⟨location, hlocation, h, -⟩ := of_access_bind_eq_ok h
    obtain ⟨others, hothers, h, -⟩ := of_access_bind_eq_ok h
    obtain rfl : location :: others = locations := Except.ok.inj h
    rw [List.range'_succ, List.map_cons, List.zipWith_cons_cons, ← List.singleton_append]
    refine .access_bind hlocation (conducts_location hlocation) ?_
    rw [← List.append_nil (List.zipWith _ _ _)]
    exact .access_bind hothers (ih hothers) (.pure _)

/-- Every element is read into a buffer of its own, and the value is made of all of them. -/
theorem conducts_queryElements (p : Program n) {d : Descriptor} {locations : List Int}
    (hcount : locations.length = d.arrayLength) (c : Context δ) :
    ∃ buffers : List Data, buffers.length = d.arrayLength ∧
      (∀ buffer ∈ buffers, buffer.length = d.elementLen ∧
        ((∃ components, buffer = .ints components) ↔ d.storageType = .int)) ∧
      Conducts p.handle (p.queryElements d locations : ContextAction δ κ _) c
        (locations.zipWith .queried buffers) ∧
      Assembles d buffers ((p.queryElements d locations : ContextAction δ κ _).run c).value := by
  cases hstorage : d.storageType with
  | int =>
    simp only [queryElements, hstorage, ← map_eq_pure_bind]
    obtain ⟨hlength, hsize, hconducts⟩ := Conducts.elements
      (fun location c ↦ .queryInts p.handle location d.elementLen) locations c
    refine ⟨List.map .ints _, (List.length_map _).trans (hlength.trans hcount), ?_,
      hconducts.map _, .ofInts hstorage (hlength.trans hcount) hsize⟩
    intro buffer hbuffer
    obtain ⟨components, hcomponents, rfl⟩ := List.mem_map.1 hbuffer
    exact ⟨hsize components hcomponents, by simp⟩
  | float =>
    simp only [queryElements, hstorage, ← map_eq_pure_bind]
    obtain ⟨hlength, hsize, hconducts⟩ := Conducts.elements
      (fun location c ↦ .queryFloats p.handle location d.elementLen) locations c
    refine ⟨List.map .floats _, (List.length_map _).trans (hlength.trans hcount), ?_,
      hconducts.map _, .ofFloatElements (hlength.trans hcount) hsize⟩
    intro buffer hbuffer
    obtain ⟨components, hcomponents, rfl⟩ := List.mem_map.1 hbuffer
    exact ⟨hsize components hcomponents, by simp⟩

/-- What a read has asked for, element by element, and what it has made of the answers. -/
structure ReadsElements (p : Program n) (name : String) (c : Context δ) (value : Value)
    (d : Descriptor) (active : List String) (locations : List Int) (buffers : List Data) :
    Prop where
  declared : p.uniforms[name]? = some d
  listed : name ∈ active
  located : locations.length = d.arrayLength
  filled : buffers.length = d.arrayLength
  sized : ∀ buffer ∈ buffers, buffer.length = d.elementLen
  typed : ∀ buffer ∈ buffers, (∃ components, buffer = .ints components) ↔ d.storageType = .int
  conducted : Conducts p.handle (p.getUniform name : AccessAction δ κ _).run c
    (.active active :: ((elementNames name d.arrayLength).zipWith .located locations ++
      locations.zipWith .queried buffers))
  assembled : Assembles d buffers value

/-- A read that succeeds has asked all it should and nothing else. -/
theorem exists_readsElements {value : Value}
    (hpos : ∀ d, p.uniforms[name]? = some d → 0 < d.arrayLength)
    (h : ((p.getUniform name : AccessAction δ κ _).run.run c).value = .ok value) :
    ∃ d active locations buffers, p.ReadsElements name c value d active locations buffers := by
  unfold getUniform at h
  obtain ⟨d, hd, h, -⟩ := of_access_bind_eq_ok h
  obtain ⟨_, hroom, h, -⟩ := of_access_bind_eq_ok h
  obtain ⟨first, hfirst, h, -⟩ := of_access_bind_eq_ok h
  obtain ⟨others, hothers, h, -⟩ := of_access_bind_eq_ok h
  obtain ⟨_, hnote, h, -⟩ := of_access_bind_eq_ok h
  obtain rfl := Except.ok.inj h
  have hdeclared := (of_accessibleDescriptor_eq_ok hd).1
  obtain ⟨active, hlisted, hactive⟩ := conducts_accessibleDescriptor hd
  have hlocated : (first :: others).length = d.arrayLength := by
    have := hpos d hdeclared
    rw [List.length_cons, length_of_elementLocations_eq_ok hothers]
    omega
  obtain ⟨buffers, hfilled, hbuffers, hqueries, hassembled⟩ :=
    conducts_queryElements (δ := δ) (κ := κ) p hlocated _
  refine ⟨d, active, first :: others, buffers, hdeclared, hlisted, hlocated, hfilled,
    fun buffer hbuffer ↦ (hbuffers buffer hbuffer).1,
    fun buffer hbuffer ↦ (hbuffers buffer hbuffer).2, ?_, hassembled⟩
  have hsteps : Conducts p.handle (p.getUniform name : AccessAction δ κ _).run c
      ([.active active] ++ ([] ++ ([.located name first] ++
        (((List.range' 1 (d.arrayLength - 1)).map (elementName name)).zipWith .located others ++
          ([] ++ (first :: others).zipWith .queried buffers))))) :=
    .access_bind hd hactive <| .access_bind hroom (.pure _) <|
      .access_bind hfirst (conducts_location hfirst) <|
        .access_bind hothers (conducts_elementLocations hothers) <|
          .access_bind hnote ((Conducts.note _ _).map _) (hqueries.map _)
  exact hsteps

end Program

variable {δ κ ε : Type} [Device δ κ] [Environment δ κ ε]

/-- A program of a session that reads a uniform with success asks for its elements once each, from
the first to the last, whatever the device answers, and the value has the shape of the descriptor
and the answers for its components. To cut one buffer into chunks for the locations, as long as
there are any, comes to the same. -/
theorem reads_elements_in_order {n : Nat} (devices : Vector δ n) (moves : List (Move n ε))
    {slot : String} {p : Program n}
    (live : (Session.after moves (.new devices)).programs[slot]? = some p) {name : String}
    {c : Context δ} {value : Value}
    (h : ((p.getUniform name : AccessAction δ κ _).run.run c).value = .ok value) :
    (∃ d active locations buffers, p.ReadsElements name c value d active locations buffers ∧
      (((∃ component, value = .int component) ∨ ∃ component, value = .float component) ↔
        d.kind ≠ .matrix ∧ d.componentCount = 1)) ∧
    (p.readWithin name : AccessAction δ κ _) = some <$> p.getUniform name := by
  obtain ⟨source, hparse⟩ := exists_parse_eq_ok devices moves live
  have hpos : ∀ d, p.uniforms[name]? = some d → 0 < d.arrayLength :=
    fun d hd ↦ (isName_and_isReadable_of_parse hparse hd).2.length_pos
  obtain ⟨d, active, locations, buffers, hreads⟩ := Program.exists_readsElements hpos h
  exact ⟨⟨d, active, locations, buffers, hreads, hreads.assembled.single_iff⟩,
    Program.readWithin_eq hpos⟩

/-- The matrices of an array are written row by row, stored column by column, and come back. -/
theorem reads_elements_in_order_turningRun :
    ∃ p : Program 1,
      let s := Session.after turningRun (.new #v[InMemory.new .blank])
      let c := ((p.setUniform "turns" turns : AccessAction InMemory Request _).run.run
        (context 0 s.world)).state
      let entry := Binary32.ofInt32
      let value := Value.matrices
        [[[entry 1, entry 2], [entry 3, entry 4]], [[entry 5, entry 6], [entry 7, entry 8]]]
      s.programs["program"]? = some p ∧
        ((p.getUniform "turns" : AccessAction InMemory Request _).run.run c).value = .ok value ∧
        ∃ d active locations buffers,
          p.ReadsElements "turns" c value d active locations buffers := by
  have hshown : (Session.after turningRun (.new #v[InMemory.new .blank])).programs["program"]?.map
      (fun p ↦
        let c := ((p.setUniform "turns" turns : AccessAction InMemory Request _).run.run
          (context 0 (Session.after turningRun (.new #v[InMemory.new .blank])).world)).state
        ((p.getUniform "turns" : AccessAction InMemory Request _).run.run c).value) =
      some (.ok (.matrices
        [[[.ofInt32 1, .ofInt32 2], [.ofInt32 3, .ofInt32 4]],
          [[.ofInt32 5, .ofInt32 6], [.ofInt32 7, .ofInt32 8]]])) := by
    decide +kernel
  obtain ⟨p, live, hread⟩ := Option.map_eq_some_iff.1 hshown
  obtain ⟨⟨d, active, locations, buffers, hreads, -⟩, -⟩ :=
    reads_elements_in_order #v[InMemory.new .blank] turningRun live hread
  exact ⟨p, live, hread, d, active, locations, buffers, hreads⟩

end Shading
