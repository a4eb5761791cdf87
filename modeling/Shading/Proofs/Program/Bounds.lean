import Shading.Proofs.Program.Failing
import Shading.Proofs.Session.ShownTables
import Shading.Proofs.Uniform.Entries
import Shading.Proofs.Uniform.Values

/-!
# Accesses within bounds

Some steps of a write or a read go wrong on descriptors or locations of the wrong shape: no method
uploads a matrix of one component or integers for a matrix, a buffer cannot be cut into chunks of no
length, a chunk without a location is not read, and an index may be outside its element. Here each
of these steps comes to nothing where it would go wrong. For the programs of a session none of them
does: their tables were read from texts, whose descriptors have the right shape, and a read finds a
location for every element. What may fail is to make room for more locations than fit in memory.
-/

namespace Shading

open Shading.Uniform

section Chunks

variable {α : Type}

/-- Consecutive chunks of a positive length; the last may be shorter. -/
def chunksFrom (length : Nat) (buffer : List α) : List (List α) :=
  match buffer with
  | [] => []
  | first :: rest =>
    (first :: rest.take (length - 1)) :: chunksFrom length (rest.drop (length - 1))
termination_by buffer.length
decreasing_by
  rw [List.length_drop, List.length_cons]
  omega

/-- There are no chunks of no length. -/
def chunksWithin (length : Nat) (buffer : List α) : Option (List (List α)) :=
  if length = 0 then none else some (chunksFrom length buffer)

theorem chunksFrom_flatten {length : Nat} (hpos : 0 < length) {elements : List (List α)}
    (h : ∀ element ∈ elements, element.length = length) :
    chunksFrom length elements.flatten = elements := by
  induction elements with
  | nil => rw [List.flatten_nil, chunksFrom]
  | cons element rest ih =>
    have hlength := h element List.mem_cons_self
    have hothers := ih fun other hother ↦ h other (List.mem_cons_of_mem _ hother)
    cases element with
    | nil => exact absurd hlength hpos.ne
    | cons first others =>
      have hcount : others.length = length - 1 := by
        rw [← hlength, List.length_cons, Nat.add_sub_cancel]
      rw [List.flatten_cons, List.cons_append, chunksFrom, List.take_left' hcount,
        List.drop_left' hcount, hothers]

theorem chunksWithin_flatten {length : Nat} (hpos : 0 < length) {elements : List (List α)}
    (h : ∀ element ∈ elements, element.length = length) :
    chunksWithin length elements.flatten = some elements := by
  rw [chunksWithin, if_neg hpos.ne', chunksFrom_flatten hpos h]

/-- A buffer of zeros has a chunk for every element. -/
theorem chunksWithin_replicate (d : Descriptor) (zero : α) :
    chunksWithin d.elementLen (List.replicate d.componentCount zero) =
      some (List.replicate d.arrayLength (List.replicate d.elementLen zero)) := by
  have hbuffer : List.replicate d.componentCount zero =
      (List.replicate d.arrayLength (List.replicate d.elementLen zero)).flatten := by
    rw [List.flatten_replicate_replicate, Descriptor.componentCount, Nat.mul_comm]
  rw [hbuffer]
  refine chunksWithin_flatten d.elementLen_pos fun element helement ↦ ?_
  rw [List.eq_of_mem_replicate helement, List.length_replicate]

theorem zip_replicate_length {β : Type} (a : α) (others : List β) :
    (List.replicate others.length a).zip others = others.map (a, ·) := by
  induction others with
  | nil => rfl
  | cons b others ih => rw [List.length_cons, List.replicate_succ, List.zip_cons_cons, ih,
      List.map_cons]

end Chunks

/-- The rows of a matrix, by index. -/
def rowsWithin (side : Nat) (columns : List Binary32) : Option (List (List Binary32)) :=
  (List.range side).mapM fun row ↦
    (List.range side).mapM fun column ↦ columns[column * side + row]?

theorem mapM_eq_some {α β : Type} {f : α → Option β} {g : α → β} {xs : List α}
    (h : ∀ x ∈ xs, f x = some (g x)) : xs.mapM f = some (xs.map g) := by
  induction xs with
  | nil => rfl
  | cons x xs ih =>
    rw [List.mapM_cons, h x List.mem_cons_self,
      ih fun other hother ↦ h other (List.mem_cons_of_mem _ hother)]
    rfl

theorem rowsWithin_eq {side : Nat} {columns : List Binary32}
    (h : columns.length = side * side) :
    rowsWithin side columns = some (rowsOfColumns side columns) := by
  refine mapM_eq_some fun row hrow ↦ mapM_eq_some fun column hcolumn ↦ ?_
  have hinside : column * side + row < columns.length :=
    h ▸ entry_lt_square (List.mem_range.1 hrow) (List.mem_range.1 hcolumn)
  rw [List.getD_eq_getElem?_getD, List.getElem?_eq_getElem hinside, Option.getD_some]

def valueWithin (d : Descriptor) (components : List Binary32) : Option Value :=
  match d.kind with
  | .matrix => do
    let elements ← chunksWithin (d.width.toNat * d.width.toNat) components
    .matrices <$> elements.mapM (rowsWithin d.width.toNat)
  | .scalar | .vector => some (.ofFloats components)

theorem valueWithin_flatten {d : Descriptor} {elements : List (List Binary32)}
    (h : ∀ element ∈ elements, element.length = d.elementLen) :
    valueWithin d elements.flatten = some (.ofFloatElements d elements) := by
  obtain ⟨kind, baseType, width, arrayLength⟩ := d
  cases kind with
  | matrix =>
    have hchunks := chunksWithin_flatten (Nat.mul_pos width.toNat_pos width.toNat_pos) h
    have hrows := mapM_eq_some fun element helement ↦ rowsWithin_eq (h element helement)
    simp only [valueWithin, hchunks, Option.bind_eq_bind, Option.bind_some, hrows,
      Option.map_eq_map, Option.map_some, Value.ofFloatElements]
  | scalar | vector => rfl

/-- The method of a write, unless there is none for what it is given. -/
def methodWithin (d : Descriptor) (data : Data) : Option Upload :=
  match d.kind, d.width, data with
  | .matrix, .one, .floats _ => none
  | .matrix, side, .floats components => some (.matrices side true components)
  | .matrix, _, .ints _ => none
  | _, width, .ints components => some (.ints width components)
  | _, width, .floats components => some (.floats width components)

/-- There is a method for whatever a readable descriptor lets through. -/
theorem methodWithin_eq {d : Descriptor} {given wide : Data} (hd : d.IsReadable)
    (hwide : given.coerce d.storageType = some wide) :
    ∃ upload, methodWithin d wide = some upload ∧ Upload.ofData d wide = some upload := by
  obtain ⟨kind, baseType, width, arrayLength⟩ := d
  cases kind with
  | matrix =>
    have hside : width ≠ .one := (hd.matrix rfl).1
    cases wide with
    | ints components => cases given <;> cases hwide
    | floats components =>
      refine ⟨.matrices width true components, ?_, if_neg hside⟩
      cases width with
      | one => exact absurd rfl hside
      | two | three | four => rfl
  | scalar | vector =>
    cases wide with
    | ints components => exact ⟨.ints width components, rfl, rfl⟩
    | floats components => exact ⟨.floats width components, rfl, rfl⟩

/-! ## Accesses -/

section Filling

variable {δ κ α : Type}

theorem mapM_functor_map {m : Type → Type} [Monad m] [LawfulMonad m] {α β γ : Type} (g : β → γ)
    (f : α → m β) (xs : List α) : (xs.mapM fun x ↦ g <$> f x) = List.map g <$> xs.mapM f := by
  induction xs with
  | nil => simp
  | cons x xs ih => simp [ih]

/-- Fills the chunks of a buffer of zeros, each from a location of its own. -/
def fillWithin (zero : α) (query : Int → (size : Nat) → ContextAction δ κ (Vector α size))
    (d : Descriptor) (locations : List Int) : ContextAction δ κ (Option (List α)) :=
  match chunksWithin d.elementLen (List.replicate d.componentCount zero) with
  | none => return none
  | some chunks =>
    if chunks.length = locations.length then do
      let filled ← (chunks.zip locations).mapM fun (chunk, location) ↦
        Vector.toList <$> query location chunk.length
      return some filled.flatten
    else return none

theorem fillWithin_eq (zero : α)
    (query : Int → (size : Nat) → ContextAction δ κ (Vector α size)) {d : Descriptor}
    {locations : List Int} (h : locations.length = d.arrayLength) :
    fillWithin zero query d locations =
      (fun elements ↦ some (elements.map Vector.toList).flatten) <$>
        locations.mapM fun location ↦ query location d.elementLen := by
  have hquery : ∀ (location : Int) (size : Nat), size = d.elementLen →
      Vector.toList <$> query location size = Vector.toList <$> query location d.elementLen := by
    rintro location size rfl
    rfl
  have hchunks : (List.replicate d.arrayLength (List.replicate d.elementLen zero)).zip locations =
      locations.map (List.replicate d.elementLen zero, ·) := by
    rw [← h]
    exact zip_replicate_length _ locations
  have hfilled : (locations.mapM fun location ↦ Vector.toList <$>
        query location (List.replicate d.elementLen zero).length) =
      List.map Vector.toList <$> locations.mapM fun location ↦ query location d.elementLen := by
    rw [← mapM_functor_map]
    congr 1
    funext location
    exact hquery location _ List.length_replicate
  rw [fillWithin, chunksWithin_replicate]
  dsimp only
  rw [if_pos (by rw [List.length_replicate, h]), hchunks, List.mapM_map]
  simp only [Function.comp_def]
  rw [hfilled, bind_map_left, map_eq_pure_bind]

end Filling

section Congruence

variable {δ κ α β : Type}

theorem access_lift_map (f : α → β) (x : ContextAction δ κ α) :
    (ExceptT.lift (f <$> x) : AccessAction δ κ β) = f <$> ExceptT.lift x := by
  refine ExceptT.ext ?_
  rw [ExceptT.run_map]
  change Except.ok <$> f <$> x = Except.map f <$> Except.ok <$> x
  rw [← comp_map, ← comp_map]
  rfl

/-- Two accesses that go the same way wherever the first step leads are the same. -/
theorem access_bind_congr {c : Context δ} {x : AccessAction δ κ α} {f g : α → AccessAction δ κ β}
    (h : ∀ a, (x.run.run c).value = .ok a →
      (f a).run.run (x.run.run c).state = (g a).run.run (x.run.run c).state) :
    (x >>= f).run.run c = (x >>= g).run.run c := by
  rw [ExceptT.run_bind, ExceptT.run_bind, Action.run_bind, Action.run_bind]
  cases hx : (x.run.run c).value with
  | error e => rfl
  | ok a => rw [h a hx]

end Congruence

namespace Program

variable {δ κ : Type} [Device δ κ] {n : Nat} (p : Program n) (name : String)

def queryWithin (d : Descriptor) (locations : List Int) : ContextAction δ κ (Option Value) := do
  match d.storageType with
  | .int =>
    let components ← fillWithin 0 (Context.queryInts p.handle) d locations
    return components.map .ofInts
  | .float =>
    let components ← fillWithin .zero (Context.queryFloats p.handle) d locations
    return components.bind (valueWithin d)

/-- A read that comes to nothing where a step goes wrong. -/
def readWithin : AccessAction δ κ (Option Value) := do
  let d ← p.accessibleDescriptor name
  reserve d
  let first ← p.location name
  let others ← p.elementLocations name 1 (d.arrayLength - 1)
  ExceptT.lift (Action.note .trace ("querying " ++ name ++ " as " ++ d.display))
  ExceptT.lift (p.queryWithin d (first :: others))

/-- A write that comes to nothing where no method is the right one. -/
def writeWithin (value : HostValue) : AccessAction δ κ (Option Unit) := do
  let d ← p.accessibleDescriptor name
  let data ← prepare name d value.toData
  let location ← p.location name
  ExceptT.lift (Action.note .trace ("uploading " ++ name ++ " as " ++ d.display ++ " (" ++
    toString data.length ++ " component(s))"))
  match methodWithin d data with
  | some upload => some <$> ExceptT.lift (Context.upload location d.arrayLength upload)
  | none => return none

section Agreement

variable {p name} {c : Context δ}

theorem queryWithin_eq {d : Descriptor} {locations : List Int}
    (h : locations.length = d.arrayLength) :
    (p.queryWithin d locations : ContextAction δ κ _) = some <$> p.queryElements d locations := by
  unfold queryWithin queryElements
  cases d.storageType with
  | int =>
    simp only [fillWithin_eq 0 (Context.queryInts p.handle) h, bind_map_left, map_bind, map_pure,
      Option.map_some]
  | float =>
    have hvalue : ∀ elements : List (Vector Binary32 d.elementLen),
        valueWithin d (elements.map Vector.toList).flatten =
          some (.ofFloatElements d (elements.map Vector.toList)) := by
      intro elements
      refine valueWithin_flatten fun element helement ↦ ?_
      obtain ⟨vector, -, rfl⟩ := List.mem_map.1 helement
      exact vector.length_toList
    simp only [fillWithin_eq .zero (Context.queryFloats p.handle) h, bind_map_left, map_bind,
      map_pure, Option.bind_some, hvalue]

theorem length_of_elementLocations_eq_ok {first count : Nat} {locations : List Int}
    (h : ((p.elementLocations name first count : AccessAction δ κ _).run.run c).value =
      .ok locations) : locations.length = count := by
  induction count generalizing first locations c with
  | zero =>
    obtain rfl : [] = locations := Except.ok.inj h
    rfl
  | succ count ih =>
    rw [elementLocations] at h
    obtain ⟨location, -, h, -⟩ := of_access_bind_eq_ok h
    obtain ⟨others, hothers, h, -⟩ := of_access_bind_eq_ok h
    obtain rfl : location :: others = locations := Except.ok.inj h
    rw [List.length_cons, ih hothers]

theorem readWithin_eq (hpos : ∀ d, p.uniforms[name]? = some d → 0 < d.arrayLength) :
    (p.readWithin name : AccessAction δ κ _) = some <$> p.getUniform name := by
  refine ExceptT.ext (Action.ext fun c ↦ ?_)
  unfold readWithin getUniform
  simp only [map_bind]
  refine access_bind_congr fun d hd ↦ access_bind_congr fun _ _ ↦ access_bind_congr fun first _ ↦
    access_bind_congr fun others hothers ↦ access_bind_congr fun _ _ ↦ ?_
  have hlength : (first :: others).length = d.arrayLength := by
    have := hpos d (of_accessibleDescriptor_eq_ok hd).1
    rw [List.length_cons, length_of_elementLocations_eq_ok hothers]
    omega
  rw [queryWithin_eq hlength, access_lift_map]

theorem writeWithin_eq (hreadable : ∀ d, p.uniforms[name]? = some d → d.IsReadable)
    (value : HostValue) :
    (p.writeWithin name value : AccessAction δ κ _) = some <$> p.setUniform name value := by
  refine ExceptT.ext (Action.ext fun c ↦ ?_)
  unfold writeWithin setUniform
  simp only [map_bind]
  refine access_bind_congr fun d hd ↦ access_bind_congr fun wide hwide ↦
    access_bind_congr fun location _ ↦ access_bind_congr fun _ _ ↦ ?_
  obtain ⟨upload, hmethod, hupload⟩ := methodWithin_eq
    (hreadable d (of_accessibleDescriptor_eq_ok hd).1) (of_prepare_eq_ok hwide).2
  rw [hmethod, hupload]

end Agreement

end Program

open World

variable {δ κ ε : Type} [Device δ κ] [Environment δ κ ε]

/-- Whatever the device answers, and whatever happened before, no step of a write or a read of a
program goes wrong: each goes as if none of them were watched. Only a read of an array that is too
long for a list of its locations is a panic. -/
theorem accesses_within_bounds (device : δ) (moves : List (Move 1 ε)) {slot : String}
    {p : Program 1} (live : (Session.after moves (.new #v[device])).programs[slot]? = some p)
    (name : String) :
    (∀ value : HostValue, (p.writeWithin name value : AccessAction δ κ _) =
        some <$> p.setUniform name value) ∧
      (∀ (value : HostValue) (c : Context δ) (other : String),
        ((p.setUniform name value : AccessAction δ κ _).run.run c).value ≠
          .error (.oneWideMatrix other)) ∧
      (p.readWithin name : AccessAction δ κ _) = some <$> p.getUniform name ∧
      ∀ (c : Context δ) (e : UniformError), e.isPanic = true →
        ((p.getUniform name : AccessAction δ κ _).run.run c).value = .error e →
          ∃ d, p.uniforms[name]? = some d ∧ Program.locationLimit ≤ d.arrayLength := by
  obtain ⟨source, hparse⟩ := exists_parse_eq_ok #v[device] moves live
  have hreadable : ∀ d, p.uniforms[name]? = some d → d.IsReadable :=
    fun d hd ↦ (isName_and_isReadable_of_parse hparse hd).2
  refine ⟨Program.writeWithin_eq hreadable, ?_,
    Program.readWithin_eq fun d hd ↦ (hreadable d hd).length_pos, ?_⟩
  · intro value c other hanswer
    cases Program.writeFault_of_eq_error hanswer with
    | descriptor h =>
      rcases Program.of_accessibleDescriptor_eq_error h with ⟨-, he⟩ | ⟨-, he | he⟩ <;> cases he
    | components _ h =>
      rcases Program.of_prepare_eq_error h with ⟨-, he⟩ | ⟨-, -, he⟩ <;> cases he
    | method table prepared h =>
      obtain ⟨upload, -, hupload⟩ :=
        methodWithin_eq (hreadable _ table) (Program.of_prepare_eq_ok prepared).2
      rw [hupload] at h
      cases h
  · intro c e he hanswer
    cases Program.readFault_of_eq_error hanswer with
    | descriptor h =>
      rcases Program.of_accessibleDescriptor_eq_error h with ⟨-, rfl⟩ | ⟨-, rfl | rfl⟩ <;> cases he
    | room table h => exact ⟨_, table, h⟩
    | first | element => cases he

theorem accesses_within_bounds_turningRun :
    ∃ p : Program 1,
      let s := Session.after turningRun (.new #v[InMemory.new .blank])
      s.programs["program"]? = some p ∧
        ((p.writeWithin "turns" turns : AccessAction InMemory Request _).run.run
          (context 0 s.world)).value = .ok (some ()) ∧
        ((p.readWithin "turns" : AccessAction InMemory Request _).run.run
          (context 0 s.world)).value =
            .ok (some (.matrices (List.replicate 2 (List.replicate 2 [.zero, .zero])))) := by
  have hshown : (Session.after turningRun (.new #v[InMemory.new .blank])).programs["program"]?.map
      (fun p ↦
        let c := context 0 (Session.after turningRun (.new #v[InMemory.new .blank])).world
        (((p.setUniform "turns" turns : AccessAction InMemory Request _).run.run c).value,
          ((p.getUniform "turns" : AccessAction InMemory Request _).run.run c).value)) =
      some (.ok (), .ok (.matrices (List.replicate 2 (List.replicate 2 [.zero, .zero])))) := by
    decide +kernel
  obtain ⟨p, live, hp⟩ := Option.map_eq_some_iff.1 hshown
  obtain ⟨hwritten, hread⟩ := Prod.mk.inj hp
  have hwithin := accesses_within_bounds (InMemory.new .blank) turningRun live "turns"
  refine ⟨p, live, ?_, ?_⟩
  · rw [hwithin.1, ExceptT.run_map, Action.run_map, hwritten]
    rfl
  · rw [hwithin.2.2.1, ExceptT.run_map, Action.run_map, hread]
    rfl

end Shading
