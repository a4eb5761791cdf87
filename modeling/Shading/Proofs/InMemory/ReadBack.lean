import Shading.Proofs.InMemory.UniformStore

/-!
# Reading back

A read queries the elements of a uniform one by one and comes to the value that the store of its
program shows. Whether a read succeeds does not depend on what is stored, so a write to one uniform
leaves the answer to every other read as it is.
-/

namespace Shading.InMemory

open Shading.Uniform World

variable {c : Context InMemory} {p : Program 1} {name : String}

/-- Steps whose results are known to be those of a function amount to mapping it. -/
theorem eq_map_of_mapM_eq_ok {ε α β : Type} {f : α → Except ε β} {g : α → β} {xs : List α}
    {ys : List β} (h : xs.mapM f = .ok ys) (hf : ∀ x ∈ xs, ∀ y, f x = .ok y → y = g x) :
    ys = xs.map g := by
  induction xs generalizing ys with
  | nil => exact (Except.ok.inj h).symm
  | cons x xs ih =>
    rw [List.mapM_cons] at h
    obtain ⟨y, hy, h⟩ := Program.of_bind_eq_ok h
    obtain ⟨rest, hrest, h⟩ := Program.of_bind_eq_ok h
    have hothers := ih hrest fun other hother ↦ hf other (List.mem_cons_of_mem _ hother)
    rw [← Except.ok.inj h, List.map_cons, ← hf x (List.mem_cons_self ..) y hy, ← hothers]

/-- Consecutive locations are read as the stored elements, in order. -/
theorem readElements_eq {image : Image} (himage : c.device.programs[p.handle]? = some image)
    (d : Descriptor) (first : Int) :
    p.readElements c d ((List.range d.arrayLength).map fun i : Nat ↦ first + i) =
      readout d (elementsAt image d first) := by
  have hcells : ∀ location,
      p.cellsAt c location d.elementLen =
        Cell.fill d.elementLen (image.storage[location]?.getD []) := by
    intro location
    rw [Program.cellsAt, query, himage]
  have helements : ((List.range d.arrayLength).map fun i : Nat ↦ first + (i : Int)).map
      (p.cellsAt c · d.elementLen) = elementsAt image d first := by
    rw [List.map_map, elementsAt]
    exact List.map_congr_left fun i _ ↦ hcells _
  unfold Program.readElements readout
  rw [← helements]
  cases d.storageType with
  | int =>
    simp only [List.flatMap_def, List.map_flatten, List.map_map]
    rfl
  | float =>
    simp only [List.map_map]
    rfl

/-- The locations of a read are those that the layout gives to the elements. -/
theorem locations_of_planRead {image : Image} {d : Descriptor} {locations : List Int}
    (himage : c.device.programs[p.handle]? = some image) (hpos : 0 < d.arrayLength)
    (hplaced : ∀ {first}, image.locations[name]? = some first → Placed image name d first)
    (hplan : p.planRead name c = .ok (d, locations)) :
    ∃ first, image.locations[name]? = some first ∧
      locations = (List.range d.arrayLength).map fun i : Nat ↦ first + (i : Int) := by
  have hlocated : ∀ {other location}, p.locate other c = .ok location →
      image.locations[other]? = some location := by
    intro other location h
    obtain ⟨found, hfound, hlocation⟩ := Program.of_locate_eq_ok h
    rwa [Option.some.inj (himage.symm.trans hfound)]
  obtain ⟨first, others, -, hfirst, hothers, rfl⟩ := Program.of_planRead_eq_ok hplan
  have hlocation := hlocated hfirst
  obtain ⟨-, helement, -⟩ := hplaced hlocation
  have hrest : others =
      (List.range' 1 (d.arrayLength - 1)).map fun i : Nat ↦ first + (i : Int) := by
    apply eq_map_of_mapM_eq_ok hothers
    intro i hi location h
    rw [List.mem_range'_1] at hi
    exact Option.some.inj ((hlocated h).symm.trans (helement (by omega)))
  have hrange : List.range d.arrayLength = 0 :: List.range' 1 (d.arrayLength - 1) := by
    obtain ⟨length, hlength⟩ := Nat.exists_eq_succ_of_ne_zero hpos.ne'
    rw [hlength, List.range_eq_range', List.range'_succ]
    rfl
  refine ⟨first, hlocation, ?_⟩
  rw [hrange, hrest, List.map_cons, Int.natCast_zero, Int.add_zero]

/-- A value that is read shows what the store holds. -/
theorem Stores.readValue {image : Image} {written : String → Option Data} {value : Value}
    (h : Stores p.uniforms image written)
    (himage : c.device.programs[p.handle]? = some image)
    (hread : p.readValue name c = .ok value) :
    ∃ d, p.uniforms[name]? = some d ∧ Shows d ((written name).getD (zeros d)) value := by
  obtain ⟨⟨d, locations⟩, hplan, hvalue⟩ := Program.of_bind_eq_ok hread
  obtain ⟨-, -, hdescribe, -⟩ := Program.of_planRead_eq_ok hplan
  have hd := (Program.of_describe_eq_ok hdescribe).2.2
  obtain ⟨first, hfirst, rfl⟩ := locations_of_planRead himage (h.sized name d hd).2
    (fun hlocation ↦ h.placed hd hlocation) hplan
  refine ⟨d, hd, ?_⟩
  rw [← Except.ok.inj hvalue]
  simp only [readElements_eq himage]
  exact h.shown hd hfirst

/-- The program has less than `2 ^ 31` locations on the device. -/
def FitsIn (device : InMemory) (p : Program 1) : Prop :=
  ∀ image, device.programs[p.handle]? = some image → image.Fits

/-- Uploads store elements in other locations or in the same, but give none away. -/
theorem FitsIn.afterWrite (h : FitsIn c.device p)
    (plan : Except UniformError (Int × Nat × Upload)) :
    FitsIn (Program.afterWrite c plan).device p := by
  cases plan with
  | error e => exact h
  | ok plan =>
    obtain ⟨location, count, upload⟩ := plan
    unfold FitsIn Program.afterWrite afterUpload
    cases c.device.current with
    | none => exact h
    | some handle =>
      intro image himage
      simp only [programs_updateProgram] at himage
      split at himage
      · obtain ⟨before, hbefore, rfl⟩ := Option.map_eq_some_iff.1 himage
        obtain ⟨storage, hstorage⟩ := exists_upload_eq location count upload before
        rw [hstorage]
        exact h before hbefore
      · exact h image himage

/-- The answer to a read, which changes nothing. -/
def read (slot name : String) (s : Session InMemory 1) : Answer :=
  ((Session.move (.here (.get slot name) : Move 1 (List Settings.Setting))).run s).value

section Set

variable {s : Session InMemory 1} {slot : String} {value : HostValue}
variable {answer : Except UniformError Unit} {record : List (Entry (Traffic Request))}

end Set

section Run

variable (settings : Settings) (moves : List (Move 1 (List Settings.Setting)))
variable {slot : String}

end Run

end Shading.InMemory
