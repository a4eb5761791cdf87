import Shading.Proofs.InMemory.Layout

/-!
# What an image stores

A fresh link leaves zeros in every uniform. An upload to the location of a uniform replaces its
elements by those that were uploaded; every other uniform keeps its own, for the two stand apart.
-/

namespace Shading

open Shading.Uniform

theorem Cell.length_ofData (data : Data) : (Cell.ofData data).length = data.length := by
  cases data <;> exact List.length_map ..

/-- Components that are sent by rows. -/
def Upload.isTransposed : Upload → Bool
  | matrices _ transpose _ => transpose
  | _ => false

namespace InMemory

/-- An element as a location of some shape receives it. -/
def oriented (transpose : Bool) (shape : Option (Kind × Width)) (element : List Cell) :
    List Cell :=
  match shape, transpose with
  | some (.matrix, side), true => Cell.transpose side.toNat element
  | _, _ => element

theorem store_eq (transpose : Bool) (image : Image) (element : List Cell) (location : Int) :
    Image.store transpose image (element, location) =
      { image with
        storage := image.storage.insert location
          (oriented transpose image.shapes[location]? element) } := rfl

/-- Stores elements at consecutive locations from the first on. -/
def storeAll (transpose : Bool) (elements : List (List Cell)) (first : Int) (image : Image) :
    Image :=
  (elements.zip ((List.range elements.length).map fun i : Nat ↦ first + i)).foldl
    (Image.store transpose) image

theorem storeAll_cons (transpose : Bool) (element : List Cell) (rest : List (List Cell))
    (first : Int) (image : Image) :
    storeAll transpose (element :: rest) first image =
      storeAll transpose rest (first + 1) (Image.store transpose image (element, first)) := by
  have hlocations : (List.range rest.length).map (fun i : Nat ↦ first + ((i + 1 : Nat) : Int)) =
      (List.range rest.length).map fun i : Nat ↦ first + 1 + (i : Int) := by
    apply List.map_congr_left
    intro i _
    omega
  calc storeAll transpose (element :: rest) first image
      = (rest.zip ((List.range rest.length).map fun i : Nat ↦ first + ((i + 1 : Nat) : Int))).foldl
          (Image.store transpose) (Image.store transpose image (element, first)) := by
        rw [storeAll, List.length_cons, List.range_succ_eq_map, List.map_cons, List.zip_cons_cons,
          List.foldl_cons, List.map_map, Int.natCast_zero, Int.add_zero]
        rfl
    _ = storeAll transpose rest (first + 1) (Image.store transpose image (element, first)) := by
        rw [hlocations, storeAll]

theorem storeAll_eq (transpose : Bool) (elements : List (List Cell)) (first : Int)
    (image : Image) :
    ∃ storage, storeAll transpose elements first image = { image with storage } := by
  induction elements generalizing first image with
  | nil => exact ⟨image.storage, rfl⟩
  | cons element rest ih =>
    rw [storeAll_cons, store_eq]
    exact ih _ _

/-- Elsewhere the storage stays as it was. -/
theorem storage_storeAll_of_outside (transpose : Bool) (elements : List (List Cell))
    {first location : Int} (image : Image)
    (h : location < first ∨ first + elements.length ≤ location) :
    (storeAll transpose elements first image).storage[location]? = image.storage[location]? := by
  induction elements generalizing first image with
  | nil => rfl
  | cons element rest ih =>
    rw [List.length_cons] at h
    have hne : first ≠ location := by omega
    rw [storeAll_cons, ih _ (by omega), store_eq, Std.ExtTreeMap.getElem?_insert,
      if_neg (mt Std.LawfulEqCmp.compare_eq_iff_eq.1 hne)]

/-- At each location the element is stored that was meant for it. -/
theorem storage_storeAll (transpose : Bool) {elements : List (List Cell)} (first : Int)
    (image : Image) {i : Nat} (hi : i < elements.length) :
    (storeAll transpose elements first image).storage[first + (i : Int)]? =
      some (oriented transpose image.shapes[first + (i : Int)]? elements[i]) := by
  induction elements generalizing first image i with
  | nil => exact absurd hi (Nat.not_lt_zero i)
  | cons element rest ih =>
    rw [storeAll_cons]
    cases i with
    | zero =>
      rw [storage_storeAll_of_outside _ _ _ (.inl (by omega)), store_eq]
      simp
    | succ i =>
      have hlocation : first + ((i + 1 : Nat) : Int) = first + 1 + (i : Int) := by omega
      rw [hlocation, ih (first + 1) _ (Nat.lt_of_succ_lt_succ hi), store_eq]
      rfl

/-- An upload stores the chunks of its components. -/
theorem upload_eq (location : Int) (count : Nat) (data : Upload) (image : Image) :
    image.upload location count data =
      storeAll data.isTransposed
        (Cell.chunks ((Cell.ofData data.data).length / count) (Cell.ofData data.data)) location
        image := by
  cases data <;> rfl

/-- An upload touches nothing but the storage. -/
theorem exists_upload_eq (location : Int) (count : Nat) (data : Upload) (image : Image) :
    ∃ storage, image.upload location count data = { image with storage } := by
  rw [upload_eq]
  exact storeAll_eq ..

/-- An upload carries what it was made of, and it asks for the transpose of matrices only. -/
theorem ofData_eq_some {d : Descriptor} {data wide : Data} {upload : Upload}
    (hwide : data.coerce d.storageType = some wide)
    (hupload : Upload.ofData d wide = some upload) :
    upload.data = wide ∧ ∀ cells, elementsOf d cells =
      (Cell.chunks d.elementLen cells).map
        (oriented upload.isTransposed (some (d.kind, d.width))) := by
  cases hkind : d.kind with
  | matrix =>
    rw [Descriptor.storageType, hkind] at hwide
    obtain ⟨components, rfl⟩ := eq_floats_of_coerce hwide
    simp only [Upload.ofData, hkind] at hupload
    split at hupload
    · cases hupload
    · rw [← Option.some.inj hupload]
      refine ⟨rfl, ?_⟩
      intro cells
      rw [elementsOf, hkind]
      rfl
  | scalar | vector =>
    have hsame : ∀ shape, oriented false shape = id := by
      intro shape
      funext element
      unfold oriented
      split <;> first | rfl | contradiction
    have hplain : upload.data = wide ∧ upload.isTransposed = false := by
      cases wide with
      | ints components | floats components =>
        simp only [Upload.ofData, hkind] at hupload
        rw [← Option.some.inj hupload]
        exact ⟨rfl, rfl⟩
    refine ⟨hplain.1, ?_⟩
    intro cells
    rw [hplain.2, hsame, List.map_id, elementsOf, hkind]

section Upload

variable {d : Descriptor} {data wide : Data} {upload : Upload}

/-- As many chunks as there are elements. -/
theorem length_chunks_ofData (hlength : data.length = d.componentCount)
    (hwide : data.coerce d.storageType = some wide) :
    (Cell.ofData wide).length = d.componentCount ∧
      (Cell.chunks d.elementLen (Cell.ofData wide)).length = d.arrayLength := by
  have hcells : (Cell.ofData wide).length = d.componentCount := by
    rw [Cell.length_ofData, Data.length_of_coerce hwide, hlength]
  exact ⟨hcells, (Cell.length_chunks d.elementLen_pos d.arrayLength hcells).1⟩

/-- An upload to a whole uniform stores one element after the other. -/
theorem upload_eq_storeAll (hpos : 0 < d.arrayLength) (hlength : data.length = d.componentCount)
    (hwide : data.coerce d.storageType = some wide)
    (hupload : Upload.ofData d wide = some upload) (first : Int) (image : Image) :
    image.upload first d.arrayLength upload =
      storeAll upload.isTransposed (Cell.chunks d.elementLen (Cell.ofData wide)) first image := by
  rw [upload_eq, (ofData_eq_some hwide hupload).1, (length_chunks_ofData hlength hwide).1,
    Descriptor.componentCount, Nat.mul_div_cancel _ hpos]

/-- An upload to a uniform replaces its elements by those that were uploaded. -/
theorem elementsAt_upload (hpos : 0 < d.arrayLength) (hlength : data.length = d.componentCount)
    (hwide : data.coerce d.storageType = some wide)
    (hupload : Upload.ofData d wide = some upload) {image : Image} {name : String} {first : Int}
    (hplaced : Placed image name d first) :
    elementsAt (image.upload first d.arrayLength upload) d first =
      elementsOf d (Cell.ofData wide) := by
  obtain ⟨-, helements⟩ := ofData_eq_some hwide hupload
  obtain ⟨hcells, hchunks⟩ := length_chunks_ofData hlength hwide
  obtain ⟨hcount, hlengths⟩ := length_elementsOf hcells
  rw [upload_eq_storeAll hpos hlength hwide hupload]
  apply List.ext_getElem
  · rw [elementsAt, List.length_map, List.length_range, hcount]
  · intro i hi _
    rw [elementsAt, List.length_map, List.length_range] at hi
    have hinside : i < (Cell.chunks d.elementLen (Cell.ofData wide)).length := by omega
    have hstored := storage_storeAll upload.isTransposed first image hinside
    have hmem : oriented upload.isTransposed (some (d.kind, d.width))
        (Cell.chunks d.elementLen (Cell.ofData wide))[i] ∈ elementsOf d (Cell.ofData wide) := by
      rw [helements]
      exact List.mem_map_of_mem (List.getElem_mem hinside)
    rw [hplaced.shape hi] at hstored
    simp only [elementsAt, List.getElem_map, List.getElem_range, hstored, Option.getD_some,
      helements]
    exact Cell.fill_of_length (hlengths _ hmem)

/-- An upload to one uniform leaves the elements of another one alone. -/
theorem elementsAt_upload_of_apart (hpos : 0 < d.arrayLength)
    (hlength : data.length = d.componentCount) (hwide : data.coerce d.storageType = some wide)
    (hupload : Upload.ofData d wide = some upload) (image : Image) {e : Descriptor}
    {first second : Int} (hapart : Apart d first e second) :
    elementsAt (image.upload first d.arrayLength upload) e second = elementsAt image e second := by
  obtain ⟨-, hchunks⟩ := length_chunks_ofData hlength hwide
  rw [upload_eq_storeAll hpos hlength hwide hupload]
  unfold Apart at hapart
  apply elementsAt_congr
  intro i hi
  exact storage_storeAll_of_outside _ _ image (by omega)

end Upload

/-- There are less than `2 ^ 31` locations, as many as signed numbers of thirty-two bits tell apart
from zero on. Each location has a shape. -/
def Image.Fits (image : Image) : Prop :=
  image.shapes.size < UInt32.size / 2

/-- The components of a uniform that is placed among so few locations can be counted. -/
theorem Image.Fits.descriptor {image : Image} {name : String} {d : Descriptor} {first : Int}
    (h : image.Fits) (hplaced : Placed image name d first) : d.Fits := by
  apply Descriptor.fits_of_arrayLength_lt
  calc d.arrayLength ≤ image.shapes.size := hplaced.arrayLength_le
    _ < UInt32.size / 2 := h
    _ ≤ UInt64.size / 16 := by decide

/-- The uniforms of a table that have a location stand apart from one another, and each shows the
data that was written to it, or zeros. -/
structure Stores (table : Table) (image : Image) (written : String → Option Data) : Prop where
  sized : Sized table
  placed {name : String} {d : Descriptor} {first : Int} (hd : table[name]? = some d)
    (hfirst : image.locations[name]? = some first) : Placed image name d first
  apart {name other : String} {d e : Descriptor} {first second : Int}
    (hd : table[name]? = some d) (he : table[other]? = some e) (different : name ≠ other)
    (hfirst : image.locations[name]? = some first)
    (hsecond : image.locations[other]? = some second) : Apart d first e second
  shown {name : String} {d : Descriptor} {first : Int} (hd : table[name]? = some d)
    (hfirst : image.locations[name]? = some first) :
    Shows d ((written name).getD (zeros d)) (readout d (elementsAt image d first))

/-- The uniforms that a link places: those of the table but for the ones that the settings drop. -/
def entriesOf (settings : Settings) (table : Table) : List (String × Descriptor) :=
  table.toList.filter fun entry ↦ entry.1 ∉ settings.optimizedOut

/-- No name is placed twice. -/
theorem nodup_entriesOf (settings : Settings) (table : Table) :
    ((entriesOf settings table).map Prod.fst).Nodup := by
  have hkeys := Std.ExtTreeMap.distinct_keys_toList (t := table)
  rw [List.Nodup, List.pairwise_map]
  apply (hkeys.filter _).imp
  intro one other hne heq
  exact hne (Std.LawfulEqCmp.compare_eq_iff_eq.2 heq)

theorem getElem?_of_mem_entriesOf {settings : Settings} {table : Table} {name : String}
    {d : Descriptor} (h : (name, d) ∈ entriesOf settings table) : table[name]? = some d :=
  Table.mem_toList_iff.1 (List.mem_filter.1 h).1

/-- The table that a link of an image reads. -/
def Image.table (image : Image) : Table :=
  (parse (String.intercalate ";" image.sources)).toOption.getD ∅

theorem table_of_parse {image : Image} {table : Table}
    (hparse : parse (String.intercalate ";" image.sources) = .ok table) : image.table = table := by
  rw [Image.table, hparse]
  rfl

/-- A link places the entries of the table in an image without storage. -/
theorem link_eq (settings : Settings) (image : Image) :
    image.link settings =
      let placed := (placeAll image.sources (entriesOf settings image.table)).2
      { placed with active := placed.active ++ settings.ghosts, linked := true } := by
  rw [Image.link, Image.table, placeAll, entriesOf]

theorem sources_link (settings : Settings) (image : Image) :
    (image.link settings).sources = image.sources := by
  rw [link_eq]
  simp only [sources_placeAll]

theorem sources_relink (settings : Settings) (image : Image) :
    (image.relink settings).sources = image.sources := by
  unfold Image.relink
  split
  · rfl
  · exact sources_link settings image

/-- After a link every entry has its place. -/
theorem laid_link (settings : Settings) {image : Image} {table : Table}
    (hparse : parse (String.intercalate ";" image.sources) = .ok table) :
    ∃ next, Laid (entriesOf settings table) next (image.link settings) := by
  have hbare : ∀ entry ∈ entriesOf settings table, '[' ∉ entry.1.toList :=
    fun entry hentry ↦
      (sized_of_parse hparse entry.1 entry.2 (getElem?_of_mem_entriesOf hentry)).1
  obtain ⟨hplaced, hknown, hapart⟩ :=
    laid_placeAll image.sources hbare (nodup_entriesOf settings table)
  rw [link_eq, table_of_parse hparse]
  refine ⟨(placeAll image.sources (entriesOf settings table)).1, ?_, hknown, hapart⟩
  intro name d hd
  obtain ⟨first, ⟨hlocation, helement, hshape⟩, hrest⟩ := hplaced hd
  exact ⟨first, ⟨hlocation, helement, hshape⟩, hrest⟩

/-- A fresh link leaves zeros everywhere. -/
theorem stores_link (settings : Settings) {image : Image} {table : Table}
    (hparse : parse (String.intercalate ";" image.sources) = .ok table) :
    Stores table (image.link settings) fun _ ↦ none := by
  obtain ⟨next, hplaced, hknown, hapart⟩ := laid_link settings hparse
  have hentry : ∀ {name d first}, table[name]? = some d →
      (image.link settings).locations[name]? = some first →
        (name, d) ∈ entriesOf settings table := by
    intro name d first hd hfirst
    obtain ⟨e, hmem⟩ := hknown (sized_of_parse hparse name d hd).1 hfirst
    have he := getElem?_of_mem_entriesOf hmem
    rw [hd] at he
    rwa [Option.some.inj he]
  have hlaid : ∀ {name d first}, table[name]? = some d →
      (image.link settings).locations[name]? = some first →
        Placed (image.link settings) name d first ∧
          elementsAt (image.link settings) d first =
            List.replicate d.arrayLength (List.replicate d.elementLen Cell.zero) := by
    intro name d first hd hfirst
    obtain ⟨other, hother, -, hzeros⟩ := hplaced (hentry hd hfirst)
    obtain rfl : first = other := Option.some.inj (hfirst.symm.trans hother.location)
    exact ⟨hother, hzeros⟩
  refine ⟨sized_of_parse hparse, ?_, ?_, ?_⟩
  · intro name d first hd hfirst
    exact (hlaid hd hfirst).1
  · intro name other d e first second hd he different hfirst hsecond
    exact hapart (hentry hd hfirst) (hentry he hsecond) different hfirst hsecond
  · intro name d first hd hfirst
    rw [(hlaid hd hfirst).2]
    exact shows_zeros d

/-- A write to one uniform is what this uniform shows from then on, and all others keep theirs. -/
theorem Stores.upload {table : Table} {image : Image} {written : String → Option Data}
    (h : Stores table image written) {name : String} {d : Descriptor} {first : Int}
    {data wide : Data} {upload : Upload} (hd : table[name]? = some d)
    (hfirst : image.locations[name]? = some first) (hlength : data.length = d.componentCount)
    (hwide : data.coerce d.storageType = some wide)
    (hupload : Upload.ofData d wide = some upload) :
    Stores table (image.upload first d.arrayLength upload)
      (Function.update written name (some data)) := by
  have hpos := (h.sized name d hd).2
  obtain ⟨hcells, -⟩ := length_chunks_ofData hlength hwide
  obtain ⟨storage, hstorage⟩ := exists_upload_eq first d.arrayLength upload image
  have hlocations : (image.upload first d.arrayLength upload).locations = image.locations := by
    rw [hstorage]
  refine ⟨h.sized, ?_, ?_, ?_⟩
  · intro other e second he hsecond
    rw [hlocations] at hsecond
    obtain ⟨hlocation, helement, hshape⟩ := h.placed he hsecond
    rw [hstorage]
    exact ⟨hlocation, helement, hshape⟩
  · intro one other e f second third he hf different hsecond hthird
    rw [hlocations] at hsecond hthird
    exact h.apart he hf different hsecond hthird
  · intro other e second he hsecond
    rw [hlocations] at hsecond
    by_cases hsame : other = name
    · subst hsame
      obtain rfl : d = e := Option.some.inj (hd.symm.trans he)
      obtain rfl : first = second := Option.some.inj (hfirst.symm.trans hsecond)
      rw [Function.update_self, Option.getD_some,
        elementsAt_upload hpos hlength hwide hupload (h.placed hd hfirst)]
      exact shows_elementsOf hwide hcells (reads_ofData wide)
    · have hapart := h.apart hd he (Ne.symm hsame) hfirst hsecond
      rw [Function.update_of_ne hsame,
        elementsAt_upload_of_apart hpos hlength hwide hupload image hapart]
      exact h.shown he hsecond

end InMemory

end Shading
