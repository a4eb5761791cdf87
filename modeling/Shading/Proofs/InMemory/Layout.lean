import Shading.Proofs.InMemory.Device
import Shading.Proofs.Uniform.Tables
import Shading.Proofs.Uniform.Values

/-!
# The layout of an image

A link places every uniform behind those that are placed already, so no two of them share a
location. Names without brackets are those of uniforms; the names of elements all have brackets and
lead back to the uniform that they belong to.
-/

namespace Shading

open Shading.Uniform

namespace InMemory

/-- The elements of a uniform stand one behind the other from its location on. -/
structure Placed (image : Image) (name : String) (d : Descriptor) (first : Int) : Prop where
  location : image.locations[name]? = some first
  element {i : Nat} (h : i < d.arrayLength) :
    image.locations[elementName name i]? = some (first + i)
  shape {i : Nat} (h : i < d.arrayLength) :
    image.shapes[first + (i : Int)]? = some (d.kind, d.width)

/-- Each element has a location of its own. -/
theorem Placed.arrayLength_le {image : Image} {name : String} {d : Descriptor} {first : Int}
    (h : Placed image name d first) : d.arrayLength ≤ image.shapes.size := by
  let locations := (List.range d.arrayLength).map fun i : Nat ↦ first + (i : Int)
  have hdistinct : locations.Nodup := by
    rw [List.Nodup, List.pairwise_map]
    exact List.nodup_range.imp fun hne heq ↦ hne (by omega)
  have hknown : locations ⊆ image.shapes.keys := by
    intro location hlocation
    obtain ⟨i, hi, rfl⟩ := List.mem_map.1 hlocation
    rw [Std.ExtTreeMap.mem_keys, Std.ExtTreeMap.mem_iff_isSome_getElem?,
      h.shape (List.mem_range.1 hi), Option.isSome_some]
  calc d.arrayLength = locations.length := by rw [List.length_map, List.length_range]
    _ ≤ image.shapes.keys.length := hdistinct.length_le_of_subset hknown
    _ = image.shapes.size := Std.ExtTreeMap.length_keys

/-- The elements that are stored from a location on, each filled up with zeros. -/
def elementsAt (image : Image) (d : Descriptor) (first : Int) : List (List Cell) :=
  (List.range d.arrayLength).map fun i : Nat ↦
    Cell.fill d.elementLen (image.storage[first + (i : Int)]?.getD [])

section PlaceElements

variable (name : String) (d : Descriptor) (first : Nat) (image : Image)

/-- An image with the first `count` elements of a uniform placed. -/
def placeElements (count : Nat) : Image :=
  (List.range count).foldl (Image.placeElement name d first) image

theorem placeElements_succ (count : Nat) :
    placeElements name d first image (count + 1) =
      Image.placeElement name d first (placeElements name d first image count) count := by
  rw [placeElements, List.range_succ, List.foldl_append]
  rfl

theorem placeElements_hit {count i : Nat} (hi : i < count) :
    (placeElements name d first image count).locations[elementName name i]? =
        some ((first : Int) + i) ∧
      (placeElements name d first image count).shapes[(first : Int) + (i : Int)]? =
        some (d.kind, d.width) ∧
      (placeElements name d first image count).storage[(first : Int) + (i : Int)]? =
        some (List.replicate d.elementLen Cell.zero) := by
  induction count with
  | zero => exact absurd hi (Nat.not_lt_zero i)
  | succ count ih =>
    rw [placeElements_succ, Image.placeElement]
    simp only [Std.ExtTreeMap.getElem?_insert, Std.LawfulEqCmp.compare_eq_iff_eq]
    by_cases hlast : count = i
    · subst hlast
      simp
    · have hname : elementName name count ≠ elementName name i :=
        fun h ↦ hlast (elementName_injective name h)
      have hlocation : (first : Int) + (count : Int) ≠ (first : Int) + (i : Int) := by omega
      simp only [if_neg hname, if_neg hlocation]
      exact ih (by omega)

theorem placeElements_frame (count : Nat) :
    (∀ other, (∀ i < count, elementName name i ≠ other) →
        (placeElements name d first image count).locations[other]? = image.locations[other]?) ∧
      ∀ location : Int, location < first →
        (placeElements name d first image count).shapes[location]? = image.shapes[location]? ∧
          (placeElements name d first image count).storage[location]? =
            image.storage[location]? := by
  induction count with
  | zero => exact ⟨fun _ _ ↦ rfl, fun _ _ ↦ ⟨rfl, rfl⟩⟩
  | succ count ih =>
    obtain ⟨hlocations, hcells⟩ := ih
    rw [placeElements_succ, Image.placeElement]
    simp only [Std.ExtTreeMap.getElem?_insert, Std.LawfulEqCmp.compare_eq_iff_eq]
    constructor
    · intro other hother
      rw [if_neg (hother count (Nat.lt_succ_self count))]
      exact hlocations other fun i hi ↦ hother i (Nat.lt_succ_of_lt hi)
    · intro location hlocation
      have hne : (first : Int) + (count : Int) ≠ location := by omega
      rw [if_neg hne, if_neg hne]
      exact hcells location hlocation

theorem sources_placeElements (count : Nat) :
    (placeElements name d first image count).sources = image.sources := by
  induction count with
  | zero => rfl
  | succ count ih =>
    rw [placeElements_succ]
    exact ih

end PlaceElements

/-- What placing one uniform keeps: the other names, and all cells below it. -/
structure Keeps (name : String) (next : Nat) (image image' : Image) : Prop where
  locations {other : String} (h : bareName other ≠ name) :
    image'.locations[other]? = image.locations[other]?
  shapes {location : Int} (h : location < next) : image'.shapes[location]? = image.shapes[location]?
  storage {location : Int} (h : location < next) :
    image'.storage[location]? = image.storage[location]?

section Place

variable {name : String} (d : Descriptor) (next : Nat) (image : Image)

theorem place_eq : Image.place (next, image) (name, d) =
    (next + d.arrayLength, placeElements name d next
      { image with
        locations := image.locations.insert name next
        active := image.active ++ [name] } d.arrayLength) := rfl

theorem keeps_place (bare : '[' ∉ name.toList) :
    Keeps name next image (Image.place (next, image) (name, d)).2 := by
  rw [place_eq]
  obtain ⟨hlocations, hcells⟩ := placeElements_frame name d next
    { image with
      locations := image.locations.insert name next
      active := image.active ++ [name] } d.arrayLength
  refine ⟨?_, fun h ↦ (hcells _ h).1, fun h ↦ (hcells _ h).2⟩
  intro other hother
  have helements : ∀ i < d.arrayLength, elementName name i ≠ other := by
    rintro i - rfl
    exact hother (bareName_elementName bare i)
  have hname : name ≠ other := by
    rintro rfl
    exact hother (bareName_of_notMem bare)
  rw [hlocations other helements, Std.ExtTreeMap.getElem?_insert,
    if_neg (mt Std.LawfulEqCmp.compare_eq_iff_eq.1 hname)]

theorem placed_place (bare : '[' ∉ name.toList) :
    Placed (Image.place (next, image) (name, d)).2 name d next ∧
      elementsAt (Image.place (next, image) (name, d)).2 d next =
        List.replicate d.arrayLength (List.replicate d.elementLen Cell.zero) := by
  have helements : ∀ i < d.arrayLength, elementName name i ≠ name :=
    fun i _ ↦ elementName_ne bare name i
  rw [place_eq]
  refine ⟨⟨?_, ?_, ?_⟩, ?_⟩
  · rw [(placeElements_frame ..).1 name helements]
    exact Std.ExtTreeMap.getElem?_insert_self
  · intro i hi
    exact (placeElements_hit name d next _ hi).1
  · intro i hi
    exact (placeElements_hit name d next _ hi).2.1
  · rw [elementsAt, List.eq_replicate_iff, List.length_map, List.length_range]
    refine ⟨rfl, ?_⟩
    intro element helement
    obtain ⟨i, hi, rfl⟩ := List.mem_map.1 helement
    rw [(placeElements_hit name d next _ (List.mem_range.1 hi)).2.2, Option.getD_some,
      Cell.fill_of_length List.length_replicate]

end Place

theorem elementsAt_congr {image image' : Image} {d : Descriptor} {first : Int}
    (h : ∀ i : Nat, i < d.arrayLength →
      image'.storage[first + (i : Int)]? = image.storage[first + (i : Int)]?) :
    elementsAt image' d first = elementsAt image d first := by
  apply List.map_congr_left
  intro i hi
  rw [h i (List.mem_range.1 hi)]

/-- A uniform below the one that is placed stays where it is, with its elements. -/
theorem Keeps.placed {name other : String} {next : Nat} {image image' : Image} {e : Descriptor}
    {first : Int} (h : Keeps name next image image') (bare : '[' ∉ other.toList)
    (different : other ≠ name) (hplaced : Placed image other e first)
    (below : first + e.arrayLength ≤ next) :
    Placed image' other e first ∧ elementsAt image' e first = elementsAt image e first := by
  obtain ⟨hlocation, helement, hshape⟩ := hplaced
  have hcell : ∀ i : Nat, i < e.arrayLength → first + (i : Int) < next := by omega
  refine ⟨⟨?_, ?_, ?_⟩, ?_⟩
  · rw [h.locations (by rwa [bareName_of_notMem bare]), hlocation]
  · intro i hi
    rw [h.locations (by rwa [bareName_elementName bare]), helement hi]
  · intro i hi
    rw [h.shapes (hcell i hi), hshape hi]
  · exact elementsAt_congr fun i hi ↦ h.storage (hcell i hi)

/-- Two uniforms that share no location. -/
def Apart (d : Descriptor) (first : Int) (e : Descriptor) (second : Int) : Prop :=
  first + d.arrayLength ≤ second ∨ second + e.arrayLength ≤ first

/-- Uniforms that were placed below a location, with zeros in their cells. -/
structure Laid (entries : List (String × Descriptor)) (next : Nat) (image : Image) : Prop where
  placed {name : String} {d : Descriptor} (h : (name, d) ∈ entries) :
    ∃ first : Int, Placed image name d first ∧ first + d.arrayLength ≤ next ∧
      elementsAt image d first =
        List.replicate d.arrayLength (List.replicate d.elementLen Cell.zero)
  known {name : String} {first : Int} (bare : '[' ∉ name.toList)
    (h : image.locations[name]? = some first) : ∃ d, (name, d) ∈ entries
  apart {name other : String} {d e : Descriptor} {first second : Int} (hd : (name, d) ∈ entries)
    (he : (other, e) ∈ entries) (different : name ≠ other)
    (hfirst : image.locations[name]? = some first)
    (hsecond : image.locations[other]? = some second) : Apart d first e second

namespace Laid

variable {entries : List (String × Descriptor)} {next : Nat} {image : Image}

theorem nil (sources : List String) :
    Laid [] 0 { Image.empty with sources } := by
  refine ⟨?_, ?_, ?_⟩
  · intro name d h
    exact absurd h List.not_mem_nil
  · intro name first _ h
    simp [Image.empty] at h
  · intro name other d e first second hd
    exact absurd hd List.not_mem_nil

/-- What was placed before stays, with zeros in its cells. -/
theorem keep (h : Laid entries next image) (bare : ∀ entry ∈ entries, '[' ∉ entry.1.toList)
    {name : String} (fresh : name ∉ entries.map Prod.fst) {image' : Image}
    (hkeeps : Keeps name next image image') {other : String} {e : Descriptor}
    (hmem : (other, e) ∈ entries) :
    ∃ first : Int, image.locations[other]? = some first ∧ Placed image' other e first ∧
      first + e.arrayLength ≤ next ∧
        elementsAt image' e first =
          List.replicate e.arrayLength (List.replicate e.elementLen Cell.zero) := by
  have hne : other ≠ name := by
    rintro rfl
    exact fresh (List.mem_map_of_mem hmem)
  obtain ⟨first, hother, hbelow, hblank⟩ := h.placed hmem
  obtain ⟨hstays, hsame⟩ := hkeeps.placed (bare _ hmem) hne hother hbelow
  exact ⟨first, hother.location, hstays, hbelow, hsame.trans hblank⟩

theorem place (h : Laid entries next image) (bare : ∀ entry ∈ entries, '[' ∉ entry.1.toList)
    {name : String} (d : Descriptor) (hname : '[' ∉ name.toList)
    (fresh : name ∉ entries.map Prod.fst) :
    Laid (entries ++ [(name, d)]) (next + d.arrayLength)
      (Image.place (next, image) (name, d)).2 := by
  have hkeeps := keeps_place d next image hname
  obtain ⟨hplaced, hzeros⟩ := placed_place d next image hname
  generalize (Image.place (next, image) (name, d)).2 = image' at hkeeps hplaced hzeros
  refine ⟨?_, ?_, ?_⟩
  · intro other e hmem
    rcases List.mem_append.1 hmem with hmem | hmem
    · obtain ⟨first, -, hother, hbelow, hblank⟩ := h.keep bare fresh hkeeps hmem
      exact ⟨first, hother, by omega, hblank⟩
    · obtain ⟨rfl, rfl⟩ := Prod.mk.inj (List.mem_singleton.1 hmem)
      exact ⟨next, hplaced, by omega, hzeros⟩
  · intro other first hother hlocation
    by_cases hsame : other = name
    · exact ⟨d, by simp [hsame]⟩
    · rw [hkeeps.locations (by rwa [bareName_of_notMem hother])] at hlocation
      obtain ⟨e, hmem⟩ := h.known hother hlocation
      exact ⟨e, List.mem_append_left _ hmem⟩
  · intro one other e f first second he hf different hfirst hsecond
    rcases List.mem_append.1 he with he | he
    · obtain ⟨l, hl, hone, hbelow, -⟩ := h.keep bare fresh hkeeps he
      rw [hone.location] at hfirst
      obtain rfl := Option.some.inj hfirst
      rcases List.mem_append.1 hf with hf | hf
      · obtain ⟨m, hm, hother, -, -⟩ := h.keep bare fresh hkeeps hf
        rw [hother.location] at hsecond
        obtain rfl := Option.some.inj hsecond
        exact h.apart he hf different hl hm
      · obtain ⟨rfl, rfl⟩ := Prod.mk.inj (List.mem_singleton.1 hf)
        rw [hplaced.location] at hsecond
        obtain rfl := Option.some.inj hsecond
        exact .inl hbelow
    · obtain ⟨rfl, rfl⟩ := Prod.mk.inj (List.mem_singleton.1 he)
      rw [hplaced.location] at hfirst
      obtain rfl := Option.some.inj hfirst
      rcases List.mem_append.1 hf with hf | hf
      · obtain ⟨m, -, hother, hbelow, -⟩ := h.keep bare fresh hkeeps hf
        rw [hother.location] at hsecond
        obtain rfl := Option.some.inj hsecond
        exact .inr hbelow
      · obtain ⟨rfl, rfl⟩ := Prod.mk.inj (List.mem_singleton.1 hf)
        exact absurd rfl different

theorem foldl {rest : List (String × Descriptor)} {placed : Nat × Image}
    (h : Laid entries placed.1 placed.2)
    (bare : ∀ entry ∈ entries ++ rest, '[' ∉ entry.1.toList)
    (distinct : ((entries ++ rest).map Prod.fst).Nodup) :
    Laid (entries ++ rest) (rest.foldl Image.place placed).1
      (rest.foldl Image.place placed).2 := by
  induction rest generalizing entries placed with
  | nil =>
    rw [List.append_nil]
    exact h
  | cons entry rest ih =>
    have hbare : ∀ e ∈ entries, '[' ∉ e.1.toList :=
      fun e he ↦ bare e (List.mem_append_left _ he)
    have hname : '[' ∉ entry.1.toList := bare entry (by simp)
    have hfresh : entry.1 ∉ entries.map Prod.fst := by
      intro hmem
      rw [List.map_append, List.map_cons] at distinct
      exact (List.nodup_append.1 distinct).2.2 _ hmem _ (List.mem_cons_self ..) rfl
    rw [List.foldl_cons]
    rw [List.append_cons] at bare distinct ⊢
    exact ih (h.place hbare entry.2 hname hfresh) bare distinct

end Laid

def placeAll (sources : List String) (entries : List (String × Descriptor)) : Nat × Image :=
  entries.foldl Image.place (0, { Image.empty with sources })

theorem laid_placeAll (sources : List String) {entries : List (String × Descriptor)}
    (bare : ∀ entry ∈ entries, '[' ∉ entry.1.toList) (distinct : (entries.map Prod.fst).Nodup) :
    Laid entries (placeAll sources entries).1 (placeAll sources entries).2 :=
  @Laid.foldl [] entries (0, _) (.nil sources) bare distinct

theorem sources_placeAll (sources : List String) (entries : List (String × Descriptor)) :
    (placeAll sources entries).2.sources = sources := by
  have hplace : ∀ placed : Nat × Image, (entries.foldl Image.place placed).2.sources =
      placed.2.sources := by
    induction entries with
    | nil => exact fun _ ↦ rfl
    | cons entry rest ih =>
      intro placed
      rw [List.foldl_cons, ih]
      exact sources_placeElements ..
  exact hplace _

end InMemory

end Shading
