import Shading.Proofs.Uniform.Entries

/-!
# The order of the sources

Each source is checked against a table that the sources before it have shaped, and a declaration
may be met first in one order and be a repetition in another. Yet whether all sources can be read
into one table depends only on which declarations there are, and so does the table. The order
decides no more than which of several faults is met first.
-/

namespace Shading.Uniform

section
variable {table union : Table} {first second : List (List Char)}

theorem IsUnion.congr (hmem : ∀ s, s ∈ first ↔ s ∈ second) (h : IsUnion table first union) :
    IsUnion table second union := by
  intro name d
  rw [h name d]
  constructor
  · exact Describes.of_subset fun s ↦ (hmem s).1
  · exact Describes.of_subset fun s ↦ (hmem s).2

theorem IsUnion.unique {union' : Table} (h : IsUnion table first union)
    (h' : IsUnion table first union') : union = union' := by
  apply Table.ext
  intro name
  apply Option.ext
  intro d
  rw [h name d, h' name d]

/-- Neither the order of the declarations matters nor how often one is repeated. -/
theorem declareAll_congr (hmem : ∀ s, s ∈ first ↔ s ∈ second)
    (hdeclares : ∀ s ∈ first, declares s = true)
    (h : declareAll first table = (.ok (), union)) :
    declareAll second table = (.ok (), union) := by
  have hfirst : Consistent table first := consistent_of_declareAll hdeclares h
  have hsecond : Consistent table second := hfirst.of_subset fun s ↦ (hmem s).2
  obtain ⟨union', hread, hunion'⟩ := declareAll_of_consistent hsecond
  have hunion : IsUnion table first union := isUnion_of_declareAll hdeclares h
  rw [hread, (hunion.congr hmem).unique hunion']

end

theorem mem_flatMap_declared (sources : List String) :
    ∀ s ∈ sources.flatMap fun source ↦ declared source.toList, declares s = true := by
  intro s hs
  obtain ⟨source, -, hs⟩ := List.mem_flatMap.1 hs
  exact (List.mem_filter.1 hs).2

/-- Two lists with the same sources in them are read into the same table, if one can be read. -/
theorem parseEachInto_congr {sources sources' : List String}
    (hmem : ∀ source, source ∈ sources ↔ source ∈ sources') {table union : Table}
    (h : parseEachInto sources table = (.ok (), union)) :
    parseEachInto sources' table = (.ok (), union) := by
  rw [parseEachInto_eq_declareAll] at h ⊢
  refine declareAll_congr ?_ (mem_flatMap_declared sources) h
  intro s
  simp only [List.mem_flatMap, hmem]

/-- Sources that are read one after another can be read in every order or in none, and they leave
the same table in every order. -/
theorem parseEachInto_perm {sources sources' : List String} (h : sources.Perm sources')
    (table : Table) :
    ((parseEachInto sources table).1 = .ok () ↔ (parseEachInto sources' table).1 = .ok ()) ∧
      ((parseEachInto sources table).1 = .ok () →
        (parseEachInto sources table).2 = (parseEachInto sources' table).2) := by
  have hread : ∀ {first second : List String}, first.Perm second →
      (parseEachInto first table).1 = .ok () →
        parseEachInto second table = (.ok (), (parseEachInto first table).2) := by
    intro first second hperm hok
    exact parseEachInto_congr (fun source ↦ hperm.mem_iff) (Prod.ext hok rfl)
  refine ⟨⟨fun hok ↦ ?_, fun hok ↦ ?_⟩, fun hok ↦ ?_⟩
  · rw [hread h hok]
  · rw [hread h.symm hok]
  · rw [hread h hok]

theorem parseEachInto_perm_stages :
    let sources := ["uniform float a; uniform vec3 b[2];", "uniform vec3 b[2];", "uniform int c"]
    let sources' := ["uniform int c", "uniform vec3 b[2];", "uniform float a; uniform vec3 b[2];"]
    sources.Perm sources' ∧ (parseEachInto sources' ∅).1 = .ok () ∧
      (parseEachInto sources ∅).2 = (parseEachInto sources' ∅).2 ∧
      (parseEachInto sources ∅).2.size = 3 := by
  intro sources sources'
  have hperm : sources.Perm sources' := sources.reverse_perm.symm
  have hok : (parseEachInto sources ∅).1 = .ok () := by decide +kernel
  obtain ⟨hboth, hsame⟩ := parseEachInto_perm hperm ∅
  exact ⟨hperm, hboth.1 hok, hsame hok, by decide +kernel⟩

/-- The first fault that is met is the one that is told. -/
example : (parseEachInto ["uniform a;", "uniform b[];"] ∅).1 = .error (.malformed "uniform a") ∧
    (parseEachInto ["uniform b[];", "uniform a;"] ∅).1 = .error (.malformed "uniform b[]") := by
  decide +kernel

end Shading.Uniform
