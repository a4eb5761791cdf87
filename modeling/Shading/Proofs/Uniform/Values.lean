import Mathlib.Data.List.Basic
import Mathlib.Data.List.GetD
import Shading.Device.Cell
import Shading.Device.Upload
import Shading.Proofs.Uniform.Components
import Shading.Uniform.Value

/-!
# What is read back

The elements of a uniform are read one by one, and what they come to is the value of the uniform. A
value shows the components of a write if its elements are the ones that the write left behind, and
it shows zeros if the elements are as a link leaves them.
-/

namespace Shading

open Shading.Uniform

namespace Cell

theorem fill_of_length {length : Nat} {cells : List Cell} (h : cells.length = length) :
    fill length cells = cells := by
  rw [fill, h, Nat.sub_self, List.replicate_zero, List.append_nil, ← h, List.take_length]

/-- As many chunks as the length goes into the cells, each full. -/
theorem length_chunks {length : Nat} (hpos : 0 < length) (count : Nat) {cells : List Cell}
    (h : cells.length = length * count) :
    (chunks length cells).length = count ∧
      ∀ chunk ∈ chunks length cells, chunk.length = length := by
  induction count generalizing cells with
  | zero =>
    rw [Nat.mul_zero, List.length_eq_zero_iff] at h
    rw [h, chunks]
    exact ⟨rfl, by simp⟩
  | succ count ih =>
    cases cells with
    | nil =>
      rw [List.length_nil, Nat.mul_succ] at h
      omega
    | cons cell rest =>
      rw [List.length_cons, Nat.mul_succ] at h
      have hrest : (rest.drop (length - 1)).length = length * count := by
        rw [List.length_drop]
        omega
      obtain ⟨hcount, hlengths⟩ := ih hrest
      rw [chunks, List.length_cons, hcount]
      refine ⟨rfl, ?_⟩
      intro chunk hchunk
      rcases List.mem_cons.1 hchunk with rfl | hchunk
      · rw [List.length_cons, List.length_take]
        omega
      · exact hlengths chunk hchunk

end Cell

/-- The entries of a matrix, row by row. -/
theorem flatMap_range_getD {α : Type} (side : Nat) (default : α) (rows : Nat) {entries : List α}
    (h : entries.length = rows * side) :
    ((List.range rows).flatMap fun row ↦
      (List.range side).map fun column ↦ entries.getD (row * side + column) default) =
        entries := by
  induction rows generalizing entries with
  | zero =>
    rw [Nat.zero_mul, List.length_eq_zero_iff] at h
    rw [h]
    rfl
  | succ rows ih =>
    obtain ⟨before, last, rfl, hbefore⟩ :
        ∃ before last, entries = before ++ last ∧ before.length = rows * side := by
      refine ⟨_, _, (List.take_append_drop (rows * side) entries).symm, ?_⟩
      rw [List.length_take, h, Nat.succ_mul]
      omega
    have hlength : last.length = side := by
      rw [List.length_append, hbefore, Nat.succ_mul] at h
      omega
    have hlast : (List.range side).map (fun column ↦
        (before ++ last).getD (rows * side + column) default) = last := by
      apply List.ext_getElem
      · rw [List.length_map, List.length_range, hlength]
      · intro column _ hcolumn
        rw [List.getElem_map, List.getElem_range, List.getD_append_right _ _ _ _ (by omega),
          hbefore, Nat.add_sub_cancel_left, List.getD_eq_getElem _ _ hcolumn]
    have hothers : ∀ row ∈ List.range rows,
        (List.range side).map (fun column ↦ (before ++ last).getD (row * side + column) default) =
          (List.range side).map fun column ↦ before.getD (row * side + column) default := by
      intro row hrow
      apply List.map_congr_left
      intro column hcolumn
      rw [List.mem_range] at hrow hcolumn
      have hinside : row * side + column < before.length := by
        calc row * side + column < row * side + side := by omega
          _ = (row + 1) * side := (Nat.succ_mul row side).symm
          _ ≤ rows * side := Nat.mul_le_mul_right side hrow
          _ = before.length := hbefore.symm
      exact List.getD_append _ _ _ _ hinside
    calc (List.range (rows + 1)).flatMap (fun row ↦
          (List.range side).map fun column ↦ (before ++ last).getD (row * side + column) default)
        = (List.range rows).flatMap (fun row ↦ (List.range side).map fun column ↦
            (before ++ last).getD (row * side + column) default) ++ last := by
          rw [List.range_succ, List.flatMap_append, List.flatMap_singleton, hlast]
      _ = (List.range rows).flatMap (fun row ↦ (List.range side).map fun column ↦
            before.getD (row * side + column) default) ++ last := by
          rw [List.flatMap_congr hothers]
      _ = before ++ last := by
          rw [ih hbefore]

namespace Uniform

/-- Entries of a square matrix lie in its buffer. -/
theorem entry_lt_square {side row column : Nat} (hrow : row < side) (hcolumn : column < side) :
    column * side + row < side * side := by
  calc column * side + row < column * side + side := by omega
    _ = (column + 1) * side := (Nat.succ_mul column side).symm
    _ ≤ side * side := Nat.mul_le_mul_right side hcolumn

/-- The rows of a matrix come back out of its transpose. -/
theorem flatten_rowsOfColumns_transpose {side : Nat} {cells : List Cell}
    (h : cells.length = side * side) :
    (rowsOfColumns side ((Cell.transpose side cells).map Cell.toBinary32)).flatten =
      cells.map Cell.toBinary32 := by
  have hentry : ∀ row ∈ List.range side, ∀ column ∈ List.range side,
      ((Cell.transpose side cells).map Cell.toBinary32).getD (column * side + row) .zero =
        (cells.map Cell.toBinary32).getD (row * side + column) .zero := by
    intro row hrow column hcolumn
    rw [List.mem_range] at hrow hcolumn
    have hinside := entry_lt_square hrow hcolumn
    have hmod : (column * side + row) % side = row := by
      rw [Nat.add_comm, Nat.add_mul_mod_self_right, Nat.mod_eq_of_lt hrow]
    have hdiv : (column * side + row) / side = column := by
      rw [Nat.add_comm, Nat.add_mul_div_right _ _ (by omega), Nat.div_eq_of_lt hrow, Nat.zero_add]
    calc ((Cell.transpose side cells).map Cell.toBinary32).getD (column * side + row) .zero
        = ((Cell.transpose side cells).getD (column * side + row) .zero).toBinary32 := by
          rw [← Cell.toBinary32_zero, List.getD_map]
      _ = (cells.getD (row * side + column) .zero).toBinary32 := by
          rw [Cell.transpose, List.getD_eq_getElem _ _ (by simpa using hinside), List.getElem_map,
            List.getElem_range, hmod, hdiv]
      _ = (cells.map Cell.toBinary32).getD (row * side + column) .zero := by
          rw [← Cell.toBinary32_zero, List.getD_map]
  have hrows : ∀ row ∈ List.range side,
      (List.range side).map (fun column ↦
        ((Cell.transpose side cells).map Cell.toBinary32).getD (column * side + row) .zero) =
      (List.range side).map fun column ↦
        (cells.map Cell.toBinary32).getD (row * side + column) .zero :=
    fun row hrow ↦ List.map_congr_left (hentry row hrow)
  rw [rowsOfColumns, ← List.flatMap_def, List.flatMap_congr hrows,
    flatMap_range_getD side _ side (by rw [List.length_map, h])]

/-- A square matrix has as many rows as columns. -/
theorem length_rowsOfColumns (side : Nat) (columns : List Binary32) :
    (rowsOfColumns side columns).length = side ∧
      ∀ row ∈ rowsOfColumns side columns, row.length = side := by
  rw [rowsOfColumns, List.length_map, List.length_range]
  refine ⟨rfl, ?_⟩
  intro row hrow
  obtain ⟨i, -, rfl⟩ := List.mem_map.1 hrow
  rw [List.length_map, List.length_range]

/-! ## Values -/

/-- A value shows the components as they are stored: a single one as it is, several in their order,
and matrices whose rows, read row by row, are the components. -/
def Shows (d : Descriptor) (data : Data) (value : Value) : Prop :=
  match d.kind, data.stored d with
  | .matrix, .floats components =>
    ∃ matrices : List (List (List Binary32)), value = .matrices matrices ∧
      matrices.length = d.arrayLength ∧
      (∀ rows ∈ matrices, rows.length = d.width.toNat ∧
        ∀ row ∈ rows, row.length = d.width.toNat) ∧
      matrices.flatten.flatten = components
  | .matrix, .ints _ => False
  | _, .ints [component] => value = .int component
  | _, .ints components => value = .ints components
  | _, .floats [component] => value = .float component
  | _, .floats components => value = .floats components

section Shows

variable {d : Descriptor} {data : Data} {value : Value}

/-- Integers are shown as they were given. -/
theorem shows_iff_of_ints {components : List Int32} (flat : d.kind ≠ .matrix)
    (h : data.stored d = .ints components) : Shows d data value ↔ value = .ofInts components := by
  unfold Shows
  rw [h]
  cases hkind : d.kind with
  | matrix => exact absurd hkind flat
  | scalar | vector =>
    match components with
    | [] | [_] | _ :: _ :: _ => exact Iff.rfl

/-- So are floating point numbers, unless they are those of matrices. -/
theorem shows_iff_of_floats {components : List Binary32} (flat : d.kind ≠ .matrix)
    (h : data.stored d = .floats components) :
    Shows d data value ↔ value = .ofFloats components := by
  unfold Shows
  rw [h]
  cases hkind : d.kind with
  | matrix => exact absurd hkind flat
  | scalar | vector =>
    match components with
    | [] | [_] | _ :: _ :: _ => exact Iff.rfl

end Shows

theorem map_length_of_forall {α : Type} {side : Nat} {rows : List (List α)}
    (h : ∀ row ∈ rows, row.length = side) :
    rows.map List.length = List.replicate rows.length side := by
  rw [List.map_congr_left h, List.map_const']

theorem length_flatten_of_forall {α : Type} {side : Nat} {rows : List (List α)}
    (h : ∀ row ∈ rows, row.length = side) : rows.flatten.length = rows.length * side := by
  rw [List.length_flatten, map_length_of_forall h, List.sum_replicate_nat]

/-- Rows of one length are determined by their entries. -/
theorem eq_of_flatten_eq {α : Type} {side : Nat} {rows rows' : List (List α)}
    (h : ∀ row ∈ rows, row.length = side) (h' : ∀ row ∈ rows', row.length = side)
    (hlength : rows.length = rows'.length) (hflatten : rows.flatten = rows'.flatten) :
    rows = rows' := by
  rw [List.eq_iff_flatten_eq, map_length_of_forall h, map_length_of_forall h', hlength]
  exact ⟨hflatten, rfl⟩

/-- No two values show the same data. -/
theorem Shows.unique {d : Descriptor} {data : Data} {value other : Value}
    (hvalue : Shows d data value) (hother : Shows d data other) : other = value := by
  by_cases hkind : d.kind = .matrix
  · unfold Shows at hvalue hother
    cases hstored : data.stored d with
    | ints components =>
      rw [hkind, hstored] at hvalue
      exact hvalue.elim
    | floats components =>
      simp only [hkind, hstored] at hvalue hother
      obtain ⟨matrices, rfl, hcount, hsquare, hentries⟩ := hvalue
      obtain ⟨matrices', rfl, hcount', hsquare', hentries'⟩ := hother
      have hheight : ∀ rows ∈ matrices, rows.length = d.width.toNat :=
        fun rows hrows ↦ (hsquare rows hrows).1
      have hheight' : ∀ rows ∈ matrices', rows.length = d.width.toNat :=
        fun rows hrows ↦ (hsquare' rows hrows).1
      have hwidth : ∀ row ∈ matrices.flatten, row.length = d.width.toNat := by
        intro row hrow
        obtain ⟨rows, hrows, hmem⟩ := List.mem_flatten.1 hrow
        exact (hsquare rows hrows).2 row hmem
      have hwidth' : ∀ row ∈ matrices'.flatten, row.length = d.width.toNat := by
        intro row hrow
        obtain ⟨rows, hrows, hmem⟩ := List.mem_flatten.1 hrow
        exact (hsquare' rows hrows).2 row hmem
      have hrows : matrices'.flatten = matrices.flatten := by
        refine eq_of_flatten_eq hwidth' hwidth ?_ (hentries'.trans hentries.symm)
        rw [length_flatten_of_forall hheight, length_flatten_of_forall hheight', hcount, hcount']
      rw [eq_of_flatten_eq hheight' hheight (hcount'.trans hcount.symm) hrows]
  · cases hstored : data.stored d with
    | ints components =>
      rw [(shows_iff_of_ints hkind hstored).1 hvalue, (shows_iff_of_ints hkind hstored).1 hother]
    | floats components =>
      rw [(shows_iff_of_floats hkind hstored).1 hvalue,
        (shows_iff_of_floats hkind hstored).1 hother]

/-- As many zeros as a uniform has components. -/
def zeros (d : Descriptor) : Data :=
  .ints (List.replicate d.componentCount 0)

/-- The value that the elements of a uniform come to. -/
def readout (d : Descriptor) (elements : List (List Cell)) : Value :=
  match d.storageType with
  | .int => .ofInts (elements.flatten.map Cell.toInt32)
  | .float => .ofFloatElements d (elements.map (List.map Cell.toBinary32))

/-- The elements that an upload of some cells leaves behind. -/
def elementsOf (d : Descriptor) (cells : List Cell) : List (List Cell) :=
  match d.kind with
  | .matrix => (Cell.chunks d.elementLen cells).map (Cell.transpose d.width.toNat)
  | .scalar | .vector => Cell.chunks d.elementLen cells

/-- The cells hold the data. -/
def Reads (cells : List Cell) : Data → Prop
  | .ints components => cells.map Cell.toInt32 = components
  | .floats components => cells.map Cell.toBinary32 = components

/-- Stored data is read back. -/
theorem reads_ofData (data : Data) : Reads (Cell.ofData data) data := by
  cases data with
  | ints components =>
    calc (components.map Cell.int).map Cell.toInt32
        = components.map id := List.map_map ..
      _ = components := List.map_id _
  | floats components =>
    calc (components.map Cell.float).map Cell.toBinary32
        = components.map id := List.map_map ..
      _ = components := List.map_id _

/-- Cells that were never written to hold zeros of either type. -/
theorem reads_zeros {d : Descriptor} {wide : Data}
    (h : (zeros d).coerce d.storageType = some wide) :
    Reads (List.replicate d.componentCount Cell.zero) wide := by
  cases hstorage : d.storageType with
  | int =>
    rw [hstorage, zeros, Data.coerce] at h
    rw [← Option.some.inj h, Reads, List.map_replicate, Cell.toInt32_zero]
  | float =>
    rw [hstorage, zeros, Data.coerce] at h
    rw [← Option.some.inj h, Reads, List.map_replicate, List.map_replicate]
    rfl

/-- As many elements as the array has, each full. -/
theorem length_elementsOf {d : Descriptor} {cells : List Cell}
    (h : cells.length = d.componentCount) :
    (elementsOf d cells).length = d.arrayLength ∧
      ∀ element ∈ elementsOf d cells, element.length = d.elementLen := by
  obtain ⟨hcount, hlengths⟩ := Cell.length_chunks d.elementLen_pos d.arrayLength h
  unfold elementsOf
  cases hkind : d.kind with
  | matrix =>
    refine ⟨by rw [List.length_map, hcount], ?_⟩
    intro element helement
    obtain ⟨chunk, -, rfl⟩ := List.mem_map.1 helement
    rw [Cell.length_transpose, Descriptor.elementLen, hkind]
  | scalar => exact ⟨hcount, hlengths⟩
  | vector => exact ⟨hcount, hlengths⟩

theorem eq_ints_of_coerce {data wide : Data} (h : data.coerce .int = some wide) :
    ∃ components, wide = .ints components := by
  cases data with
  | ints components => exact ⟨components, (Option.some.inj h).symm⟩
  | floats components => cases h

theorem eq_floats_of_coerce {data wide : Data} (h : data.coerce .float = some wide) :
    ∃ components, wide = .floats components := by
  cases data <;> exact ⟨_, (Option.some.inj h).symm⟩

/-- What an upload leaves behind shows what was uploaded. -/
theorem shows_elementsOf {d : Descriptor} {data wide : Data} {cells : List Cell}
    (hwide : data.coerce d.storageType = some wide) (hlength : cells.length = d.componentCount)
    (hreads : Reads cells wide) : Shows d data (readout d (elementsOf d cells)) := by
  have hstored := (Data.eq_stored_of_coerce hwide).symm
  obtain ⟨hcount, hlengths⟩ := Cell.length_chunks d.elementLen_pos d.arrayLength hlength
  cases hkind : d.kind with
  | matrix =>
    have hstorage : d.storageType = .float := by
      rw [Descriptor.storageType, hkind]
    have hsquare : d.elementLen = d.width.toNat * d.width.toNat := by
      rw [Descriptor.elementLen, hkind]
    rw [hstorage] at hwide
    obtain ⟨components, rfl⟩ := eq_floats_of_coerce hwide
    -- each chunk comes back as the rows of one matrix
    have hrows : ∀ chunk ∈ Cell.chunks d.elementLen cells,
        (rowsOfColumns d.width.toNat
          ((Cell.transpose d.width.toNat chunk).map Cell.toBinary32)).flatten =
            chunk.map Cell.toBinary32 :=
      fun chunk hchunk ↦ flatten_rowsOfColumns_transpose ((hlengths chunk hchunk).trans hsquare)
    have hvalue : readout d (elementsOf d cells) =
        .matrices ((Cell.chunks d.elementLen cells).map fun chunk ↦
          rowsOfColumns d.width.toNat
            ((Cell.transpose d.width.toNat chunk).map Cell.toBinary32)) := by
      simp only [readout, hstorage, elementsOf, Value.ofFloatElements, hkind, List.map_map]
      rfl
    unfold Shows
    rw [hstored, hkind]
    refine ⟨_, hvalue, ?_, ?_, ?_⟩
    · rw [List.length_map, hcount]
    · intro rows hmem
      obtain ⟨chunk, -, rfl⟩ := List.mem_map.1 hmem
      exact length_rowsOfColumns _ _
    · rw [List.flatten_flatten, List.map_map]
      calc ((Cell.chunks d.elementLen cells).map fun chunk ↦
            (rowsOfColumns d.width.toNat
              ((Cell.transpose d.width.toNat chunk).map Cell.toBinary32)).flatten).flatten
          = ((Cell.chunks d.elementLen cells).map (List.map Cell.toBinary32)).flatten := by
            rw [List.map_congr_left hrows]
        _ = cells.map Cell.toBinary32 := by rw [← List.map_flatten, Cell.flatten_chunks]
        _ = components := hreads
  | scalar | vector =>
    have hflat : d.kind ≠ .matrix := by
      rw [hkind]
      decide
    cases hstorage : d.storageType with
    | int =>
      rw [hstorage] at hwide
      obtain ⟨components, rfl⟩ := eq_ints_of_coerce hwide
      have hvalue : readout d (elementsOf d cells) = .ofInts (cells.map Cell.toInt32) := by
        simp only [readout, hstorage, elementsOf, hkind, Cell.flatten_chunks]
      rw [hvalue]
      exact (shows_iff_of_ints hflat hstored).2 (congrArg Value.ofInts hreads)
    | float =>
      rw [hstorage] at hwide
      obtain ⟨components, rfl⟩ := eq_floats_of_coerce hwide
      have hvalue : readout d (elementsOf d cells) = .ofFloats (cells.map Cell.toBinary32) := by
        simp only [readout, hstorage, elementsOf, Value.ofFloatElements, hkind,
          Cell.flatten_chunks, ← List.map_flatten]
      rw [hvalue]
      exact (shows_iff_of_floats hflat hstored).2 (congrArg Value.ofFloats hreads)

theorem chunks_replicate_zero (d : Descriptor) :
    Cell.chunks d.elementLen (List.replicate d.componentCount Cell.zero) =
      List.replicate d.arrayLength (List.replicate d.elementLen Cell.zero) := by
  have hlength : (List.replicate d.componentCount Cell.zero).length = d.componentCount :=
    List.length_replicate
  obtain ⟨hcount, hlengths⟩ := Cell.length_chunks d.elementLen_pos d.arrayLength hlength
  rw [List.eq_replicate_iff]
  refine ⟨hcount, ?_⟩
  intro chunk hchunk
  rw [List.eq_replicate_iff]
  refine ⟨hlengths chunk hchunk, ?_⟩
  intro cell hcell
  have hmem :
      cell ∈ (Cell.chunks d.elementLen (List.replicate d.componentCount Cell.zero)).flatten :=
    List.mem_flatten.2 ⟨chunk, hchunk, hcell⟩
  rw [Cell.flatten_chunks] at hmem
  exact List.eq_of_mem_replicate hmem

theorem transpose_replicate_zero (side length : Nat) :
    Cell.transpose side (List.replicate length Cell.zero) =
      List.replicate (side * side) Cell.zero := by
  rw [List.eq_replicate_iff]
  refine ⟨Cell.length_transpose _ _, ?_⟩
  intro cell hcell
  obtain ⟨i, -, rfl⟩ := List.mem_map.1 hcell
  rw [List.getD_eq_getElem?_getD, List.getElem?_replicate]
  split <;> rfl

/-- The elements that a link leaves behind are those of an upload of zeros. -/
theorem elementsOf_zeros (d : Descriptor) :
    elementsOf d (List.replicate d.componentCount Cell.zero) =
      List.replicate d.arrayLength (List.replicate d.elementLen Cell.zero) := by
  unfold elementsOf
  cases hkind : d.kind with
  | matrix =>
    have hsquare : d.elementLen = d.width.toNat * d.width.toNat := by
      rw [Descriptor.elementLen, hkind]
    simp only [chunks_replicate_zero, List.map_replicate, transpose_replicate_zero]
    rw [hsquare]
  | scalar => exact chunks_replicate_zero d
  | vector => exact chunks_replicate_zero d

/-- An array that was never written to shows zeros in its own shape. -/
theorem shows_zeros (d : Descriptor) :
    Shows d (zeros d)
      (readout d (List.replicate d.arrayLength (List.replicate d.elementLen Cell.zero))) := by
  rw [← elementsOf_zeros]
  cases hwide : (zeros d).coerce d.storageType with
  | none => cases hstorage : d.storageType <;> rw [hstorage] at hwide <;> cases hwide
  | some wide => exact shows_elementsOf hwide (List.length_replicate ..) (reads_zeros hwide)

end Uniform

end Shading
