import Shading.Uniform.Descriptor
import Std.Data.ExtTreeMap

/-!
# Uniform tables

A table maps names to descriptors. Two tables that agree on every name are equal, and the entries
of a table are listed by ascending name.

An element of an array is named by the name of the array and its index in brackets. What stands in
front of the first bracket is the bare name of a uniform or of an element.
-/

namespace Shading.Uniform

/-- Descriptors by name, in the order of the names. -/
abbrev Table := Std.ExtTreeMap String Descriptor compare

namespace Table

theorem ext {s t : Table} (h : ∀ name : String, s[name]? = t[name]?) : s = t :=
  Std.ExtTreeMap.ext_getElem? h

theorem getElem?_empty (name : String) : (∅ : Table)[name]? = none := by
  simp

theorem getElem?_insert (t : Table) (name other : String) (d : Descriptor) :
    (t.insert name d)[other]? = if name = other then some d else t[other]? := by
  simp [Std.ExtTreeMap.getElem?_insert]

theorem mem_toList_iff {t : Table} {name : String} {d : Descriptor} :
    (name, d) ∈ t.toList ↔ t[name]? = some d :=
  Std.ExtTreeMap.mem_toList_iff_getElem?_eq_some

def listing (t : Table) : String :=
  Text.mapping (t.toList.map fun (name, d) ↦ (Text.quote name, d.listing))

end Table

/-- The name by which a device knows one element of an array. -/
def elementName (name : String) (i : Nat) : String :=
  name ++ "[" ++ toString i ++ "]"

/-- A name up to its first bracket. -/
def bareName (name : String) : String :=
  String.ofList (name.toList.takeWhile (· != '['))

theorem toList_elementName (name : String) (i : Nat) :
    (elementName name i).toList = name.toList ++ '[' :: ((toString i).toList ++ [']']) := by
  simp [elementName]

/-- The elements of an array share the bare name. -/
theorem bareName_elementName {name : String} (h : '[' ∉ name.toList) (i : Nat) :
    bareName (elementName name i) = name := by
  have before : ∀ c ∈ name.toList, (c != '[') = true := by
    intro c hc
    rw [bne_iff_ne]
    rintro rfl
    exact h hc
  rw [bareName, toList_elementName, List.takeWhile_append_of_pos before]
  simp

end Shading.Uniform
