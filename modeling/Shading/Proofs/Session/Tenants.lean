import Mathlib.Data.Multiset.MapFold
import Shading.Session.Basic

/-!
# Tenants

Which slot a tenant is in matters to an operation but to no device. The tenants of all slots form
a multiset: filling a slot adds one to it, clearing a slot takes one away, and taking the tenants
of several slots takes away just those.
-/

namespace Shading.Slots

variable {α : Type}

def tenants (slots : Slots α) : Multiset α :=
  (slots.toList.map Prod.snd : List α)

@[simp] theorem tenants_empty : tenants (∅ : Slots α) = 0 := by
  simp [tenants]

theorem nodup_toList (slots : Slots α) : slots.toList.Nodup := by
  have hkeys := Std.ExtTreeMap.distinct_keys_toList (t := slots)
  apply hkeys.imp
  intro a b hab heq
  apply hab
  rw [heq]
  exact Std.ReflCmp.compare_self

theorem mem_tenants {slots : Slots α} {tenant : α} :
    tenant ∈ slots.tenants ↔ ∃ name : String, slots[name]? = some tenant := by
  unfold tenants
  rw [Multiset.mem_coe, List.mem_map]
  constructor
  · rintro ⟨⟨name, found⟩, hmem, rfl⟩
    exact ⟨name, Std.ExtTreeMap.mem_toList_iff_getElem?_eq_some.1 hmem⟩
  · rintro ⟨name, h⟩
    exact ⟨(name, tenant), Std.ExtTreeMap.mem_toList_iff_getElem?_eq_some.2 h, rfl⟩

theorem perm_toList_of_getElem? {slots : Slots α} {name : String} {tenant : α}
    (h : slots[name]? = some tenant) :
    slots.toList.Perm ((name, tenant) :: (slots.erase name).toList) := by
  have habsent : (name, tenant) ∉ (slots.erase name).toList := by
    rw [Std.ExtTreeMap.mem_toList_iff_getElem?_eq_some]
    simp
  rw [List.perm_ext_iff_of_nodup (nodup_toList _)
    (List.nodup_cons.2 ⟨habsent, nodup_toList _⟩)]
  rintro ⟨other, found⟩
  rw [List.mem_cons, Std.ExtTreeMap.mem_toList_iff_getElem?_eq_some,
    Std.ExtTreeMap.mem_toList_iff_getElem?_eq_some, Std.ExtTreeMap.getElem?_erase]
  by_cases hname : name = other
  · subst hname
    simp [h, eq_comm]
  · simp [hname, Ne.symm hname]

theorem tenants_of_getElem? {slots : Slots α} {name : String} {tenant : α}
    (h : slots[name]? = some tenant) :
    slots.tenants = tenant ::ₘ tenants (slots.erase name) := by
  have hperm := (perm_toList_of_getElem? h).map Prod.snd
  exact Multiset.coe_eq_coe.2 hperm

/-- Tenants of two slots that have something in common which all tenants differ in. -/
theorem eq_of_nodup_map {β : Type} {slots : Slots α} {f : α → β}
    (hnodup : (slots.tenants.map f).Nodup) {name other : String} {first second : α}
    (hname : slots[name]? = some first) (hother : slots[other]? = some second)
    (hsame : f first = f second) : name = other := by
  by_contra hne
  have hkept : (slots.erase name)[other]? = some second := by
    rw [Std.ExtTreeMap.getElem?_erase]
    simp [hne, hother]
  rw [tenants_of_getElem? hname, tenants_of_getElem? hkept, Multiset.map_cons, Multiset.map_cons,
    hsame, Multiset.nodup_cons] at hnodup
  exact hnodup.1 (Multiset.mem_cons_self _ _)

/-- A tenant besides one that all others differ from. -/
theorem ne_of_nodup_map_cons {β : Type} {tenants : Multiset α} {first other : α} {f : α → β}
    (hnodup : ((first ::ₘ tenants).map f).Nodup) (hother : other ∈ tenants) :
    f other ≠ f first := by
  rw [Multiset.map_cons, Multiset.nodup_cons] at hnodup
  intro heq
  exact hnodup.1 (heq ▸ Multiset.mem_map_of_mem f hother)

theorem erase_of_getElem?_eq_none {slots : Slots α} {name : String} (h : slots[name]? = none) :
    slots.erase name = slots := by
  apply Std.ExtTreeMap.ext_getElem?
  intro other
  rw [Std.ExtTreeMap.getElem?_erase]
  by_cases hname : name = other
  · subst hname
    simp [h]
  · simp [hname]

theorem erase_insert (slots : Slots α) (name : String) (tenant : α) :
    (slots.insert name tenant).erase name = slots.erase name := by
  apply Std.ExtTreeMap.ext_getElem?
  intro other
  rw [Std.ExtTreeMap.getElem?_erase, Std.ExtTreeMap.getElem?_erase,
    Std.ExtTreeMap.getElem?_insert]
  by_cases hname : name = other <;> simp [hname]

theorem tenants_insert (slots : Slots α) (name : String) (tenant : α) :
    tenants (slots.insert name tenant) = tenant ::ₘ tenants (slots.erase name) := by
  have hfilled : (slots.insert name tenant)[name]? = some tenant := by simp
  rw [tenants_of_getElem? hfilled, erase_insert]

theorem tenants_takeAll {names : List String} {slots rest : Slots α} {taken : List α}
    (h : slots.takeAll names = some (taken, rest)) :
    slots.tenants = ↑taken + rest.tenants := by
  induction names generalizing slots taken with
  | nil =>
    simp only [takeAll, Option.some.injEq, Prod.mk.injEq] at h
    obtain ⟨rfl, rfl⟩ := h
    simp
  | cons name names ih =>
    simp only [takeAll, Option.bind_eq_bind, Option.bind_eq_some_iff, Option.pure_def,
      Option.some.injEq, Prod.mk.injEq, Prod.exists] at h
    obtain ⟨tenant, hname, others, _, hothers, rfl, rfl⟩ := h
    rw [tenants_of_getElem? hname, ih hothers, ← Multiset.cons_coe, Multiset.cons_add]

end Shading.Slots
