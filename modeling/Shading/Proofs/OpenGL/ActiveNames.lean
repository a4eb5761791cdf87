import Shading.Proofs.OpenGL.Replay
import Shading.Proofs.Program.Failing
import Shading.Proofs.Session.ShownTables
import Shading.Proofs.Text.Utf8
import Shading.Proofs.Uniform.Entries

/-!
# Active names

A driver names an active array by its first element, while a table names it by the word in front of
the bracket. The names of a driver come through one buffer, whatever an earlier name has left in it,
and lose the index of a first element behind them. As no name of a table has a bracket, the two
conventions agree: a declared uniform counts as active just if the driver reported its name, with or
without that index.
-/

namespace Shading

open Shading.Uniform World

namespace OpenGL

namespace Backend

/-- The index of the first element goes. -/
theorem dropFirstIndex_append (name : List Char) :
    dropFirstIndex (name ++ firstElementSuffix) = name := by
  rw [dropFirstIndex, if_pos (List.suffix_append name _), List.length_append,
    Nat.add_sub_cancel, List.take_left' rfl]

theorem dropFirstIndex_of_not_suffix {name : List Char} (h : ¬firstElementSuffix <:+ name) :
    dropFirstIndex name = name :=
  if_neg h

/-- A name without the index of a first element behind it. -/
def withoutFirstIndex (name : String) : String :=
  String.ofList (dropFirstIndex name.toList)

/-- A name that was encoded is read back, without the index. -/
theorem uniformName_encode (name : String) :
    uniformName (Text.encode name.toList) = withoutFirstIndex name := by
  rw [uniformName, Text.decode_encode, withoutFirstIndex]

/-- Two reported names only become a name that has no bracket: itself, and its first element. -/
theorem withoutFirstIndex_eq_iff {name : String} (h : '[' ∉ name.toList) (reported : String) :
    withoutFirstIndex reported = name ↔ reported = name ∨ reported = name ++ "[0]" := by
  constructor
  · rintro rfl
    by_cases hsuffix : firstElementSuffix <:+ reported.toList
    · obtain ⟨front, hfront⟩ := hsuffix
      right
      rw [withoutFirstIndex, ← hfront, dropFirstIndex_append, ← String.toList_inj,
        String.toList_append, String.toList_ofList, ← hfront]
      rfl
    · left
      rw [withoutFirstIndex, dropFirstIndex_of_not_suffix hsuffix, String.ofList_toList]
  · rintro (rfl | rfl)
    · have hnone : ¬firstElementSuffix <:+ reported.toList :=
        fun hsuffix ↦ h (hsuffix.subset (by decide))
      rw [withoutFirstIndex, dropFirstIndex_of_not_suffix hnone, String.ofList_toList]
    · have happend : (name ++ "[0]").toList = name.toList ++ firstElementSuffix :=
        String.toList_append
      rw [withoutFirstIndex, happend, dropFirstIndex_append, String.ofList_toList]

/-- A name without brackets is listed just if it, or its first element, was reported. -/
theorem mem_map_withoutFirstIndex_iff {name : String} (h : '[' ∉ name.toList)
    (names : List String) :
    name ∈ names.map withoutFirstIndex ↔ name ∈ names ∨ name ++ "[0]" ∈ names := by
  rw [List.mem_map]
  constructor
  · rintro ⟨reported, hmem, heq⟩
    rcases (withoutFirstIndex_eq_iff h reported).1 heq with rfl | rfl
    · exact .inl hmem
    · exact .inr hmem
  · rintro (hmem | hmem)
    · exact ⟨name, hmem, (withoutFirstIndex_eq_iff h _).2 (.inl rfl)⟩
    · exact ⟨name ++ "[0]", hmem, (withoutFirstIndex_eq_iff h _).2 (.inr rfl)⟩

/-- What an earlier name has left in the buffer is not read. -/
theorem take_overwrite {size : Nat} {written : List UInt8} (h : written.length < size)
    (front : List UInt8) : (overwrite size written front).take written.length = written := by
  rw [overwrite, List.take_take, Nat.min_eq_left h.le, List.take_left' rfl]

variable {γ : Type} [Driver γ]

/-- A driver that reports names as it should: it tells how many there are, and a length that is
enough for each of them and its terminator, and it writes what fits in front of the terminator. -/
structure Reports (program : Nat) (names : List String) (driver : γ) : Prop where
  count : Driver.programParameter program .activeUniforms driver = names.length
  longest : ∀ name ∈ names, ((Text.encode name.toList).length + 1 : Int) ≤
    Driver.programParameter program .activeUniformMaxLength driver
  written : ∀ (index size : Nat) (name : String), names[index]? = some name →
    Driver.activeUniform program index size driver = (Text.encode name.toList).take (size - 1)

omit [Driver γ] in
theorem run_query {α : Type} (f : γ → α) (call : α → Call) (b : Backend γ) :
    (query f call).run b = ⟨f b.driver, b, [.call (call (f b.driver))]⟩ := rfl

/-- Names are read back whole where the buffer has room for each. -/
theorem value_readNames {program size : Nat} {names : List String} {b : Backend γ}
    (reported : Reports program names b.driver)
    (hsize : ∀ name ∈ names, (Text.encode name.toList).length < size)
    (before : List String) {rest : List String} (hsplit : names = before ++ rest)
    (front : List UInt8) :
    ((readNames program size (List.range' before.length rest.length) front).run b).value =
      rest.map withoutFirstIndex := by
  induction rest generalizing before front with
  | nil => rfl
  | cons name rest ih =>
    have hname : names[before.length]? = some name := by
      rw [hsplit, List.getElem?_append_right (Nat.le_refl _), Nat.sub_self]
      rfl
    have hfits : (Text.encode name.toList).length < size :=
      hsize name (List.mem_of_getElem? hname)
    have hwritten : Driver.activeUniform program before.length size b.driver =
        Text.encode name.toList := by
      rw [reported.written _ _ _ hname, List.take_of_length_le (Nat.le_sub_one_of_lt hfits)]
    have hothers := ih (before ++ [name]) (by rw [hsplit, List.append_assoc]; rfl)
    rw [List.length_append, List.length_singleton] at hothers
    rw [List.length_cons, List.range'_succ, readNames]
    simp only [Action.run_bind, run_query, Action.run_pure, hwritten, take_overwrite hfits,
      uniformName_encode, hothers, List.map_cons]

/-- The list is what the driver reports, without indices. -/
theorem value_activeUniforms {program : Nat} {names : List String} {b : Backend γ}
    (reported : Reports program names b.driver) :
    ((activeUniforms program).run b).value = names.map withoutFirstIndex := by
  have hsize : ∀ name ∈ names, (Text.encode name.toList).length <
      (max (Driver.programParameter program .activeUniformMaxLength b.driver) 1).toNat := by
    intro name hname
    have := reported.longest name hname
    omega
  have hnames := value_readNames reported hsize [] rfl []
  rw [activeUniforms]
  simp only [Action.run_bind, run_query, Action.run_note, Action.run_pure, reported.count,
    Int.toNat_natCast, List.range_eq_range']
  exact hnames

section Access

variable {n : Nat} {p : Program n} {c : Context (Backend γ)} {names : List String} {name : String}
  {d : Descriptor}

theorem value_context_activeUniforms (reported : Reports p.handle names c.device.driver) :
    ((Context.activeUniforms p.handle : ContextAction (Backend γ) Call _).run c).value =
      names.map withoutFirstIndex := by
  have hactive : (Device.activeUniforms p.handle : Action Call (Backend γ) _) =
      activeUniforms p.handle := rfl
  rw [Context.activeUniforms, Context.run_ask, hactive, value_activeUniforms reported]

theorem value_accessibleDescriptor_of_reports
    (reported : Reports p.handle names c.device.driver) (hbare : '[' ∉ name.toList)
    (hd : p.uniforms[name]? = some d) :
    ((p.accessibleDescriptor name : AccessAction (Backend γ) Call _).run.run c).value =
      if p.isAccessible c then
        if name ∈ names ∨ name ++ "[0]" ∈ names then .ok d else .error (.notActive name)
      else .error .unbound := by
  rw [Program.value_accessibleDescriptor, value_context_activeUniforms reported, hd]
  simp only [mem_map_withoutFirstIndex_iff hbare]

/-- An access is refused as not active just if the driver reports the name in neither form. -/
theorem accessibleDescriptor_eq_notActive_iff
    (reported : Reports p.handle names c.device.driver) (hbare : '[' ∉ name.toList)
    (hd : p.uniforms[name]? = some d) :
    ((p.accessibleDescriptor name : AccessAction (Backend γ) Call _).run.run c).value =
        .error (.notActive name) ↔
      p.isAccessible c = true ∧ ¬(name ∈ names ∨ name ++ "[0]" ∈ names) := by
  rw [value_accessibleDescriptor_of_reports reported hbare hd]
  split
  · rename_i haccess
    split
    · rename_i hmem
      simp [hmem]
    · rename_i hmem
      simp [haccess, hmem]
  · rename_i haccess
    simp [haccess]

end Access

variable {ε : Type} [Environment (Backend γ) Call ε]

/-- What the driver reports is what an access takes for active: the names come out in order, without
the index of a first element, and a declared uniform passes the check of a write or a read just if
its name was reported, with or without that index. -/
theorem active_names_agree (driver : γ) (moves : List (Move 1 ε)) {slot : String} {p : Program 1}
    (live : (Session.after moves (.new #v[opened driver])).programs[slot]? = some p)
    {names : List String}
    (reported : Reports p.handle names
      (context 0 (Session.after moves (.new #v[opened driver])).world).device.driver) :
    let c := context 0 (Session.after moves (.new #v[opened driver])).world
    ((Context.activeUniforms p.handle : ContextAction (Backend γ) Call _).run c).value =
        names.map withoutFirstIndex ∧
      ∀ (name : String) (d : Descriptor), p.uniforms[name]? = some d →
        ((p.accessibleDescriptor name : AccessAction (Backend γ) Call _).run.run c).value =
          (if p.isAccessible c then
            if name ∈ names ∨ name ++ "[0]" ∈ names then .ok d else .error (.notActive name)
          else .error .unbound) ∧
        (∀ value : HostValue,
          ((p.setUniform name value : AccessAction (Backend γ) Call _).run.run c).value =
              .error (.notActive name) ↔
            p.isAccessible c = true ∧ ¬(name ∈ names ∨ name ++ "[0]" ∈ names)) ∧
        (((p.getUniform name : AccessAction (Backend γ) Call _).run.run c).value =
            .error (.notActive name) ↔
          p.isAccessible c = true ∧ ¬(name ∈ names ∨ name ++ "[0]" ∈ names)) := by
  refine ⟨value_context_activeUniforms reported, ?_⟩
  intro name d hd
  obtain ⟨source, hparse⟩ := exists_parse_eq_ok #v[opened driver] moves live
  have hbare := (isName_and_isReadable_of_parse hparse hd).1.bare
  have hcheck := accessibleDescriptor_eq_notActive_iff reported hbare hd
  exact ⟨value_accessibleDescriptor_of_reports reported hbare hd,
    fun value ↦ (Program.setUniform_eq_error_iff rfl).trans hcheck,
    (Program.getUniform_eq_error_iff rfl).trans hcheck⟩

/-- A scripted driver reports the names of its script, unless the script overrides the count or the
length. -/
theorem reports_scripted {driver : Scripted} {names : List String}
    (active : driver.script.active = names.map fun name ↦ Text.encode name.toList)
    (count : driver.script.activeCount = none) (longest : driver.script.nameMax = none)
    (program : Nat) : Reports program names driver := by
  refine ⟨?_, ?_, ?_⟩
  · change driver.script.activeCount.getD driver.script.active.length = names.length
    rw [count, active, List.length_map]
    rfl
  · intro name hname
    let lengths := driver.script.active.map fun octets ↦ octets.length + 1
    have hmem : (Text.encode name.toList).length + 1 ∈ lengths :=
      List.mem_map.2 ⟨_, by rw [active]; exact List.mem_map_of_mem hname, rfl⟩
    change _ ≤ driver.script.nameMax.getD ((lengths.max?.getD 0 : Nat) : Int)
    rw [longest]
    exact Int.ofNat_le.2 (List.le_max?_getD_of_mem hmem)
  · intro index size name hname
    change (driver.script.active[index]?.getD []).take (size - 1) = _
    rw [active, List.getElem?_map, hname]
    rfl

/-- One of the names is that of an array. -/
def lampNames : List String :=
  ["lights[0]", "hue", "engineClock", "sky"]

def lampDriver : Scripted :=
  .new { Script.blank with active := lampNames.map fun name ↦ Text.encode name.toList }

def lampRun : List (Move 1 Event) :=
  [.here (.ofSources "lamp" "uniform vec2 lights[2]; uniform float hue;" "uniform int spare;"),
    .here (.bind "lamp")]

theorem active_names_agree_lampRun :
    ∃ p : Program 1,
      let s := Session.after lampRun (.new #v[opened lampDriver])
      s.programs["lamp"]? = some p ∧
        Reports p.handle lampNames (context 0 s.world).device.driver ∧
        ((Context.activeUniforms p.handle : ContextAction (Backend Scripted) Call _).run
          (context 0 s.world)).value = ["lights", "hue", "engineClock", "sky"] ∧
        ((p.accessibleDescriptor "lights" : AccessAction (Backend Scripted) Call _).run.run
          (context 0 s.world)).value = .ok ⟨.vector, .float, .two, 2⟩ ∧
        ((p.getUniform "spare" : AccessAction (Backend Scripted) Call _).run.run
          (context 0 s.world)).value = .error (.notActive "spare") := by
  have hshown : (Session.after lampRun (.new #v[opened lampDriver])).programs["lamp"]?.map
      (fun p ↦ (p.isAccessible
          (context 0 (Session.after lampRun (.new #v[opened lampDriver])).world),
        p.uniforms["lights"]?, p.uniforms["spare"]?)) =
      some (true, some ⟨.vector, .float, .two, 2⟩, some ⟨.scalar, .int, .one, 1⟩) := by
    decide +kernel
  obtain ⟨p, live, hp⟩ := Option.map_eq_some_iff.1 hshown
  obtain ⟨haccess, hentries⟩ := Prod.mk.inj hp
  obtain ⟨hlights, hspare⟩ := Prod.mk.inj hentries
  have reported : Reports p.handle lampNames
      (context 0 (Session.after lampRun (.new #v[opened lampDriver])).world).device.driver :=
    reports_scripted (by decide +kernel) (by decide +kernel) (by decide +kernel) p.handle
  have hagree := active_names_agree lampDriver lampRun live reported
  refine ⟨p, live, reported, ?_, ?_, ?_⟩
  · rw [hagree.1]
    decide +kernel
  · rw [(hagree.2 "lights" _ hlights).1, if_pos haccess, if_pos (by decide)]
  · exact (hagree.2 "spare" _ hspare).2.2.2 ⟨haccess, by decide⟩

end Backend

end OpenGL

end Shading
