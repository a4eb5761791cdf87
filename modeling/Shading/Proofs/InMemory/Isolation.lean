import Shading.Proofs.InMemory.Contexts
import Shading.Proofs.InMemory.Storage

/-!
# Uniform access in several contexts

A context takes a program for its current one if the numbers agree, whichever context gave them.
So what protects a program from being accessed in another context is not that it was never bound
there, but that no program of the same number was: then the access fails before the device is
asked for anything. An access that succeeds reads or writes the program itself, and nothing else,
if every program that was put to use in the context under its number was the program itself.

That is so in its own context as long as programs are only bound where they were made. It need not
be so elsewhere: two contexts give the same numbers, and a program can be accessed in another
context while that context's program of the same number is current.
-/

namespace Shading.InMemory

open Shading.Uniform World Session

variable {n : Nat} {p : Program n} {name : String} {c c' : Context InMemory}

/-- Nothing but the image of the program and what it takes to find it enters into a read. -/
theorem readValue_congr (hcurrent : c'.current = c.current)
    (hsettings : c'.device.settings = c.device.settings)
    (himage : c'.device.programs[p.handle]? = c.device.programs[p.handle]?) :
    p.readValue name c' = p.readValue name c := by
  have hlocation : ∀ other, locationOf p.handle other c'.device =
      locationOf p.handle other c.device := by
    intro other
    rw [locationOf, locationOf, hsettings, himage]
  have hdescribe : p.describe name c' = p.describe name c := by
    rw [Program.describe, Program.describe, himage, Program.isAccessible, Program.isAccessible,
      hcurrent]
  have hlocate : ∀ other, p.locate other c' = p.locate other c := by
    intro other
    rw [Program.locate, Program.locate, hlocation]
  have hplan : p.planRead name c' = p.planRead name c := by
    simp only [Program.planRead, Program.locateElements, hdescribe, hlocate]
  have hcells : ∀ location size, p.cellsAt c' location size = p.cellsAt c location size := by
    intro location size
    rw [Program.cellsAt, Program.cellsAt, query, query, himage]
  simp only [Program.readValue, hplan, Program.readElements, hcells]

/-- A write that succeeds rewrites the storage of the program in use. -/
theorem afterWrite_of_current (plan : Int × Nat × Upload) {image : Image}
    (hcurrent : c.device.current = some p.handle)
    (himage : c.device.programs[p.handle]? = some image) :
    ∃ storage, Program.afterWrite c (.ok plan) =
      { c with
        device :=
          { c.device with
            programs := c.device.programs.insert p.handle { image with storage } } } := by
  obtain ⟨location, count, upload⟩ := plan
  obtain ⟨storage, hstorage⟩ := exists_upload_eq location count upload image
  refine ⟨storage, ?_⟩
  simp only [Program.afterWrite, afterUpload, hcurrent, updateProgram, himage, hstorage]

section Slot

variable {s : Session InMemory n} {slot : String} {i : Fin n}

/-- A write that succeeds is one to a current program. If it is in use, its storage changes. -/
theorem set_of_ok (live : s.programs[slot]? = some p) {value : HostValue} {reply : Shading.Reply}
    (hreply : ((perform i (.set slot name value)).run s).value = .ok reply) :
    let c := context i s.world
    c.current = some p.id ∧ (c.device.current = some p.handle →
      ∃ image storage, c.device.programs[p.handle]? = some image ∧
        ((perform i (.set slot name value)).run s).state =
          { s with
            world := s.world.set i
              { c with
                device :=
                  { c.device with
                    programs := c.device.programs.insert p.handle { image with storage } } }
              i.isLt }) := by
  intro c
  obtain ⟨hvalue, hstate⟩ := p.yields_setUniform name c value
  rw [run_set live] at hreply ⊢
  cases hplan : p.planWrite name c value.toData with
  | error e =>
    rw [hplan] at hvalue
    rw [hvalue] at hreply
    cases hreply
  | ok plan =>
    obtain ⟨d, wide, hd, hl, -⟩ := Program.of_planWrite_eq_ok hplan
    refine ⟨(Program.of_describe_eq_ok hd).1, fun hinUse ↦ ?_⟩
    obtain ⟨image, himage, -⟩ := Program.of_locate_eq_ok hl
    obtain ⟨storage, hstorage⟩ := afterWrite_of_current plan hinUse himage
    refine ⟨image, storage, himage, ?_⟩
    rw [hstate, hplan, hstorage]

/-- A read that succeeds is one of a current program. It changes nothing, and depends on the image
of the program and on nothing else. -/
theorem get_of_ok (live : s.programs[slot]? = some p) {reply : Shading.Reply}
    (hreply : ((perform i (.get slot name)).run s).value = .ok reply) :
    let c := context i s.world
    c.current = some p.id ∧ ((perform i (.get slot name)).run s).state = s ∧
      ∀ s' : Session InMemory n, s'.programs[slot]? = some p →
        (context i s'.world).current = c.current →
        (context i s'.world).device.settings = c.device.settings →
        (context i s'.world).device.programs[p.handle]? = c.device.programs[p.handle]? →
          ((perform i (.get slot name)).run s').value = .ok reply := by
  intro c
  obtain ⟨hvalue, hstate⟩ := p.yields_getUniform name c
  rw [run_get live] at hreply ⊢
  have hcurrent : c.current = some p.id := by
    cases hread : p.readValue name c with
    | error e =>
      rw [hread] at hvalue
      rw [hvalue] at hreply
      cases hreply
    | ok value =>
      obtain ⟨⟨d, locations⟩, hplan, -⟩ := Program.of_bind_eq_ok hread
      obtain ⟨first, others, hd, -⟩ := Program.of_planRead_eq_ok hplan
      exact (Program.of_describe_eq_ok hd).1
  refine ⟨hcurrent, by rw [hstate, set_context_self], ?_⟩
  intro s' live' hsame hsettings himage
  rw [run_get live', (p.yields_getUniform name (context i s'.world)).1,
    readValue_congr hsame hsettings himage, ← hvalue]
  exact hreply

/-- A program that is not current is refused before the device is asked for anything. -/
theorem run_access_of_not_current (live : s.programs[slot]? = some p)
    (hcurrent : (context i s.world).current ≠ some p.id) (name : String) :
    (∀ value, (perform i (.set slot name value)).run s = ⟨.error (.uniform .unbound), s, []⟩) ∧
      (perform i (.get slot name)).run s = ⟨.error (.uniform .unbound), s, []⟩ := by
  have hdenied : p.isAccessible (context i s.world) = false := by
    simp [Program.isAccessible, hcurrent]
  obtain ⟨hset, hget⟩ := Program.run_access_of_not_accessible (κ := Request) name hdenied
  constructor
  · intro value
    rw [run_set live, hset value, set_context_self]
    rfl
  · rw [run_get live, hget, set_context_self]
    rfl

end Slot

variable (devices : Vector InMemory n) (moves : List (Move n (List Settings.Setting)))

theorem told_after :
    Told (history moves (Session.new devices)) (after moves (Session.new devices)).world
        ((after moves (Session.new devices)).programs.tenants.map identity) ∧
      Current (history moves (Session.new devices)) (after moves (Session.new devices)).world
        ((after moves (Session.new devices)).programs.tenants.map identity) := by
  refine holds_after (I := fun log x ↦ Told log x.world (x.programs.map identity) ∧
    Current log x.world (x.programs.map identity)) ?_ _ ?_ moves
  · rintro log x i subject deeds y ⟨htold, hcurrent⟩ hchange
    have hdone := done_of_change hchange
    exact ⟨htold.of_done hdone, hcurrent.of_done htold hdone⟩
  · have hnone : (Session.new devices).holdings.programs = 0 := Slots.tenants_empty
    rw [hnone, Multiset.map_zero]
    refine ⟨⟨Multiset.nodup_zero, ?_, ?_, ?_, ?_⟩, ?_⟩
    · exact fun _ _ _ h ↦ absurd h (Multiset.notMem_zero _)
    · exact fun _ _ _ h ↦ absurd h (Multiset.notMem_zero _)
    · exact fun _ _ _ h ↦ absurd h List.not_mem_nil
    · exact fun _ _ _ _ h ↦ absurd h List.not_mem_nil
    · intro i id hid
      simp [holdings, Session.new, context, Context.new] at hid

variable {devices moves} {slot : String} {i : Fin n}

/-- Programs that are only bound where they were made are put to use under their own handle. -/
theorem used_home (live : (after moves (Session.new devices)).programs[slot]? = some p)
    (tidy : ∀ i id handle, Used (history moves (Session.new devices)) i id handle →
      Made (history moves (Session.new devices)) i id handle) {handle : Nat}
    (hused : Used (history moves (Session.new devices)) p.home p.id handle) :
    handle = p.handle := by
  obtain ⟨htold, -⟩ := told_after devices moves
  have hp : (p.home, p.id, p.handle) ∈
      (after moves (Session.new devices)).programs.tenants.map identity :=
    Multiset.mem_map_of_mem identity (Slots.mem_tenants.2 ⟨slot, live⟩)
  exact htold.once _ _ _ _ (htold.made _ _ _ hp) (tidy _ _ _ hused)

/-- A program that is current in a context is in use there, unless another one of its number was
put to use there. -/
theorem inUse_of_current (live : (after moves (Session.new devices)).programs[slot]? = some p)
    (own : ∀ handle, Used (history moves (Session.new devices)) i p.id handle →
      i = p.home ∧ handle = p.handle)
    (hcurrent : (context i (after moves (Session.new devices)).world).current = some p.id) :
    i = p.home ∧
      (context i (after moves (Session.new devices)).world).device.current = some p.handle := by
  obtain ⟨handle, hused, halive⟩ := (told_after devices moves).2 i p.id hcurrent
  obtain ⟨rfl, rfl⟩ := own handle hused
  have hp : (p.home, p.id, p.handle) ∈
      (after moves (Session.new devices)).programs.tenants.map identity :=
    Multiset.mem_map_of_mem identity (Slots.mem_tenants.2 ⟨slot, live⟩)
  exact ⟨rfl, halive.resolve_right fun h ↦ h.2 p.id hp⟩

/-- An access that succeeds in a context where no other program of the same number was put to use
is one in the program's own context and to the program alone: a write changes its storage and
nothing else, and a read depends on its image and on nothing else. An access in a context where no
program of that number was put to use fails without any request. -/
theorem access_confined (live : (after moves (Session.new devices)).programs[slot]? = some p)
    (own : ∀ handle, Used (history moves (Session.new devices)) i p.id handle →
      i = p.home ∧ handle = p.handle) :
    let s := after moves (Session.new devices)
    let c := context i s.world
    (∀ name value reply, ((perform i (.set slot name value)).run s).value = .ok reply →
      i = p.home ∧ c.device.current = some p.handle ∧
        ∃ image storage, c.device.programs[p.handle]? = some image ∧
          ((perform i (.set slot name value)).run s).state =
            { s with
              world := s.world.set i
                { c with
                  device :=
                    { c.device with
                      programs :=
                        c.device.programs.insert p.handle { image with storage } } }
                i.isLt }) ∧
    (∀ name reply, ((perform i (.get slot name)).run s).value = .ok reply →
      i = p.home ∧ c.device.current = some p.handle ∧
        ((perform i (.get slot name)).run s).state = s ∧
        ∀ s' : Session InMemory n, s'.programs[slot]? = some p →
          (context i s'.world).current = c.current →
          (context i s'.world).device.settings = c.device.settings →
          (context i s'.world).device.programs[p.handle]? = c.device.programs[p.handle]? →
            ((perform i (.get slot name)).run s').value = .ok reply) ∧
    ((∀ handle, ¬ Used (history moves (Session.new devices)) i p.id handle) → ∀ name,
      (∀ value, (perform i (.set slot name value)).run s = ⟨.error (.uniform .unbound), s, []⟩) ∧
        (perform i (.get slot name)).run s = ⟨.error (.uniform .unbound), s, []⟩) := by
  intro s c
  refine ⟨?_, ?_, ?_⟩
  · intro name value reply hreply
    obtain ⟨hcurrent, hwritten⟩ := set_of_ok live hreply
    obtain ⟨hhome, hinUse⟩ := inUse_of_current live own hcurrent
    exact ⟨hhome, hinUse, hwritten hinUse⟩
  · intro name reply hreply
    obtain ⟨hcurrent, hread⟩ := get_of_ok live hreply
    obtain ⟨hhome, hinUse⟩ := inUse_of_current live own hcurrent
    exact ⟨hhome, hinUse, hread⟩
  · intro hunused name
    refine run_access_of_not_current live ?_ name
    intro hcurrent
    obtain ⟨handle, hused, -⟩ := (told_after devices moves).2 i p.id hcurrent
    exact hunused handle hused

/-- Two contexts, each with a current program of its own. Both programs have the same number and
the same handle. -/
def twinRun : List (Move 2 (List Settings.Setting)) :=
  [.perform 0 (.ofSources "first" "uniform int count;" ""),
    .perform 1 (.ofSources "second" "uniform int count;" ""), .perform 0 (.bind "first"),
    .perform 1 (.bind "second")]

def twinDevices : Vector InMemory 2 :=
  #v[new .blank, new .blank]

/-- Whether an answer is a reply. -/
def succeeds : Answer → Bool
  | .ok _ => true
  | .error _ => false

theorem exists_reply_of_succeeds {answer : Answer} (h : succeeds answer = true) :
    ∃ reply, answer = .ok reply := by
  cases answer with
  | ok reply => exact ⟨reply, rfl⟩
  | error e => cases h

theorem access_confined_twinRun :
    let s := after twinRun (Session.new twinDevices)
    ∃ p, s.programs["first"]? = some p ∧
      succeeds ((perform 0 (.set "first" "count" (.data (.ints [9])))).run s).value = true ∧
      (0 : Fin 2) = p.home ∧ (context 0 s.world).device.current = some p.handle := by
  intro s
  have hidentity : s.programs["first"]?.map identity = some (0, ⟨0⟩, 3) := by
    decide +kernel
  have huses : uses (history twinRun (Session.new twinDevices)) = [(0, ⟨0⟩, 3), (1, ⟨0⟩, 3)] := by
    decide +kernel
  have hset : succeeds
      ((perform 0 (.set "first" "count" (.data (.ints [9])))).run s).value = true := by
    decide +kernel
  obtain ⟨p, live, hp⟩ := Option.map_eq_some_iff.1 hidentity
  obtain ⟨hhome, hrest⟩ := Prod.mk.inj hp
  obtain ⟨hid, hhandle⟩ := Prod.mk.inj hrest
  have own : ∀ handle, Used (history twinRun (Session.new twinDevices)) 0 p.id handle →
      0 = p.home ∧ handle = p.handle := by
    intro handle h
    rw [used_iff_mem_uses, huses, hid] at h
    rw [hhome, hhandle]
    simpa using h
  obtain ⟨reply, hreply⟩ := exists_reply_of_succeeds hset
  obtain ⟨hown, hinUse, -⟩ := (access_confined live own).1 _ _ _ hreply
  exact ⟨p, live, hset, hown, hinUse⟩

/-- A write can succeed in a context that the program was never bound in. -/
theorem not_forall_access_confined :
    ¬ ∀ (devices : Vector InMemory 2) (moves : List (Move 2 (List Settings.Setting)))
      (slot : String) (p : Program 2) (i : Fin 2) (name : String) (value : HostValue)
      (reply : Shading.Reply),
      (after moves (Session.new devices)).programs[slot]? = some p →
        ((perform i (.set slot name value)).run (after moves (Session.new devices))).value =
            .ok reply →
          i = p.home := by
  intro h
  have hhome : (after twinRun (Session.new twinDevices)).programs["first"]?.map Program.home =
      some 0 := by
    decide +kernel
  have hset : succeeds ((perform 1 (.set "first" "count" (.data (.ints [9])))).run
      (after twinRun (Session.new twinDevices))).value = true := by
    decide +kernel
  obtain ⟨p, live, hp⟩ := Option.map_eq_some_iff.1 hhome
  obtain ⟨reply, hreply⟩ := exists_reply_of_succeeds hset
  have hone : (1 : Fin 2) = p.home := h _ _ _ p 1 _ _ _ live hreply
  rw [hp] at hone
  exact absurd hone (by decide)

end Shading.InMemory
