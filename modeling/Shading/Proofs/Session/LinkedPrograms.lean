import Shading.Proofs.Session.Numbers

/-!
# Linked programs

What a program says of itself agrees with what was asked of the device about it. Its stages were
attached in order, up to the number that it keeps. If it is linked, all of them were attached
before the last request to link, that request succeeded, and the table is read from the sources of
all of them. If linking failed, there is no table.
-/

namespace Shading

open Shading.Uniform World

def Request.attaches : Request → Bool
  | attachStage .. => true
  | _ => false

/-- The requests to attach a stage or to link, in order. -/
def linkingRequests (acts : List Act) : List Request :=
  acts.filterMap fun
    | .asked request => if request.links then some request else none
    | .wrote _ _ => none

@[simp] theorem linkingRequests_nil : linkingRequests [] = [] := rfl

@[simp] theorem linkingRequests_append (first second : List Act) :
    linkingRequests (first ++ second) = linkingRequests first ++ linkingRequests second :=
  List.filterMap_append

@[simp] theorem linkingRequests_written (name : String) (data : Data)
    (answer : Except UniformError Unit) : linkingRequests (written name data answer) = [] := by
  cases answer <;> rfl

theorem linkingRequests_map_asked (requests : List Request) :
    linkingRequests (requests.map .asked) = requests.filter Request.links := by
  rw [linkingRequests, List.filterMap_map, ← List.filterMap_eq_filter]
  congr 1

theorem linkingRequests_extend (past : ProgramId → List Act) (subject : Option ProgramId)
    (acts : List Act) (id : ProgramId) :
    linkingRequests (extend past subject acts id) =
      linkingRequests (past id) ++ if subject = some id then linkingRequests acts else [] := by
  unfold extend
  split <;> simp

theorem Program.filter_linkRequests {n : Nat} (p : Program n) (linked : Bool) :
    (p.linkRequests linked).filter Request.links = p.linkRequests linked := by
  rw [List.filter_eq_self]
  intro request hrequest
  rcases Program.eq_of_mem_linkRequests hrequest with ⟨stage, rfl⟩ | rfl <;> rfl

theorem Quiet.linkingRequests_eq_nil {δ κ α : Type} {x : ContextAction δ κ α} (hx : Quiet x)
    (c : Context δ) : linkingRequests (Shading.asked (x.run c).record) = [] := by
  rw [Shading.asked, linkingRequests_map_asked, List.filter_eq_nil_iff]
  intro request hrequest
  rw [(hx c).2 request hrequest]
  exact Bool.false_ne_true

/-- A program that agrees with what was asked of the device about it. -/
structure Accounted {n : Nat} (asked : List Request) (p : Program n) : Prop where
  attached : asked.filter Request.attaches =
    (p.stages.take p.attached).map fun stage ↦ .attachStage p.handle stage.handle
  bounded : p.attached ≤ p.stages.length
  linked (h : p.linkState = .linked) : p.attached = p.stages.length ∧
    parse p.source = .ok p.uniforms ∧ asked.getLast? = some (.linkProgram p.handle true)
  failed (h : p.linkState = .failed) : p.uniforms = ∅ ∧
    (asked.getLast? = some (.linkProgram p.handle false) ∨
      asked.getLast? = some (.linkProgram p.handle true) ∧ ∃ e, parse p.source = .error e)

namespace Accounted

variable {n : Nat} {asked : List Request} {p : Program n}

theorem fresh (id : ProgramId) (handle : Nat) (home : Fin n) (stages : List (Stage n)) :
    Accounted [] (Program.fresh id handle home stages) := by
  refine ⟨rfl, Nat.zero_le _, ?_, ?_⟩
  · rintro ⟨⟩
  · rintro ⟨⟩

theorem grow (h : Accounted asked p) (stage : Stage n) : Accounted asked (p.grow stage) := by
  obtain ⟨hattached, hbounded, -, -⟩ := h
  refine ⟨?_, ?_, ?_, ?_⟩
  · rw [hattached, Program.grow, List.take_append_of_le_length hbounded]
  · rw [Program.grow, List.length_append]
    exact hbounded.trans (Nat.le_add_right _ _)
  · rintro ⟨⟩
  · rintro ⟨⟩

theorem mark (h : Accounted asked p) (bound : Bool) : Accounted asked { p with bound } :=
  ⟨h.attached, h.bounded, h.linked, h.failed⟩

/-- After an attempt to link, every stage was attached. -/
theorem attached_linkRequests (h : Accounted asked p) (linked : Bool) :
    (asked ++ p.linkRequests linked).filter Request.attaches =
      p.stages.map fun stage ↦ .attachStage p.handle stage.handle := by
  have hnew : (p.linkRequests linked).filter Request.attaches =
      (p.stages.drop p.attached).map fun stage ↦ .attachStage p.handle stage.handle := by
    rw [Program.linkRequests, List.filter_append, List.filter_map, List.filter_eq_self.2]
    · simp [Request.attaches]
    · intro stage _
      rfl
  calc (asked ++ p.linkRequests linked).filter Request.attaches
      = (p.stages.take p.attached).map (fun stage ↦ .attachStage p.handle stage.handle) ++
          (p.stages.drop p.attached).map fun stage ↦ .attachStage p.handle stage.handle := by
        rw [List.filter_append, h.attached, hnew]
    _ = p.stages.map fun stage ↦ .attachStage p.handle stage.handle := by
        rw [← List.map_append, List.take_append_drop]

theorem settle (h : Accounted asked p) (answer : Except ProgramError Unit) :
    Accounted (asked ++ p.linkRequests answer.isOk) (p.settle answer).1 := by
  have hattached := h.attached_linkRequests answer.isOk
  have hlast : (asked ++ p.linkRequests answer.isOk).getLast? =
      some (.linkProgram p.handle answer.isOk) := by
    rw [Program.linkRequests, ← List.append_assoc, List.getLast?_concat]
  rcases p.settle_cases answer with ⟨uniforms, rfl, hparse, hsettle⟩ | ⟨e, hcause, hsettle⟩
  · rw [hsettle]
    refine ⟨?_, le_rfl, ?_, ?_⟩
    · rw [hattached, Program.withTable, List.take_length]
    · intro _
      exact ⟨rfl, hparse, hlast⟩
    · rintro ⟨⟩
  · rw [hsettle]
    refine ⟨?_, le_rfl, ?_, ?_⟩
    · rw [hattached, Program.withoutTable, List.take_length]
    · rintro ⟨⟩
    · intro _
      refine ⟨rfl, ?_⟩
      rcases hcause with hrefused | hfault
      · rw [hrefused] at hlast ⊢
        exact .inl hlast
      · cases haccepted : answer.isOk with
        | false =>
          rw [haccepted] at hlast
          exact .inl hlast
        | true =>
          rw [haccepted] at hlast
          exact .inr ⟨hlast, hfault⟩

end Accounted

variable {δ κ ε : Type} [Device δ κ]

/-- What binding makes of a program: it is marked, or it is linked once more. -/
theorem Program.Binds.program_cases {n : Nat} {c c' : Context δ} {p p' : Program n}
    {done : Except ProgramError Unit} {requests : List Request}
    (h : Program.Binds (κ := κ) p c p' done c' requests) :
    (p.linkState = .linked ∧ p' = { p with bound := true } ∧
      requests.filter Request.links = []) ∨
    ∃ answer bound, p.linkState ≠ .linked ∧ p' = { (p.settle answer).1 with bound } ∧
      requests.filter Request.links = p.linkRequests answer.isOk := by
  have huse : ∀ program, [Request.useProgram program].filter Request.links = [] := fun _ ↦ rfl
  cases h with
  | again linked => exact .inl ⟨linked, rfl, huse _⟩
  | linked unlinked accepted parsed =>
    refine .inr ⟨.ok (), true, unlinked, ?_, ?_⟩
    · rw [Program.settle_of_parse parsed]
    · rw [List.filter_append, Program.filter_linkRequests, huse, List.append_nil]
      rfl
  | dropped unlinked settled current =>
    refine .inr ⟨((p.submit : Action κ δ _).run c.device).value, false, unlinked, ?_, ?_⟩
    · rw [settled]
    · rw [List.filter_append, Program.filter_linkRequests, huse, List.append_nil]
  | refused unlinked settled other =>
    refine .inr ⟨((p.submit : Action κ δ _).run c.device).value, false, unlinked, ?_,
      Program.filter_linkRequests _ _⟩
    rw [settled]

/-- A property of a program and of what was asked about it that every step keeps: the program is
made and linked, grows, is marked or unmarked, or is linked once more. -/
structure Upheld (A : List Request → Program 1 → Prop) : Prop where
  made (id : ProgramId) (handle : Nat) (stages : List (Stage 1))
    (answer : Except ProgramError Unit) :
    A ((Program.fresh id handle 0 stages).linkRequests answer.isOk)
      ((Program.fresh id handle 0 stages).settle answer).1
  grown {asked : List Request} {p : Program 1} (h : A asked p) (unmarked : p.bound = false)
    (stage : Stage 1) : A asked (p.grow stage)
  marked {asked : List Request} {p : Program 1} (h : A asked p) (linked : p.linkState = .linked) :
    A asked { p with bound := true }
  unmarked {asked : List Request} {p : Program 1} (h : A asked p) :
    A asked { p with bound := false }
  relinked {asked : List Request} {p q : Program 1} (h : A asked p)
    (same : q = p ∨ ∃ stage, q = p.grow stage) (answer : Except ProgramError Unit) (bound : Bool) :
    A (asked ++ q.linkRequests answer.isOk) { (q.settle answer).1 with bound }

theorem Accounted.upheld : Upheld Accounted where
  made id handle stages answer := (Accounted.fresh id handle 0 stages).settle answer
  grown h _ stage := h.grow stage
  marked h _ := h.mark true
  unmarked h := h.mark false
  relinked h same answer bound := by
    rcases same with rfl | ⟨stage, rfl⟩
    · exact (h.settle answer).mark bound
    · exact ((h.grow stage).settle answer).mark bound

variable [Environment δ κ ε] {A : List Request → Program 1 → Prop}
variable {subject : Option ProgramId} {c c' : Context δ} {programs programs' : Multiset (Program 1)}
variable {acts : List Act} {past : ProgramId → List Act}

/-- Every program has the property together with what was asked about it, and nothing was asked
about numbers that are yet to be given. -/
structure Tracked (A : List Request → Program 1 → Prop) (past : ProgramId → List Act)
    (c : Context δ) (programs : Multiset (Program 1)) : Prop where
  numbered : Numbered c programs
  untouched (id : ProgramId) (h : c.nextId ≤ id.index) : linkingRequests (past id) = []
  holds : ∀ p ∈ programs, A (linkingRequests (past p.id)) p

namespace Tracked

omit [Device δ κ] [Environment δ κ ε]

/-- Acts that link nothing, told of any program, change nothing. -/
theorem extend_quiet (h : Tracked A past c programs) (hacts : linkingRequests acts = [])
    (hnext : c'.nextId = c.nextId) : Tracked A (extend past subject acts) c' programs := by
  have hsame : ∀ id, linkingRequests (extend past subject acts id) = linkingRequests (past id) := by
    intro id
    rw [linkingRequests_extend, hacts]
    split <;> exact List.append_nil _
  refine ⟨⟨h.numbered.distinct, ?_⟩, ?_, ?_⟩
  · rw [hnext]
    exact h.numbered.given
  · intro id hid
    rw [hsame]
    exact h.untouched id (hnext ▸ hid)
  · intro p hp
    rw [hsame]
    exact h.holds p hp

theorem of_le (h : Tracked A past c programs) (hle : programs' ≤ programs) :
    Tracked A past c programs' := by
  refine ⟨⟨?_, ?_⟩, h.untouched, fun p hp ↦ h.holds p (Multiset.mem_of_le hle hp)⟩
  · exact Multiset.nodup_of_le (Multiset.map_le_map hle) h.numbered.distinct
  · intro id hid
    exact h.numbered.given id (Multiset.mem_of_le (Multiset.map_le_map hle) hid)

/-- Acts about one program concern no other one. -/
theorem replace {p p' : Program 1} (h : Tracked A past c (p ::ₘ programs)) (hid : p'.id = p.id)
    (hnext : c'.nextId = c.nextId)
    (hholds : A (linkingRequests (past p.id) ++ linkingRequests acts) p') :
    Tracked A (extend past (some p.id) acts) c' (p' ::ₘ programs) := by
  have hids : (p' ::ₘ programs).map Program.id = (p ::ₘ programs).map Program.id := by
    rw [Multiset.map_cons, Multiset.map_cons, hid]
  refine ⟨⟨hids ▸ h.numbered.distinct, ?_⟩, ?_, ?_⟩
  · rw [hids, hnext]
    exact h.numbered.given
  · intro id hlarge
    have hne : some p.id ≠ some id := by
      rintro ⟨⟩
      have := h.numbered.given p.id (by simp)
      omega
    rw [linkingRequests_extend, if_neg hne, List.append_nil]
    exact h.untouched id (hnext ▸ hlarge)
  · intro q hq
    rcases Multiset.mem_cons.1 hq with rfl | hq
    · rw [linkingRequests_extend, hid, if_pos rfl]
      exact hholds
    · have hne : some p.id ≠ some q.id := by
        intro heq
        exact Slots.ne_of_nodup_map_cons h.numbered.distinct hq (Option.some.inj heq).symm
      rw [linkingRequests_extend, if_neg hne, List.append_nil]
      exact h.holds q (Multiset.mem_cons_of_mem hq)

/-- A program that was made last, with the requests of its first attempt to link. -/
theorem make {q : Program 1} (h : Tracked A past c programs) (hid : q.id = ⟨c.nextId⟩)
    (hnumbered : Numbered c' (q ::ₘ programs)) (hnext : c'.nextId = c.nextId + 1)
    (hholds : A (linkingRequests acts) q) :
    Tracked A (extend past (some ⟨c.nextId⟩) acts) c' (q ::ₘ programs) := by
  refine ⟨hnumbered, ?_, ?_⟩
  · intro id hlarge
    have hne : some (⟨c.nextId⟩ : ProgramId) ≠ some id := by
      rintro ⟨⟩
      simp only at hlarge
      omega
    rw [linkingRequests_extend, if_neg hne, List.append_nil]
    exact h.untouched id (by omega)
  · intro p hp
    rcases Multiset.mem_cons.1 hp with rfl | hp
    · rw [linkingRequests_extend, hid, if_pos rfl, h.untouched ⟨c.nextId⟩ le_rfl, List.nil_append]
      exact hholds
    · rw [linkingRequests_extend, if_neg (h.numbered.next_ne hp), List.append_nil]
      exact h.holds p hp

variable [Device δ κ] [Environment δ κ ε]

theorem of_effect (hA : Upheld A) (hall : Tracked A past c programs)
    (h : Effect (ε := ε) subject c programs acts c' programs') :
    Tracked A (extend past subject acts) c' programs' := by
  have hnumbered := hall.numbered.of_effect h
  cases h with
  | nothing => exact hall.extend_quiet rfl rfl
  | newStage type sources =>
    have hquiet : Quiet (Context.newStage type sources : ContextAction δ κ _) := .ask _ fun _ ↦ rfl
    exact hall.extend_quiet (hquiet.linkingRequests_eq_nil c) (hquiet.nextId_eq c)
  | destroyStage stage =>
    have hquiet : Quiet (Context.destroyStage stage : ContextAction δ κ _) := .ask _ fun _ ↦ rfl
    exact hall.extend_quiet (hquiet.linkingRequests_eq_nil c) (hquiet.nextId_eq c)
  | @make _ p made linked stages nonempty about created fresh submitted =>
    subst about fresh
    apply hall.make (Program.settle_id ..) hnumbered rfl
    rw [linkingRequests_map_asked, List.filter_cons_of_neg Bool.false_ne_true,
      Program.filter_linkRequests]
    exact hA.made ⟨c.nextId⟩ made.value stages linked.value
  | @grow programs p stage unmarked about =>
    subst about
    refine hall.replace rfl rfl ?_
    rw [linkingRequests_nil, List.append_nil]
    exact hA.grown (hall.holds p (Multiset.mem_cons_self _ _)) unmarked stage
  | @bind _ programs p q q' done requests same binds about =>
    subst about
    have hp := hall.holds p (Multiset.mem_cons_self _ _)
    have hid : q.id = p.id := by
      rcases same with rfl | ⟨stage, rfl⟩ <;> rfl
    apply hall.replace (binds.id_eq.trans hid) binds.nextId_eq
    rw [linkingRequests_map_asked]
    rcases binds.program_cases with ⟨linked, rfl, hnone⟩ | ⟨answer, bound, -, rfl, hlink⟩
    · rw [hnone, List.append_nil]
      rcases same with rfl | ⟨stage, rfl⟩
      · exact hA.marked hp linked
      · cases linked
    · rw [hlink]
      exact hA.relinked hp same answer bound
  | @unbind programs p about =>
    subst about
    refine hall.replace rfl rfl ?_
    have hunlinking : linkingRequests [.asked (.useProgram none)] = [] := rfl
    rw [hunlinking, List.append_nil]
    exact hA.unmarked (hall.holds p (Multiset.mem_cons_self _ _))
  | @set programs p name value about =>
    have hquiet := p.quiet_setUniform (δ := δ) (κ := κ) name value
    refine hall.extend_quiet ?_ (hquiet.nextId_eq c)
    rw [linkingRequests_append, hquiet.linkingRequests_eq_nil c, linkingRequests_written]
    rfl
  | @get programs p name about =>
    have hquiet := p.quiet_getUniform (δ := δ) (κ := κ) name
    exact hall.extend_quiet (hquiet.linkingRequests_eq_nil c) (hquiet.nextId_eq c)
  | @isLinked _ p about =>
    have hquiet : Quiet (Context.isLinked p.handle : ContextAction δ κ _) := .ask _ fun _ ↦ rfl
    exact hall.extend_quiet (hquiet.linkingRequests_eq_nil c) (hquiet.nextId_eq c)
  | @activeUniforms _ p about =>
    have hquiet : Quiet (Context.activeUniforms p.handle : ContextAction δ κ _) :=
      .ask _ fun _ ↦ rfl
    exact hall.extend_quiet (hquiet.linkingRequests_eq_nil c) (hquiet.nextId_eq c)
  | retire => exact (hall.of_le (Multiset.le_cons_self _ _)).extend_quiet rfl rfl
  | react event => exact hall.extend_quiet rfl rfl

end Tracked

/-- What every step upholds is true of every program after every run. -/
theorem tracked_after (hA : Upheld A) (device : δ) (moves : List (Move 1 ε)) :
    Tracked A (actsAbout (Session.history moves (.new #v[device])))
      ((Session.after moves (.new #v[device])).world.context 0)
      (Session.after moves (.new #v[device])).programs.tenants := by
  refine Session.holds_of_effects (I := Tracked A) (fun hall h ↦ hall.of_effect hA h) _ ?_ moves
  rw [Session.context_new, Session.tenants_programs_new]
  exact ⟨.new _, fun _ _ ↦ rfl, by simp⟩

theorem holds_of_live (hA : Upheld A) (device : δ) (moves : List (Move 1 ε)) {slot : String}
    {p : Program 1} (live : (Session.after moves (.new #v[device])).programs[slot]? = some p) :
    A (linkingRequests (actsAbout (Session.history moves (.new #v[device])) p.id)) p :=
  (tracked_after hA device moves).holds p (Slots.mem_tenants.2 ⟨slot, live⟩)

end Shading
