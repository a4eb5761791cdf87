import Shading.Proofs.Session.Tenants
import Shading.Proofs.Session.Run

/-!
# Changes

What a session holds is its world, its programs and its stages. A change is one thing that an
operation can do to it: make a stage or a program, work on one of the programs, or let go of a
stage or of a program, whose stages are then on their own. Every operation is a sequence of
changes, so a property that each change keeps is kept by every operation.
-/

namespace Shading

open Shading.Uniform World

/-- The world with the programs and stages that are held in it, wherever they are held. -/
structure Holdings (δ : Type) (n : Nat) where
  world : World δ n
  programs : Multiset (Program n)
  stages : Multiset (Stage n)

/-- A change, with the program it is done for and what is told of it. -/
inductive Change {δ κ ε : Type} [Device δ κ] [Environment δ κ ε] {n : Nat}
    (i : Fin n) (subject : Option ProgramId) :
    Holdings δ n → List (Deed n κ) → Holdings δ n → Prop
  | compile {w w' programs stages type sources stage record}
      (h : (Stage.new i type sources).run w = ⟨.ok stage, w', record⟩) :
      Change i subject ⟨w, programs, stages⟩ (record.map .recorded)
        ⟨w', programs, stage ::ₘ stages⟩
  | refuse {w w' programs stages type sources e record}
      (h : (Stage.new i type sources).run w = ⟨.error e, w', record⟩) :
      Change i subject ⟨w, programs, stages⟩ (record.map .recorded) ⟨w', programs, stages⟩
  | discard {w w' programs stages stage record}
      (h : (Stage.release stage).run w = ⟨(), w', record⟩) :
      Change i subject ⟨w, programs, stage ::ₘ stages⟩ (record.map .recorded)
        ⟨w', programs, stages⟩
  | assemble {w w' programs given stages p linked record} (nonempty : given ≠ [])
      (h : (within i (Program.assemble i given)).run w = ⟨(p, linked), w', record⟩)
      (about : subject = some p.id) :
      Change i subject ⟨w, programs, ↑given + stages⟩ (record.map .recorded)
        ⟨w', p ::ₘ programs, stages⟩
  | append {w w' programs stages p p' stage done record}
      (h : (within i (p.append stage)).run w = ⟨(p', done), w', record⟩)
      (about : subject = some p.id) :
      Change i subject ⟨w, p ::ₘ programs, stage ::ₘ stages⟩ (record.map .recorded)
        ⟨w', p' ::ₘ programs, stages⟩
  | bind {w w' programs stages p p' done record}
      (h : (within i p.bind).run w = ⟨(p', done), w', record⟩)
      (about : subject = some p.id) :
      Change i subject ⟨w, p ::ₘ programs, stages⟩ (record.map .recorded)
        ⟨w', p' ::ₘ programs, stages⟩
  | unbind {w w' programs stages p p' record}
      (h : (within i p.unbind).run w = ⟨p', w', record⟩)
      (about : subject = some p.id) :
      Change i subject ⟨w, p ::ₘ programs, stages⟩ (record.map .recorded)
        ⟨w', p' ::ₘ programs, stages⟩
  | set {w w' programs stages p name value record}
      (h : (within i (p.setUniform name value).run).run w = ⟨.ok (), w', record⟩)
      (about : subject = some p.id) :
      Change i subject ⟨w, p ::ₘ programs, stages⟩
        (record.map .recorded ++ [.wrote name value.toData]) ⟨w', p ::ₘ programs, stages⟩
  | setFails {w w' programs stages p name value e record}
      (h : (within i (p.setUniform name value).run).run w = ⟨.error e, w', record⟩)
      (about : subject = some p.id) :
      Change i subject ⟨w, p ::ₘ programs, stages⟩ (record.map .recorded)
        ⟨w', p ::ₘ programs, stages⟩
  | get {w w' programs stages p name answer record}
      (h : (within i (p.getUniform name).run).run w = ⟨answer, w', record⟩)
      (about : subject = some p.id) :
      Change i subject ⟨w, p ::ₘ programs, stages⟩ (record.map .recorded)
        ⟨w', p ::ₘ programs, stages⟩
  | isLinked {w w' programs stages p answer record}
      (h : (within i (Context.isLinked p.handle)).run w = ⟨answer, w', record⟩)
      (about : subject = some p.id) :
      Change i subject ⟨w, p ::ₘ programs, stages⟩ (record.map .recorded)
        ⟨w', p ::ₘ programs, stages⟩
  | activeUniforms {w w' programs stages p answer record}
      (h : (within i (Context.activeUniforms p.handle)).run w = ⟨answer, w', record⟩)
      (about : subject = some p.id) :
      Change i subject ⟨w, p ::ₘ programs, stages⟩ (record.map .recorded)
        ⟨w', p ::ₘ programs, stages⟩
  | note {x level text} : Change i subject x [.recorded (.note level text)] x
  | retire {w w' programs stages p record}
      (h : (within p.home p.retire).run w = ⟨(), w', record⟩) :
      Change i subject ⟨w, p ::ₘ programs, stages⟩ (record.map .recorded)
        ⟨w', programs, ↑p.stages + stages⟩
  | react {w w' programs stages answer record} (event : ε)
      (h : (within i (Context.onDevice (Environment.react event))).run w = ⟨answer, w', record⟩) :
      Change i subject ⟨w, programs, stages⟩ (record.map .recorded) ⟨w', programs, stages⟩

/-- Any number of changes in one context, all about one subject. -/
inductive Changes {δ κ ε : Type} [Device δ κ] [Environment δ κ ε] {n : Nat}
    (i : Fin n) (subject : Option ProgramId) :
    Holdings δ n → List (Deed n κ) → Holdings δ n → Prop
  | refl (x) : Changes i subject x [] x
  | step {x y z first rest} (h : Change i subject x first y) (others : Changes i subject y rest z) :
      Changes i subject x (first ++ rest) z

namespace Changes

variable {δ κ ε : Type} [Device δ κ] [Environment δ κ ε] {n : Nat}
variable {i : Fin n} {subject : Option ProgramId} {x y z : Holdings δ n}
variable {first second : List (Deed n κ)}

theorem single (h : Change i subject x first y) : Changes i subject x first y := by
  have hstep := Changes.step h (.refl y)
  rwa [List.append_nil] at hstep

theorem trans (hxy : Changes i subject x first y) (hyz : Changes i subject y second z) :
    Changes i subject x (first ++ second) z := by
  induction hxy with
  | refl x => exact hyz
  | step h others ih =>
    rw [List.append_assoc]
    exact .step h (ih hyz)

end Changes

end Shading
