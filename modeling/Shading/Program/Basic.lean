import Shading.Context
import Shading.Uniform.Source

/-!
# Stages and programs

A stage is a compiled shader together with the context that made it; a program is a growing
sequence of stages. Several contexts may exist, so both know which one will have to release them.
A program counts how many of its stages are attached already, and its mark of being bound can be
out of date, for it is not touched when another program is bound.
-/

namespace Shading

/-- A shader with the context whose device has compiled it. -/
structure Stage (n : Nat) extends Shader where
  home : Fin n
  deriving DecidableEq

namespace Stage

variable {n : Nat}

def listing (s : Stage n) : String :=
  Text.record "Stage" [("ty", s.type.listing), ("source", Text.quote s.source)]

def listingOfAll (stages : List (Stage n)) : String :=
  Text.sequence (stages.map listing)

end Stage

/-- The source of the vertex stage for programs that bring none of their own. -/
def defaultVertexSource : String :=
  "void main(void) \x7b gl_Position = ftransform(); \x7d"

/-- How far a program has come since its stages changed last. -/
inductive LinkState
  | unlinked
  | linked
  | failed
  deriving DecidableEq

/-- Neither the handle nor the number of attached stages is shown. -/
def LinkState.listing : LinkState → String
  | .unlinked => "Unlinked"
  | .linked => "Linked"
  | .failed => "Failed"

/-- A program with its stages, how many of them are attached, and the uniforms they declare. -/
structure Program (n : Nat) where
  id : ProgramId
  handle : Nat
  home : Fin n
  stages : List (Stage n)
  attached : Nat
  linkState : LinkState
  bound : Bool
  uniforms : Uniform.Table

namespace Program

variable {n : Nat}

/-- The sources of all stages in the order of attachment. -/
def source (p : Program n) : String :=
  String.intercalate ";" (p.stages.map fun s ↦ s.source)

/-- A failed attempt to link leaves no uniform behind. -/
def fail (p : Program n) : Program n :=
  { p with linkState := .failed, uniforms := ∅ }

def listing (p : Program n) : String :=
  Text.record "Program"
    [("id", p.id.listing), ("stages", Stage.listingOfAll p.stages),
      ("link_state", p.linkState.listing), ("bound", toString p.bound),
      ("uniforms", p.uniforms.listing)]

end Program

end Shading
