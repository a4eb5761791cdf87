import Shading.OpenGL.Driver

/-!
# The program in use

A back end remembers which program it put to use, so that a call which would change nothing is not
made. What it remembers can be invalidated when somebody else has used the driver. The state may
be acquired only once; it starts out with what the driver says.
-/

namespace Shading.OpenGL.Backend

variable {γ : Type} [Driver γ]

/-- The back end believes what it has told the driver. -/
def setProgram (program : Nat) : Action Call (Backend γ) Unit := do
  command (Driver.useProgram program) (.useProgram program)
  modify fun b ↦ { b with inUse := some program }

/-- The driver is spared a call if the program is believed to be in use already. -/
def switchProgram (program : Nat) : Action Call (Backend γ) Unit := do
  if (← get).inUse = some program then pure () else setProgram program

/-- Nothing happens if another program is in use, or if it is not known which. -/
def leaveProgram (program : Nat) : Action Call (Backend γ) Unit := do
  if (← get).inUse = some program then setProgram 0 else pure ()

/-- From here on it is not known which program is in use. -/
def invalidateProgram : Action Call (Backend γ) Unit :=
  modify fun b ↦ { b with inUse := none }

/-- The belief is taken from the driver itself. -/
def readProgram : Action Call (Backend γ) Unit := do
  let program ← query Driver.currentProgram .getCurrentProgram
  modify fun b ↦ { b with inUse := some program }

/-- The driver is not even asked once the state has been acquired. -/
def acquire (acquired : Bool) : Action Call (Backend γ) (Except StateError Unit) := do
  if acquired then return .error .unavailable
  else
    readProgram
    return .ok ()

end Shading.OpenGL.Backend
