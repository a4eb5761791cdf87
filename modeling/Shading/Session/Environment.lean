import Shading.Device.InMemory
import Shading.OpenGL.Backend
import Shading.OpenGL.Scripted

/-!
# Surroundings of a device

What happens to a device from outside: how it is started, which events change it, and which part
of the traffic across its border an observer sees. An observer of the device in memory sees every
request; an observer of a device over OpenGL sees the calls to the driver.
-/

namespace Shading

/-- How a device is started, what may happen to it, and what of its traffic can be observed. -/
class Environment (δ : Type) (κ ε : outParam Type) where
  start : Action κ δ Unit
  react (event : ε) : Action κ δ (Except StateError Unit)
  observe (traffic : Traffic κ) : Option κ

namespace InMemory

def adjust (settings : List Settings.Setting) : Action Request InMemory Unit :=
  modify fun device ↦ { device with settings := settings.foldl Settings.adjust device.settings }

instance : Environment InMemory Request (List Settings.Setting) where
  start := pure ()
  react settings := do
    adjust settings
    return .ok ()
  observe
    | .request request => some request
    | .issued request => some request

end InMemory

namespace OpenGL

/-- What may happen to the back end between two operations. -/
inductive Event
  | adjust (settings : List Script.Setting)
  | acquire
  | invalidate
  | borrow (borrowed : Bool)

namespace Backend

def new (script : Script) : Backend Scripted :=
  ⟨Scripted.new script, none, false⟩

def react : Event → Action Call (Backend Scripted) (Except StateError Unit)
  | .adjust settings => do
    modify fun b ↦
      { b with driver.script := settings.foldl Script.adjust b.driver.script }
    return .ok ()
  | .acquire => acquire true
  | .invalidate => do
    invalidateProgram
    return .ok ()
  | .borrow borrowed => do
    modify fun b ↦ { b with borrowed }
    return .ok ()

instance : Environment (Backend Scripted) Call Event where
  start := readProgram
  react := react
  observe
    | .request _ => none
    | .issued call => some call

end Backend

end OpenGL

end Shading
