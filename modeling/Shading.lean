import Shading.Session.Transcript
import Shading.Proofs.InMemory.CurrentProgram
import Shading.Proofs.InMemory.ReadBack
import Shading.Proofs.OpenGL.Switching
import Shading.Proofs.Session.LinkedPrograms
import Shading.Proofs.Session.Traffic
import Shading.Proofs.Uniform.Stages
import Shading.Proofs.OpenGL.Replay
import Shading.Proofs.OpenGL.Deleting
import Shading.Proofs.OpenGL.Uploads
import Shading.Proofs.InMemory.Contexts
import Shading.Proofs.InMemory.Isolation
import Shading.Proofs.Uniform.Union
import Shading.Proofs.Uniform.Reprinting
import Shading.Proofs.Program.Writing
import Shading.Proofs.Session.Appending
import Shading.Proofs.Session.Ledger
import Shading.Proofs.Session.Releasing
import Shading.Proofs.InMemory.Handles
import Shading.Proofs.OpenGL.Handles
import Shading.Proofs.Session.LastAttempt
import Shading.Proofs.Session.Attaching
import Shading.Proofs.InMemory.LinkedUse
import Shading.Proofs.OpenGL.ActiveNames
import Shading.Proofs.Program.Bounds
import Shading.Proofs.InMemory.Refusals
import Shading.Proofs.Text.Ends
import Shading.Proofs.Uniform.Placement
import Shading.Proofs.InMemory.FailedLinks
import Shading.Proofs.InMemory.Rebinding
import Shading.Proofs.InMemory.Construction
import Shading.Proofs.Uniform.Composition
import Shading.Proofs.Uniform.Order
import Shading.Proofs.Uniform.Grammar
import Shading.Proofs.Program.Reading
import Shading.Proofs.Session.ShownTables
import Shading.Proofs.Uniform.Repetition
import Shading.Proofs.Uniform.Wording
import Shading.Proofs.OpenGL.Logs
import Shading.Proofs.Session.HostValues
import Shading.Proofs.Uniform.Decoration
import Shading.Proofs.Uniform.WellFormed
