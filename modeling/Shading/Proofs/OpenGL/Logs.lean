import Mathlib.Data.List.DropRight
import Shading.Proofs.OpenGL.Handles
import Shading.Proofs.Text.Utf8

/-!
# Logs of a driver

A driver tells how long its log is, a terminator included, and writes the log and the terminator
into a buffer of that length, which was full of zeros before. It may ask for more room than it
needs. The terminator and all the room behind it read as zeros at the end of the text, and these are
all that is taken away, so a log that does not itself end in a zero comes out as it is.
-/

namespace Shading.OpenGL.Backend

/-- The length that a driver announces: enough for the log and its terminator. A log that is empty
may have the length zero, without a terminator. -/
def HasRoom (size : Int) (log : String) : Prop :=
  log = "" ∧ size = 0 ∨ (Text.encode log.toList).length < size

/-- What a driver writes into a buffer: the octets for which there is room in front of a terminator,
and the terminator. -/
def terminated (size : Int) (log : String) : List UInt8 :=
  if 0 < size then (Text.encode log.toList).take (size.toNat - 1) ++ [0] else []

/-- The zeros behind a text go, and nothing of the text. -/
theorem dropZeros_append_zeros {text : List Char} (h : text.getLast? ≠ some '\x00') (k : Nat) :
    dropZeros (text ++ List.replicate k '\x00') = text := by
  have hzeros : ∀ c ∈ (List.replicate k '\x00').reverse, (c == '\x00') = true := by
    intro c hc
    rw [List.eq_of_mem_replicate (List.mem_reverse.1 hc)]
    rfl
  have hkept : text.rdropWhile (· == '\x00') = text := by
    rw [List.rdropWhile_eq_self_iff]
    intro hne hlast
    exact h (by rw [List.getLast?_eq_some_getLast hne, eq_of_beq hlast])
  rw [dropZeros, List.reverse_append, List.dropWhile_append_of_pos hzeros]
  exact hkept

/-- A zero is one octet. -/
theorem encode_replicate_zero (k : Nat) :
    Text.encode (List.replicate k '\x00') = List.replicate k 0 := by
  induction k with
  | zero => rfl
  | succ k ih =>
    have hzero : Text.encode ['\x00'] = [0] := by decide
    rw [List.replicate_succ, List.replicate_succ, ← List.singleton_append, Text.encode_append, ih,
      hzero, List.singleton_append]

section

variable {size : Int} {log : String}

/-- The terminator cannot be told from the zeros behind it. -/
theorem buffer_terminated (h : (Text.encode log.toList).length < size) :
    buffer size (terminated size log) =
      Text.encode (log.toList ++
        List.replicate (size.toNat - (Text.encode log.toList).length) '\x00') := by
  generalize hoctets : Text.encode log.toList = octets at h
  have hwritten : terminated size log = octets ++ [0] := by
    rw [terminated, if_pos (by omega), hoctets, List.take_of_length_le (by omega)]
  obtain ⟨room, hroom⟩ : ∃ room, size.toNat = octets.length + 1 + room :=
    Nat.exists_eq_add_of_le (by omega)
  have hlength : (octets ++ [0]).length = octets.length + 1 := by simp
  have hbehind : octets.length + 1 + room - octets.length = room + 1 := by omega
  rw [Text.encode_append, encode_replicate_zero, hoctets, buffer, hwritten, hroom, hlength,
    Nat.add_sub_cancel_left, hbehind, List.take_of_length_le (by rw [hlength]; omega),
    List.append_assoc, List.replicate_succ, List.singleton_append]

/-- A log is read back from a buffer with room to spare. -/
theorem logText_terminated (hroom : HasRoom size log)
    (hend : log.toList.getLast? ≠ some '\x00') : logText size (terminated size log) = log := by
  rcases hroom with ⟨rfl, rfl⟩ | hroom
  · decide +kernel
  · rw [logText, buffer_terminated hroom, Text.decode_encode, dropZeros_append_zeros hend,
      String.ofList_toList]

end

variable {γ : Type} [Driver γ]

/-- The driver has compiled some sources, and the shader that it made for them. -/
def compiled (type : StageType) (sources : List String) (driver : γ) : Nat × γ :=
  let (shader, driver) := Driver.createShader type driver
  (shader, Driver.compileShader shader (Driver.shaderSource shader sources driver))

/-- The shader did not compile, and the driver has a log to tell why. -/
structure RefusesShader (shader : Nat) (log : String) (driver : γ) : Prop where
  status : Driver.shaderParameter shader .compileStatus driver ≠ 1
  room : HasRoom (Driver.shaderParameter shader .infoLogLength driver) log
  written :
    let size := Driver.shaderParameter shader .infoLogLength driver
    Driver.shaderInfoLog shader size driver = terminated size log

/-- The program was not linked, and the driver has a log to tell why. -/
structure RefusesProgram (program : Nat) (log : String) (driver : γ) : Prop where
  status : Driver.programParameter program .linkStatus driver ≠ 1
  room : HasRoom (Driver.programParameter program .infoLogLength driver) log
  written :
    let size := Driver.programParameter program .infoLogLength driver
    Driver.programInfoLog program size driver = terminated size log

section

variable {log : String} (hend : log.toList.getLast? ≠ some '\x00')

include hend

theorem value_rejectShader {shader : Nat} {b : Backend γ}
    (refused : RefusesShader shader log b.driver) (type : StageType) :
    ((rejectShader type shader).run b).value = .compilationFailed type log := by
  have hvalue : ((rejectShader type shader).run b).value = .compilationFailed type
      (logText (Driver.shaderParameter shader .infoLogLength b.driver)
        (Driver.shaderInfoLog shader (Driver.shaderParameter shader .infoLogLength b.driver)
          b.driver)) := rfl
  rw [hvalue, refused.written, logText_terminated refused.room hend]

/-- The log of a shader that does not compile reaches the caller. -/
theorem value_newStage {type : StageType} {sources : List String} {b : Backend γ}
    (hsources : ∀ source ∈ sources, '\x00' ∉ source.toList)
    (hmade : (compiled type sources b.driver).1 ≠ 0)
    (refused : RefusesShader (compiled type sources b.driver).1 log
      (compiled type sources b.driver).2) :
    ((newStage type sources).run b).value = .error (.compilationFailed type log) := by
  have hzero : sources.any holdsZero = false := by
    simpa [holdsZero] using hsources
  have hshader : ((create (Driver.createShader type) (.createShader type)).run b).value ≠ 0 :=
    hmade
  have hstatus : ((compile sources
      ((create (Driver.createShader type) (.createShader type)).run b).value).run
        ((create (Driver.createShader type) (.createShader type)).run b).state).value ≠ 1 :=
    refused.status
  rw [run_newStage, hzero, if_neg Bool.false_ne_true, if_neg hshader, if_neg hstatus]
  exact congrArg Except.error (value_rejectShader hend refused type)

/-- So does the log of a program that does not link. -/
theorem value_linkProgram {program : Nat} {b : Backend γ}
    (refused : RefusesProgram program log (Driver.linkProgram program b.driver)) :
    ((linkProgram program).run b).value = .error (.linkFailed log) := by
  have hlinked : ((isLinked program).run
      ((command (Driver.linkProgram program) (.linkProgram program)).run b).state).value = false :=
    decide_eq_false refused.status
  have hvalue : ((linkProgram program).run b).value = .error (.linkFailed
      (logText
        (Driver.programParameter program .infoLogLength (Driver.linkProgram program b.driver))
        (Driver.programInfoLog program
          (Driver.programParameter program .infoLogLength (Driver.linkProgram program b.driver))
          (Driver.linkProgram program b.driver)))) := by
    rw [linkProgram, Action.run_bind, Action.run_bind, hlinked]
    rfl
  rw [hvalue, refused.written, logText_terminated refused.room hend]

/-- Whoever asks for a stage or for a link that the driver refuses is told the log of the driver,
character by character, however much room the driver announces for it. -/
theorem logs_passed_on (b : Backend γ) :
    (∀ (type : StageType) (sources : List String), (∀ source ∈ sources, '\x00' ∉ source.toList) →
      (compiled type sources b.driver).1 ≠ 0 →
        RefusesShader (compiled type sources b.driver).1 log (compiled type sources b.driver).2 →
          ((Device.newStage type sources : Action Call (Backend γ) _).run b).value =
            .error (.compilationFailed type log)) ∧
      ∀ program : Nat, RefusesProgram program log (Driver.linkProgram program b.driver) →
        ((Device.linkProgram program : Action Call (Backend γ) _).run b).value =
          .error (.linkFailed log) :=
  ⟨fun _ _ hsources hmade refused ↦ value_newStage hend hsources hmade refused,
    fun _ refused ↦ value_linkProgram hend refused⟩

end

/-- A log with a zero inside of it, blanks behind it and characters of more than one octet. -/
def oddLog : String :=
  "0:1(7): error\x00: 名 undeclared… \n "

/-- A scripted driver that announces more room than the log needs. -/
def oddScript : Script :=
  { Script.blank with
    compileLog := Text.encode oddLog.toList ++ [0]
    linkLog := Text.encode oddLog.toList ++ [0]
    logLength := some 100 }

/-- Its program 1 cannot be linked, for a shader that is attached to it. -/
def oddBackend : Backend Scripted :=
  ⟨((Scripted.new oddScript).shaderSource 2 ["LINK_ERROR"]).attachShader 1 2, none, false⟩

theorem logs_passed_on_oddLog :
    ((Device.newStage .fragment ["COMPILE_ERROR"] : Action Call (Backend Scripted) _).run
        oddBackend).value = .error (.compilationFailed .fragment oddLog) ∧
      ((Device.linkProgram 1 : Action Call (Backend Scripted) _).run oddBackend).value =
        .error (.linkFailed oddLog) := by
  have hend : oddLog.toList.getLast? ≠ some '\x00' := by decide
  have hshader : RefusesShader (compiled .fragment ["COMPILE_ERROR"] oddBackend.driver).1 oddLog
      (compiled .fragment ["COMPILE_ERROR"] oddBackend.driver).2 :=
    ⟨by decide +kernel, .inr (by decide +kernel), by decide +kernel⟩
  have hprogram : RefusesProgram 1 oddLog (Driver.linkProgram 1 oddBackend.driver) :=
    ⟨by decide +kernel, .inr (by decide +kernel), by decide +kernel⟩
  obtain ⟨hstage, hlink⟩ := logs_passed_on hend oddBackend
  exact ⟨hstage .fragment ["COMPILE_ERROR"] (by decide) (by decide +kernel) hshader,
    hlink 1 hprogram⟩

end Shading.OpenGL.Backend
