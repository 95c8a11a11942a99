import RsidFwUpdate.Device
/-!
# The library as `main` sees it, and runs

`Env` holds every library call `main` makes, as arbitrary functions: the
devices `DiscoverDevices` returns, the device's answers to the metadata
queries, the three checks of the firmware file, and `UpdateModules`. stdin is
the state. A run records each call with what it returned (`Event`); it returns
`main`'s exit code or stops (`Stop`).

`Ends x w P Q`: every end of `x` run from `w` satisfies `P` when it returns
and `Q` when it stops. Its rules (`ends_bind`, `ends_call`, ...) let a proof
follow a program statement by statement.
-/

namespace RsidFwUpdate

/-- `RealSenseID::Status` as `main` uses it: `Ok`, or any other value. -/
inductive Status
  | ok
  | error
  deriving DecidableEq, Repr

/-- The out-parameters of a successful `FwUpdater::ExtractFwInformation`. -/
structure FwInformation where
  fw_version : List Char
  recognition_version : List Char
  moduleNames : List (List Char)
  deriving DecidableEq, Repr

/-- `FwUpdater::Settings`: the port its `const char*` names, and `force_full`. -/
structure Settings where
  port : List Char
  force_full : Bool
  deriving DecidableEq, Repr

structure FullDeviceInfo where
  metadata : DeviceMetadata
  config : DeviceInfo
  deriving DecidableEq, Repr

/-- The library calls of `main`. Each array `DiscoverDevices` fills holds a NUL-terminated port
name. The device answers `QueryFirmwareVersion` and `QuerySerialNumber` at the `k`-th metadata
query of a run on a port, with an empty string when the query fails. `ExtractFwInformation`
gives `none` when it returns `false`. -/
structure Env where
  discoverDevices : List DeviceInfo
  discovered_terminated : ∀ d ∈ discoverDevices, nul ∈ d.serialPort
  queryFirmwareVersion : Nat → List Char → List Char
  querySerialNumber : Nat → List Char → List Char
  extractFwInformation : List Char → Option FwInformation
  isEncryptionSupported : List Char → List Char → Bool
  isFwCompatibleWithHost : List Char → Bool
  updateModules : Settings → List Char → List (List Char) → Status

/-- The two `UserApproval` prompts of `main`. -/
inductive Prompt
  | proceed
  | database
  deriving DecidableEq, Repr

/-- A library call or a prompt of a run, with what it returned. -/
inductive Event
  | queryDeviceMetadata (port : List Char) (metadata : DeviceMetadata)
  | userDeviceSelection (id : Nat)
  | extractFwInformation (binPath : List Char) (result : Option FwInformation)
  | isEncryptionSupported (binPath serialNumber : List Char) (result : Bool)
  | isFwCompatibleWithHost (version : List Char) (result : Bool)
  | userApproval (prompt : Prompt) (answer : Bool)
  | updateModules (settings : Settings) (binPath : List Char) (moduleNames : List (List Char))
      (status : Status)
  deriving DecidableEq, Repr

/-- How a run stops without returning: undefined behaviour (a write or a read past the array
`DeviceInfo::serialPort`), an uncaught exception, or a prompt still reading when the fuel runs
out. -/
inductive Stop
  | undefinedBehaviour
  | uncaughtException
  | starved
  deriving DecidableEq, Repr

/-- Unread stdin, and the calls made so far. -/
structure World where
  stdin : List Char
  trace : List Event
  deriving DecidableEq, Repr

abbrev Cli := StateT World (Except Stop)

/-- A library call that returned `result`, recorded as `event result`. -/
def call {α : Type} (result : α) (event : α → Event) : Cli α :=
  modifyGet fun w => (result, { w with trace := w.trace ++ [event result] })

/-- Read `DeviceInfo::serialPort` as a C string: undefined behaviour when no NUL ends it. -/
def readSerialPort (d : DeviceInfo) : Cli (List Char) :=
  if nul ∈ d.serialPort then pure (cString d.serialPort) else throw .undefinedBehaviour

/-! ## Reasoning about runs -/

/-- Every end of `x` from `w`: a return satisfies `P`, a stop satisfies `Q`. -/
def Ends {α : Type} (x : Cli α) (w : World) (P : α → World → Prop) (Q : Stop → Prop) : Prop :=
  match x.run w with
  | .ok (a, w') => P a w'
  | .error e => Q e

section
variable {α β : Type} {w : World} {P : β → World → Prop} {Q : Stop → Prop}

theorem ends_pure {b : β} (h : P b w) : Ends (pure b) w P Q := h

theorem ends_throw {e : Stop} (h : Q e) : Ends (throw e : Cli β) w P Q := h

theorem ends_bind {x : Cli α} {f : α → Cli β} (h : Ends x w (fun a w' => Ends (f a) w' P Q) Q) :
    Ends (x >>= f) w P Q := by
  unfold Ends at h ⊢
  rw [StateT.run_bind]
  cases hx : x.run w with
  | error e => rw [hx] at h; exact h
  | ok r => rw [hx] at h; exact h

theorem ends_call {b : β} {event : β → Event}
    (h : P b { w with trace := w.trace ++ [event b] }) : Ends (call b event) w P Q := h

theorem ends_ite {c : Prop} [Decidable c] {x y : Cli β} (hx : c → Ends x w P Q)
    (hy : ¬c → Ends y w P Q) : Ends (if c then x else y) w P Q := by
  split
  · exact hx ‹_›
  · exact hy ‹_›

theorem ends_get {P : World → World → Prop} (h : P w w) : Ends get w P Q := h

theorem ends_set {w' : World} {P : PUnit → World → Prop} (h : P ⟨⟩ w') : Ends (set w') w P Q := h

theorem ends_readSerialPort {d : DeviceInfo} {P : List Char → World → Prop}
    (h : nul ∈ d.serialPort → P (cString d.serialPort) w)
    (hub : nul ∉ d.serialPort → Q .undefinedBehaviour) : Ends (readSerialPort d) w P Q := by
  unfold readSerialPort
  split
  · exact ends_pure (h ‹_›)
  · exact ends_throw (hub ‹_›)

theorem run_eq_error_of_ends {x : Cli β} {e : Stop} (h : Ends x w (fun _ _ => False) (· = e)) :
    x.run w = .error e := by
  unfold Ends at h
  split at h
  · exact h.elim
  · next heq => rw [heq, h]

theorem exists_run_of_ends {x : Cli β} (h : Ends x w P fun _ => False) :
    ∃ b w', x.run w = .ok (b, w') ∧ P b w' := by
  unfold Ends at h
  split at h
  · next b w' heq => exact ⟨b, w', heq, h⟩
  · exact h.elim

theorem ends_mono {x : Cli β} {P' : β → World → Prop} {Q' : Stop → Prop}
    (h : Ends x w P Q) (hP : ∀ b w', P b w' → P' b w') (hQ : ∀ e, Q e → Q' e) : Ends x w P' Q' := by
  unfold Ends at h ⊢
  split at h <;> simp_all

end

end RsidFwUpdate
