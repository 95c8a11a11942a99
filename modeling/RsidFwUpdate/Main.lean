import RsidFwUpdate.Args
import RsidFwUpdate.Cli
import RsidFwUpdate.Prompt
/-!
# `main`

`main` of `rsid-fw-update` as a run against `Env`, in parts: the arguments
(`parseCommandLineArgsCall`), the device list (`populateDevices`), the choice
among it (`selectDevice`), the checks on the chosen device and the image
(`updateSelectedDevice`), the proceed prompt (`confirmUpdate`), and the plan and
the update (`flashModules`). `maxBufferSize` is the size of the array
`DeviceInfo::serialPort`; `fuel` bounds each loop of the two prompts. What
`main` prints is left out, except where printing reads memory: the usage line
reads `argv[0]`, and the device list of `UserDeviceSelection` and the summary
read `serialPort` as a C string.
-/

namespace RsidFwUpdate

def SUCCESS_MAIN : Int := 0

def FAILURE_MAIN : Int := 1

def RECOG : List Char := "RECOG".toList

/-- `QueryDeviceMetadata(SerialConfig{port})`, the `k`-th metadata query of the run. -/
def queryDeviceMetadataCall (env : Env) (k : Nat) (port : List Char) : Cli DeviceMetadata :=
  call (queryDeviceMetadata (env.queryFirmwareVersion k port) (env.querySerialNumber k port))
    (.queryDeviceMetadata port)

/-- The loop over `DiscoverDevices()`, its `k`-th device on. -/
def queryDiscovered (env : Env) : Nat → List DeviceInfo → Cli (List FullDeviceInfo)
  | _, [] => pure []
  | k, detected_device :: rest => do
    let port ← readSerialPort detected_device
    let metadata ← queryDeviceMetadataCall env k port
    let devices ← queryDiscovered env (k + 1) rest
    pure (⟨metadata, detected_device⟩ :: devices)

/-- `devices_info`: the devices found when no port was given, else the one at `--port`, copied
into a `DeviceInfo` with `strncpy`. -/
def populateDevices (maxBufferSize : Nat) (env : Env) (args : CommandLineArgs) :
    Cli (List FullDeviceInfo) := do
  if args.serial_port.isEmpty then
    queryDiscovered env 0 env.discoverDevices
  else
    let metadata ← queryDeviceMetadataCall env 0 args.serial_port
    match strncpy maxBufferSize args.serial_port args.serial_port.length with
    | none => throw .undefinedBehaviour
    | some device_info => pure [⟨metadata, device_info⟩]

/-- The list `UserDeviceSelection` prints, each device's `serialPort` read as a C string. -/
def listDevices : List FullDeviceInfo → Cli Unit
  | [] => pure ()
  | device :: devices => do
    let _ ← readSerialPort device.config
    listDevices devices

/-- `UserDeviceSelection(devices)`. -/
def selectDevice (fuel : Nat) (devices : List FullDeviceInfo) : Cli Nat := do
  listDevices devices
  let w ← get
  match userDeviceSelection fuel devices.length w.stdin with
  | none => throw .starved
  | some (id, rest) =>
    set { w with stdin := rest }
    call id .userDeviceSelection

/-- `UserApproval()` at `prompt`. -/
def approve (fuel : Nat) (prompt : Prompt) : Cli Bool := do
  let w ← get
  match userApproval fuel w.stdin with
  | none => throw .starved
  | some (answer, rest) =>
    set { w with stdin := rest }
    call answer (.userApproval prompt)

/-- `main` from the database prompt on: ask before clearing the faceprints database unless the
recognition versions agree or `--auto-approve` was given, drop `RECOG` from the plan when that is
refused, and flash the plan. -/
def flashModules (env : Env) (fuel : Nat) (args : CommandLineArgs)
    (selected_device : FullDeviceInfo) (info : FwInformation) (is_database_compatible : Bool) :
    Cli Int := do
  let update_recognition ←
    (if !is_database_compatible && !args.auto_approve then approve fuel .database
      else pure (is_database_compatible || args.auto_approve) : Cli Bool)
  let moduleNames :=
    if !update_recognition then info.moduleNames.filter (· != RECOG) else info.moduleNames
  let settings : Settings :=
    { port := cString selected_device.config.serialPort, force_full := args.force_full }
  let status ← call (env.updateModules settings args.fw_file moduleNames)
    (.updateModules settings args.fw_file moduleNames)
  return if status = .ok then SUCCESS_MAIN else FAILURE_MAIN

/-- `main` from the proceed prompt on: ask under `--interactive`, stop on a no or on a new version
incompatible with the host and not forced, else go on to the database prompt and the update. -/
def confirmUpdate (env : Env) (fuel : Nat) (args : CommandLineArgs) (selected_device : FullDeviceInfo)
    (info : FwInformation) (new_compatible is_database_compatible : Bool) : Cli Int := do
  -- ask user for approval if interactive
  let user_agreed ← (if args.is_interactive then approve fuel .proceed else pure true : Cli Bool)
  if !user_agreed then return FAILURE_MAIN
  -- allow bypass of incompatible version if forced
  if !new_compatible && !args.force_version then return FAILURE_MAIN
  flashModules env fuel args selected_device info is_database_compatible

/-- `main` from `ExtractFwInformation` to the summary print, for the chosen device, and then on as
`confirmUpdate`. A prompt not asked counts as a yes, as in the source. -/
def updateSelectedDevice (env : Env) (fuel : Nat) (args : CommandLineArgs)
    (selected_device : FullDeviceInfo) : Cli Int := do
  -- extract fw version from update file
  let bin_path := args.fw_file
  let some info ← call (env.extractFwInformation bin_path) (.extractFwInformation bin_path)
    | return FAILURE_MAIN
  let serial_number := selected_device.metadata.serial_number
  let encryption_supported ← call (env.isEncryptionSupported bin_path serial_number)
    (.isEncryptionSupported bin_path serial_number)
  if !encryption_supported then return FAILURE_MAIN
  -- check compatibility with host
  let current_fw_version := selected_device.metadata.fw_version
  let _current_compatible ← call (env.isFwCompatibleWithHost current_fw_version)
    (.isFwCompatibleWithHost current_fw_version)
  let new_compatible ← call (env.isFwCompatibleWithHost info.fw_version)
    (.isFwCompatibleWithHost info.fw_version)
  let is_database_compatible :=
    selected_device.metadata.recognition_version == info.recognition_version
  -- show summary to user: " * Serial port: " << selected_device.config->serialPort
  let _ ← readSerialPort selected_device.config
  confirmUpdate env fuel args selected_device info new_compatible is_database_compatible

/-- `ParseCommandLineArgs(argc, argv)` in a run. With `argc < 2` it prints the usage line, which
streams `argv[0]`: for `argc = 0` that is the null pointer ending `argv`, undefined behaviour. -/
def parseCommandLineArgsCall (argv : List (List Char)) : Cli CommandLineArgs :=
  match argv with
  | [] => throw .undefinedBehaviour
  | _ => pure (parseCommandLineArgs argv)

/-- `main` once the arguments are valid: the device list, the choice among it and the update. -/
def mainWithArgs (maxBufferSize : Nat) (env : Env) (fuel : Nat) (args : CommandLineArgs) :
    Cli Int := do
  -- populate device list
  let devices_info ← populateDevices maxBufferSize env args
  if devices_info.isEmpty then return FAILURE_MAIN
  -- if more than one device exists - ask user to select
  let id ← (if devices_info.length = 1 then pure 0 else selectDevice fuel devices_info : Cli Nat)
  match devices_info[id]? with
  | none => throw .uncaughtException
  | some selected_device => updateSelectedDevice env fuel args selected_device

/-- `main(argc, argv)`, `argv` holding the `argc` arguments. -/
def main (maxBufferSize : Nat) (env : Env) (fuel : Nat) (argv : List (List Char)) : Cli Int := do
  -- parse cli args
  let args ← parseCommandLineArgsCall argv
  if !args.is_valid then return FAILURE_MAIN
  mainWithArgs maxBufferSize env fuel args

end RsidFwUpdate
