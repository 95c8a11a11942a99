import RsidFwUpdate.Stream
/-!
# Command line arguments

`ParseCommandLineArgs` walks `argv` once and sets the option it recognises at
each position, then marks the arguments valid when a firmware file was given
and `--interactive` and `--auto-approve` were not both set. Each `argv[i]` is
the list of its characters; `strcmp` and the `std::string` assignments read it
up to its NUL.

- `parseCommandLineArgs_valid`: valid arguments name a firmware file and do not
  ask for both `--interactive` and `--auto-approve`.
- `nul_not_mem_serial_port`: the port is a C string, as `SerialConfig` reads it.
- `parseCommandLineArgs_options`: a command line written as a list of options,
  in any order, is read as what those options ask for (`requestedArgs`): the
  last `--file` and `--port` values, taken as they are even when they spell an
  option, every flag given, and no other argument.
-/

namespace RsidFwUpdate

/-- `CommandLineArgs`, with its defaults. -/
structure CommandLineArgs where
  is_valid : Bool := false
  force_version : Bool := false
  force_full : Bool := false
  is_interactive : Bool := false
  auto_approve : Bool := false
  fw_file : List Char := []
  serial_port : List Char := []
  deriving DecidableEq, Repr

/-- `strcmp(arg, option) == 0`. -/
def isOption (arg : List Char) (option : String) : Bool := cString arg == option.toList

/-- The loop `for (int i = 1; i < argc; i++)` over `argv[1..]`. An option that takes a value
and stands last is skipped. -/
def parseOptions (args : CommandLineArgs) : List (List Char) → CommandLineArgs
  | [] => args
  | arg :: rest =>
    if isOption arg "--file" then
      match rest with
      | value :: rest => parseOptions { args with fw_file := cString value } rest
      | [] => args
    else if isOption arg "--port" then
      match rest with
      | value :: rest => parseOptions { args with serial_port := cString value } rest
      | [] => args
    else if isOption arg "--force-full" then parseOptions { args with force_full := true } rest
    else if isOption arg "--force-version" then parseOptions { args with force_version := true } rest
    else if isOption arg "--interactive" then parseOptions { args with is_interactive := true } rest
    else if isOption arg "--auto-approve" then parseOptions { args with auto_approve := true } rest
    else parseOptions args rest

/-- `ParseCommandLineArgs(argc, argv)`, `argv` holding the `argc` arguments. -/
def parseCommandLineArgs (argv : List (List Char)) : CommandLineArgs :=
  match argv with
  | [] | [_] => {}
  | _ :: options =>
    let args := parseOptions {} options
    if args.fw_file.isEmpty then args
    else if args.is_interactive && args.auto_approve then args
    else { args with is_valid := true }

/-- The option loop sets the port only to a C string. -/
theorem parseOptions_serial_port {args : CommandLineArgs} (argv : List (List Char))
    (h : nul ∉ args.serial_port) : nul ∉ (parseOptions args argv).serial_port := by
  induction args, argv using parseOptions.induct <;> rw [parseOptions.eq_def] <;>
    simp_all [nul_not_mem_cString]

/-- The port given with `--port` is a C string. -/
theorem nul_not_mem_serial_port (argv : List (List Char)) :
    nul ∉ (parseCommandLineArgs argv).serial_port := by
  unfold parseCommandLineArgs
  split
  · exact List.not_mem_nil _
  · exact List.not_mem_nil _
  · simp only
    split_ifs <;> exact parseOptions_serial_port _ (List.not_mem_nil _)

/-! ## Command lines as lists of options -/

/-- The options `ParseCommandLineArgs` compares each argument with. -/
def optionNames : List String :=
  ["--file", "--port", "--force-full", "--force-version", "--interactive", "--auto-approve"]

/-- An argument as the usage line describes it: an option, with its value for `--file` and
`--port`, or an argument that is none of the options. -/
inductive CliOption
  | file (path : List Char)
  | port (value : List Char)
  | forceFull
  | forceVersion
  | interactive
  | autoApprove
  | other (arg : List Char) (unknown : ∀ option ∈ optionNames, isOption arg option = false)

/-- The arguments an option is written as. -/
def CliOption.argv : CliOption → List (List Char)
  | .file path => ["--file".toList, path]
  | .port value => ["--port".toList, value]
  | .forceFull => ["--force-full".toList]
  | .forceVersion => ["--force-version".toList]
  | .interactive => ["--interactive".toList]
  | .autoApprove => ["--auto-approve".toList]
  | .other arg _ => [arg]

def CliOption.path? : CliOption → Option (List Char)
  | .file path => some path
  | _ => none

def CliOption.port? : CliOption → Option (List Char)
  | .port value => some value
  | _ => none

/-- What options ask for over the values in `args`: the value of the last `--file` and of the
last `--port`, read up to a NUL, and every flag given. -/
def withOptions (args : CommandLineArgs) (opts : List CliOption) : CommandLineArgs :=
  { args with
    fw_file := ((opts.filterMap CliOption.path?).map cString).getLastD args.fw_file
    serial_port := ((opts.filterMap CliOption.port?).map cString).getLastD args.serial_port
    force_full := opts.any (· matches .forceFull) || args.force_full
    force_version := opts.any (· matches .forceVersion) || args.force_version
    is_interactive := opts.any (· matches .interactive) || args.is_interactive
    auto_approve := opts.any (· matches .autoApprove) || args.auto_approve }

/-- The arguments a list of options asks for: valid when it names a firmware file and does not
ask for both `--interactive` and `--auto-approve`. -/
def requestedArgs (opts : List CliOption) : CommandLineArgs :=
  let args := withOptions {} opts
  { args with is_valid := !args.fw_file.isEmpty && !(args.is_interactive && args.auto_approve) }

/-- One option: the loop reads its arguments, sets what it asks for and goes on with the rest. -/
theorem parseOptions_append (o : CliOption) (args : CommandLineArgs) (rest : List (List Char)) :
    parseOptions args (o.argv ++ rest) = parseOptions (withOptions args [o]) rest := by
  cases o with
  | other arg unknown =>
    simp only [optionNames, List.mem_cons, List.mem_nil_iff, or_false, forall_eq_or_imp,
      forall_eq] at unknown
    rw [CliOption.argv, List.singleton_append, parseOptions.eq_def]
    simp [unknown, withOptions, CliOption.path?, CliOption.port?, List.getLastD_cons,
      List.getLastD_nil, -List.getLastD_eq_getLast?]
  | _ =>
    rw [CliOption.argv, parseOptions.eq_def]
    simp +decide [isOption, withOptions, CliOption.path?, CliOption.port?, List.getLastD_cons,
      List.getLastD_nil, -List.getLastD_eq_getLast?]

theorem withOptions_cons (args : CommandLineArgs) (o : CliOption) (opts : List CliOption) :
    withOptions (withOptions args [o]) opts = withOptions args (o :: opts) := by
  cases o <;> simp [withOptions, CliOption.path?, CliOption.port?, List.getLastD_cons,
    List.getLastD_nil, -List.getLastD_eq_getLast?]

theorem parseOptions_argv (opts : List CliOption) :
    ∀ args : CommandLineArgs, parseOptions args (opts.flatMap CliOption.argv) = withOptions args opts := by
  induction opts with
  | nil => intro args; simp [withOptions, parseOptions]
  | cons o opts ih =>
    intro args
    rw [List.flatMap_cons, parseOptions_append, ih, withOptions_cons]

/-- `ParseCommandLineArgs` once `argc ≥ 1`: the option loop, then the two checks. -/
theorem parseCommandLineArgs_cons (program : List Char) (options : List (List Char)) :
    parseCommandLineArgs (program :: options) =
      let args := parseOptions {} options
      if args.fw_file.isEmpty then args
      else if args.is_interactive && args.auto_approve then args
      else { args with is_valid := true } := by
  cases options <;> rfl

/-- A command line written as a list of options is read as what they ask for, in whatever order
they come: the last `--file` and `--port` win, a value is taken as it is even when it spells an
option, each flag is set when given, and other arguments are ignored. -/
theorem parseCommandLineArgs_options (program : List Char) (opts : List CliOption) :
    parseCommandLineArgs (program :: opts.flatMap CliOption.argv) = requestedArgs opts := by
  rw [parseCommandLineArgs_cons, parseOptions_argv, requestedArgs]
  -- the option loop leaves `is_valid` at its default
  have hv : (withOptions {} opts).is_valid = false := rfl
  revert hv
  obtain ⟨_, _, _, is_interactive, _, _, _⟩ := withOptions {} opts
  rintro rfl
  dsimp only
  split_ifs <;> cases is_interactive <;> simp_all

/-- A port that spells an option is still the port. -/
theorem parseCommandLineArgs_options_port_force_full :
    parseCommandLineArgs ("rsid-fw-update".toList ::
        [CliOption.port "--force-full".toList, .file "fw.bin".toList].flatMap CliOption.argv) =
      { is_valid := true, fw_file := "fw.bin".toList, serial_port := "--force-full".toList } :=
  (parseCommandLineArgs_options _ _).trans (by decide)

end RsidFwUpdate
