import AccessControl.CommandLine.Arguments
import AccessControl.Config
import AccessControl.Policy.Environment
import AccessControl.Reference

/-!
# What the command line asks for

There are three commands: `check` decides one request, `visible` lists what a subject may view, and
`policy` inspects a policy file. The first two share the options that say who asks, and those that
override the configuration.
-/

set_option autoImplicit false

namespace AccessControl.CommandLine

/-- The options that override the configuration. -/
structure Settings where
  /-- The path of the configuration. -/
  config : Option String := none
  /-- The path of the policy. -/
  policy : Option String := none
  logLevel : Option String := none
  /-- The name of the output format. -/
  output : Option String := none
  noDefaultLayer : Bool := false
deriving DecidableEq, Repr

/-- The options that say who asks. -/
structure Asking where
  id : Option SubjectId := none
  /-- The names of the roles. -/
  roles : List String := []
deriving DecidableEq, Repr

/-- Something to do. -/
inductive Request where
  /-- Decides whether an operation, given by name, may be done with a resource. -/
  | check (settings : Settings) (asking : Asking) (resource : Reference) (operation : String)
  /-- Lists the resources that may be viewed, of one bundle or of all. -/
  | visible (settings : Settings) (asking : Asking) (bundle : Option String)
  /-- Says whether a policy file is in order. -/
  | validate (file : String)
  /-- Lists the permissions of each role in a policy file. -/
  | roles (file : String)
deriving DecidableEq, Repr

/-! ## Who asks -/

/-- The subject that asks, or the first role name that is not one. -/
def Asking.subject (a : Asking) : Except InvalidRole Subject :=
  (RoleSet.parse a.roles).map (Subject.ofRequest a.id)

/-! ## Overriding the configuration -/

/-- A name that was given as an output format and is none. -/
structure UnknownOutput where
  name : String
deriving DecidableEq, Repr

/-- The name as it was given. -/
def UnknownOutput.message (e : UnknownOutput) : String := "unknown output format: " ++ e.name

/-- The configuration with what the options change. -/
def Settings.override (s : Settings) (c : Config) : Except UnknownOutput Config := do
  let output ← match s.output with
    | none => pure c.output
    | some name => (OutputFormat.ofName? name).elim (throw ⟨name⟩) pure
  return {
    policyFile := s.policy <|> c.policyFile
    defaultLayer := c.defaultLayer && !s.noDefaultLayer
    logLevel := s.logLevel.getD c.logLevel
    output }

/-! ## Reading requests -/

/-- A path has to have a character. -/
def isPath (s : String) : Bool := !s.isEmpty

/-- The options that override the configuration. -/
def settingRules : List Rule :=
  [{ long := "config", short := some 'c', accepts := isPath, standIn := some "GRANTGATE_CONFIG" },
    { long := "policy", short := some 'p', accepts := isPath
      standIn := some "GRANTGATE_POLICY_FILE" },
    { long := "log-level", standIn := some "GRANTGATE_LOG_LEVEL" },
    { long := "output", short := some 'o', accepts := fun s => (OutputFormat.ofName? s).isSome },
    { long := "no-default-layer", arity := .flag }]

/-- The options that say who asks. -/
def askingRules : List Rule :=
  [{ long := "subject", short := some 's', accepts := fun s => (Text.readWord s).isOk },
    { long := "role", short := some 'r', arity := .repeated }]

/-- The arguments of `check`. -/
def checkGrammar : Grammar :=
  { options := settingRules ++ askingRules ++
      [{ long := "resource", accepts := fun s => (Reference.parse s).isOk },
        { long := "operation" }] }

/-- The arguments of `visible`. -/
def visibleGrammar : Grammar :=
  { options := settingRules ++ askingRules ++ [{ long := "bundle" }] }

/-- The arguments of a command that inspects a policy file. -/
def fileGrammar : Grammar := { options := [], positionals := [isPath] }

/-- The options that override the configuration, as given. -/
def Settings.ofArguments (a : Arguments) : Settings where
  config := a.value? "config"
  policy := a.value? "policy"
  logLevel := a.value? "log-level"
  output := a.value? "output"
  noDefaultLayer := a.has "no-default-layer"

/-- The options that say who asks, as given. -/
def Asking.ofArguments (a : Arguments) : Asking where
  id := ((a.value? "subject").bind fun s => (Text.readWord s).toOption).map Identifier.mk
  roles := a.values "role"

namespace Request

/-- Reads the arguments of `check`, two of which are required. -/
def ofCheck (a : Arguments) : Except Stop Request :=
  match (a.value? "resource").map Reference.parse, a.value? "operation" with
  | some (.ok r), some operation =>
    .ok (.check (.ofArguments a) (.ofArguments a) r operation)
  | _, _ => .error .usage

/-- Reads the arguments of a command that inspects a policy file. -/
def ofFile (make : String → Request) (a : Arguments) : Except Stop Request :=
  match a.positionals with
  | [file] => .ok (make file)
  | _ => .error .usage

/-- The commands, each with those above it. -/
def commands : List (List String) :=
  [["check"], ["visible"], ["policy"], ["policy", "validate"], ["policy", "roles"]]

/-- What to do when help is asked for by `help` and names, which have to lead to a command, to
`help` itself or to nothing more than the commands `above`. -/
def helpFor (above names : List String) : Stop :=
  if names.isEmpty || names == ["help"] || commands.contains (above ++ names) then .help else .usage

/-- Reads an argument that should have been a command: nothing but help or the version can still be
asked for. -/
def notACommand (version : Bool) (arg : String) : Except Stop Request := do
  discard (({} : Arguments).take { options := [], version } arg)
  throw .usage

/-- Reads the arguments after `policy`. -/
def ofPolicyArguments (lookup : String → Option String) : List String → Except Stop Request
  | "validate" :: args => do ofFile .validate (← Arguments.read fileGrammar lookup args)
  | "roles" :: args => do ofFile .roles (← Arguments.read fileGrammar lookup args)
  | "help" :: names => .error (helpFor ["policy"] names)
  | arg :: _ => notACommand false arg
  | [] => .error .usage

/-- Reads the arguments of the program, with the variables of the environment. -/
def ofArguments (lookup : String → Option String) : List String → Except Stop Request
  | "check" :: args => do ofCheck (← Arguments.read checkGrammar lookup args)
  | "visible" :: args => do
    let a ← Arguments.read visibleGrammar lookup args
    return .visible (.ofArguments a) (.ofArguments a) (a.value? "bundle")
  | "policy" :: args => ofPolicyArguments lookup args
  | "help" :: names => .error (helpFor [] names)
  | arg :: _ => notACommand true arg
  | [] => .error .usage

end Request

end AccessControl.CommandLine
