import AccessControl.CommandLine.Report
import AccessControl.CommandLine.Trouble
import AccessControl.Document.Config

/-!
# Running a command

A command reads its configuration and its policy from a `Host`; what it prints and how it ends is
its result. The configuration comes first, then the arguments are looked into, and then the policy,
so of several troubles the one that comes first in this order is reported.
-/

set_option autoImplicit false

namespace AccessControl.CommandLine

/-- How a command ended: what it printed and whether it succeeded. -/
structure Result where
  output : String
  success : Bool := true

section

variable {m : Type → Type} [Monad m]

/-! ## The configuration -/

/-- The path of something below a directory. A slash goes between the two, unless the directory is
written with one at its end. -/
def pathBelow (directory path : String) : String :=
  if directory.toList.getLast? = some '/' then directory ++ path else directory ++ "/" ++ path

/-- Where the user's own configuration is looked for. A home directory that is empty counts as none,
and without one the user has no configuration. -/
def userPaths : Option String → List String
  | none => []
  | some home => if home.isEmpty then [] else [pathBelow home ".config/grantgate/config.toml"]

/-- Where a configuration is looked for, in this order, given the home directory: first the
system's, then the user's own, then that of the directory the program is started in. -/
def searchPaths (home : Option String) : List String :=
  ["/etc/grantgate/config.toml"] ++ userPaths home ++ ["./config.toml"]

/-- The configuration in a file. -/
def readConfig (host : Host m) (path : String) : ExceptT Trouble m Config := do
  match ← host.read path with
  | .error fault => throw (.configUnread path fault)
  | .ok document =>
    match Config.ofToml? document with
    | some c => return c
    | none => throw (.configMalformed path)

/-- The configuration in the first of some files that is there, or the standard one. -/
def searchConfig (host : Host m) : List String → ExceptT Trouble m Config
  | [] => return {}
  | path :: rest => do
    if ← host.isPresent path then readConfig host path else searchConfig host rest

/-- The configuration: of the file that is named, or of one that is found, with what the options
change. -/
def Settings.resolve (host : Host m) (s : Settings) : ExceptT Trouble m Config := do
  let c ← match s.config with
    | some path => readConfig host path
    | none => do searchConfig host (searchPaths (← host.lookup "HOME"))
  match s.override c with
  | .ok c => return c
  | .error e => throw (.output e)

/-! ## The policy -/

/-- The policy in a file; without a file it is empty. -/
def loadPolicy (host : Host m) : Option String → ExceptT Trouble m Policy
  | none => return {}
  | some path => do
    match ← host.read path with
    | .error fault => throw (.policyUnread path fault)
    | .ok text =>
      match Policy.load text with
      | .ok p => return p
      | .error fault => throw (.policyUnusable path fault)

/-- The policy in a file that is to be inspected. -/
def inspectPolicy (host : Host m) (file : String) : ExceptT Trouble m Policy := do
  match ← host.read file with
  | .error fault => throw (.policyUnread file fault)
  | .ok text =>
    match Policy.load text with
    | .ok p => return p
    | .error fault => throw (.policyInvalid fault)

/-! ## The commands -/

/-- The subject that asks. -/
def Asking.resolve (a : Asking) : ExceptT Trouble m Subject :=
  match a.subject with
  | .ok s => return s
  | .error e => throw (.role e)

/-- Decides one request; only a decision that allows is a success. -/
def runCheck (host : Host m) (settings : Settings) (asking : Asking) (reference : Reference)
    (operation : String) : ExceptT Trouble m Result := do
  let c ← settings.resolve host
  let op ← match Operation.parse operation with
    | .ok op => pure op
    | .error e => throw (.operation e)
  let s ← asking.resolve
  let p ← loadPolicy host c.policyFile
  let r := reference.resolve p
  let e := p.environment
  let d := ((e.chain c.defaultLayer).check s r op).eval e.collaborators
  let output := match c.output with
    | .text => checkLine r op d
    | .json => (checkReport s (p.groupsOf s) r op d).printPretty
  return { output := lines [output], success := d.isAllowed }

/-- Lists the resources that may be viewed. -/
def runVisible (host : Host m) (settings : Settings) (asking : Asking) (bundle : Option String) :
    ExceptT Trouble m Result := do
  let c ← settings.resolve host
  let s ← asking.resolve
  let p ← loadPolicy host c.policyFile
  let e := p.environment
  let resources := p.resources.filter fun r => bundle.all (r.bundle == ·)
  let visible := ((e.chain c.defaultLayer).visible s resources).eval e.collaborators
  return {
    output := match c.output with
      | .text => lines (visible.map Resource.cacheTag)
      | .json => lines [(Json.list (visible.map Resource.toJson)).printPretty] }

/-- Does what is asked for. -/
def Request.run (host : Host m) : Request → ExceptT Trouble m Result
  | .check settings asking resource operation => runCheck host settings asking resource operation
  | .visible settings asking bundle => runVisible host settings asking bundle
  | .validate file => do return { output := lines [policySummary (← inspectPolicy host file)] }
  | .roles file => do return { output := lines (roleLines (← inspectPolicy host file)) }

/-! ## The program -/

/-- The name and version of the program. -/
def versionText : String := "grantgate 0.1.0"

/-- How the program is used. -/
def helpText : String := lines
  ["Grant-based access control resolver", "",
    "Usage: grantgate <COMMAND>", "",
    "Commands:",
    "  check    decide whether a subject may perform an operation on a resource",
    "  visible  list the policy's resources the subject may view",
    "  policy   inspect policy files (validate, roles)"]

/-- What is said when the arguments are not in order. -/
def usageText : String := "the arguments are not in order; see --help"

/-- How the program ended. -/
structure Ending where
  /-- The exit code: 0 for success, 1 for a refusal or a trouble, 2 for arguments not in order. -/
  code : Nat
  output : String := ""
  /-- What went wrong, if anything did: the outermost message first, and below it the causes. -/
  messages : List String := []

/-- The variables that stand in for options. -/
def variableNames : List String := settingRules.filterMap Rule.standIn

/-- Runs the program. -/
def run (host : Host m) (args : List String) : m Ending := do
  let values ← variableNames.mapM fun name => do return (name, ← host.lookup name)
  match Request.ofArguments (fun name => (values.lookup name).join) args with
  | .error .usage => return { code := 2, messages := [usageText] }
  | .error .help => return { code := 0, output := helpText }
  | .error .version => return { code := 0, output := lines [versionText] }
  | .ok request =>
    match ← (request.run host).run with
    | .ok result => return { code := if result.success then 0 else 1, output := result.output }
    | .error trouble => return { code := 1, messages := trouble.messages }

end

end AccessControl.CommandLine
