/-!
# The arguments of a command

A command takes options and positional arguments. An option has a long name and perhaps a letter; it
is a mere flag, or it takes a value, which stands in the same argument after an equals sign (or
right after the letter) or is the next argument. A next argument that begins with a hyphen is not
taken for a value, a single hyphen excepted. After two hyphens all arguments are positional.

Arguments are looked at one after another, and the first thing out of order ends the reading. An
option that was not given may be set by a variable of the environment.
-/

set_option autoImplicit false

namespace AccessControl.CommandLine

/-- What an option takes. -/
inductive Arity where
  /-- No value; given at most once. -/
  | flag
  /-- One value; given at most once. -/
  | single
  /-- One value each time it is given. -/
  | repeated
deriving DecidableEq, Repr

/-- An option of a command. -/
structure Rule where
  /-- The name, which follows two hyphens. -/
  long : String
  /-- The letter, which follows one hyphen. -/
  short : Option Char := none
  arity : Arity := .single
  /-- Whether a value can be taken. -/
  accepts : String → Bool := fun _ => true
  /-- The variable that stands in for the option. -/
  standIn : Option String := none

/-- What a command takes. -/
structure Grammar where
  options : List Rule
  /-- For each positional argument, whether it can be taken. -/
  positionals : List (String → Bool) := []
  /-- Whether the version can be asked for. -/
  version : Bool := false

/-- Why there is nothing to run. -/
inductive Stop where
  /-- The arguments are not in order. -/
  | usage
  /-- Help was asked for. -/
  | help
  /-- The version was asked for. -/
  | version
deriving DecidableEq, Repr

/-- The arguments read so far. -/
structure Arguments where
  /-- The options, by long name, with their values; a flag has the empty value. -/
  options : List (String × String) := []
  positionals : List String := []
  /-- The option whose value is the next argument. -/
  waiting : Option Rule := none
  /-- Whether all that follows is positional. -/
  rest : Bool := false

namespace Arguments

/-- Whether an option has been given. -/
def has (a : Arguments) (long : String) : Bool := a.options.any (·.1 == long)

/-- The value of an option. -/
def value? (a : Arguments) (long : String) : Option String :=
  (a.options.find? (·.1 == long)).map Prod.snd

/-- All values of an option. -/
def values (a : Arguments) (long : String) : List String :=
  (a.options.filter (·.1 == long)).map Prod.snd

/-- Takes an option with its value. -/
def give (a : Arguments) (r : Rule) (value : String) : Except Stop Arguments :=
  if r.arity != .repeated && a.has r.long then .error .usage
  else if !r.accepts value then .error .usage
  else .ok { a with options := a.options ++ [(r.long, value)], waiting := none }

/-- Takes an option that has a value attached to it, or has none. -/
def giveAttached (a : Arguments) (r : Rule) : Option String → Except Stop Arguments
  | some value => if r.arity = .flag then .error .usage else a.give r value
  | none => if r.arity = .flag then a.give r "" else .ok { a with waiting := some r }

/-- Takes a positional argument. -/
def position (a : Arguments) (g : Grammar) (value : String) : Except Stop Arguments :=
  match g.positionals[a.positionals.length]? with
  | some accepts =>
    if accepts value then .ok { a with positionals := a.positionals ++ [value] } else .error .usage
  | none => .error .usage

/-- The parts of an option before and after the first equals sign. -/
def splitEquals (cs : List Char) : String × Option String :=
  let name := cs.takeWhile (· != '=')
  match cs.dropWhile (· != '=') with
  | [] => (String.ofList name, none)
  | _ :: value => (String.ofList name, some (String.ofList value))

/-- Takes an argument that begins with two hyphens, given without them. -/
def long (a : Arguments) (g : Grammar) (cs : List Char) : Except Stop Arguments :=
  let (name, value) := splitEquals cs
  match g.options.find? (·.long == name) with
  | some r => a.giveAttached r value
  | none =>
    if value.isSome then .error .usage
    else if name == "help" then .error .help
    else if name == "version" && g.version then .error .version
    else .error .usage

/-- Takes an argument that begins with one hyphen, given as the letter after it and what follows. -/
def short (a : Arguments) (g : Grammar) (letter : Char) (cs : List Char) : Except Stop Arguments :=
  match g.options.find? (·.short == some letter) with
  | some r =>
    match cs with
    | [] => a.giveAttached r none
    | '=' :: value => a.giveAttached r (some (String.ofList value))
    | value => a.giveAttached r (some (String.ofList value))
  | none =>
    if letter == 'h' then .error .help
    else if letter == 'V' && g.version then .error .version
    else .error .usage

/-- Takes the next argument. -/
def take (a : Arguments) (g : Grammar) (arg : String) : Except Stop Arguments :=
  if a.rest then a.position g arg
  else
    match arg.toList, a.waiting with
    | '-' :: _ :: _, some _ => .error .usage
    | ['-', '-'], none => .ok { a with rest := true }
    | '-' :: '-' :: cs, none => a.long g cs
    | '-' :: letter :: cs, none => a.short g letter cs
    | _, some r => a.give r arg
    | _, none => a.position g arg

/-- Sets an option that was not given from its variable. -/
def fromVariable (lookup : String → Option String) (a : Arguments) (r : Rule) :
    Except Stop Arguments :=
  match a.has r.long, r.standIn.bind lookup with
  | false, some value => a.give r value
  | _, _ => .ok a

/-- Reads the arguments of a command. -/
def read (g : Grammar) (lookup : String → Option String) (args : List String) :
    Except Stop Arguments := do
  let a ← args.foldlM (·.take g ·) ({} : Arguments)
  if a.waiting.isSome then throw .usage
  let a ← g.options.foldlM (fromVariable lookup) a
  if a.positionals.length < g.positionals.length then throw .usage
  return a

end Arguments

end AccessControl.CommandLine
