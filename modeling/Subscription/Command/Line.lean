import Subscription.Command.Setting
import Subscription.Keyed

/-!
# The command line

A command line names settings, a command, and settings again, some of which may belong to the
command. `CommandLine.read` finds the command and the configuration, or the first reason to halt. A
setting counts before the usual value if a variable gives it, and before the variable if the command
line does; behind the command it counts before one in front of it.

A setting is looked into only when the next one is met, or at the end; what stands behind a command
is read before the settings in front of it are complete. This decides which of several reasons is
given.
-/

namespace Subscription

/-- A command by its name. -/
inductive CommandName where
  | attach
  | refresh
  | detach
  | access
  | resources
  deriving DecidableEq, Repr

namespace CommandName

/-- The name on the command line. -/
def text : CommandName → String
  | .attach => "attach"
  | .refresh => "refresh"
  | .detach => "detach"
  | .access => "access"
  | .resources => "resources"

/-- The command of this name. -/
def ofText? (text : String) : Option CommandName :=
  [.attach, .refresh, .detach, .access, .resources].find? fun name => name.text = text

end CommandName

/-- What the program is told to do. -/
inductive Command where
  | attach (token : String)
  | refresh
  | detach
  | access (resource : String)
  | resources
  deriving DecidableEq, Repr

/-- A command with the configuration to carry it out under. -/
structure CommandLine where
  command : Command
  configuration : Configuration
  deriving DecidableEq, Repr

namespace CommandLine

/-! ### Reading one level -/

/-- A part of the command line: in front of the command, or behind it. -/
inductive Level where
  | program
  | command (name : CommandName)
  deriving DecidableEq, Repr

namespace Level

/-- The settings that may stand here. -/
def settings : Level → List Setting
  | .command .attach => .token :: Setting.common
  | _ => Setting.common

/-- The setting of this name. -/
def setting? (level : Level) (name : String) : Option Setting :=
  level.settings.find? fun setting => setting.name = name

/-- The command that may be named here. -/
def command? (level : Level) (arg : String) : Option CommandName :=
  if level = .program then CommandName.ofText? arg else none

end Level

/-- What was read so far of a level. -/
structure Progress where
  given : List (Setting × List String) := []
  /-- The setting met last, with its value once that is met. -/
  pending : Option (Setting × Option String) := none
  resource : Option String := none
  deriving Repr

namespace Progress

/-- Takes a value for a setting. -/
def take (progress : Progress) (setting : Setting) (value : String) : Except Halt Progress := do
  let before := progress.given.lookup setting
  if before.isSome && !setting.isList then throw .repeatedSetting
  let values := setting.valuesIn value
  values.forM setting.accepts
  let others := progress.given.filter fun entry => entry.1 ≠ setting
  return { progress with given := (setting, before.getD [] ++ values) :: others }

/-- Looks into the setting met last. -/
def settle (progress : Progress) : Except Halt Progress :=
  match progress.pending with
  | none => .ok progress
  | some (_, none) => .error .missingValue
  | some (setting, some value) => { progress with pending := none }.take setting value

/-- Takes an argument that is no setting. -/
def operand (progress : Progress) (level : Level) (trailing : Bool) (arg : String) :
    Except Halt Progress :=
  if level = .command .access && progress.resource.isNone then do
    let progress ← progress.settle
    return { progress with resource := some arg }
  else if level = .program && !(trailing && (level.command? arg).isSome) then .error .unknownCommand
  else .error .unknownArgument

/-- Takes a request for help or for the version. -/
def ask (progress : Progress) (halt : Halt) : Except Halt Progress := do
  let _ ← progress.settle
  throw halt

/-- Takes an argument that begins with two hyphens, by what follows them. -/
def long (progress : Progress) (level : Level) (arg : List Char) : Except Halt Progress :=
  let name := String.ofList (arg.takeWhile (· ≠ '='))
  let value := (behind? ['='] (arg.dropWhile (· ≠ '='))).map String.ofList
  match level.setting? name, value with
  | some setting, some value => do
    let progress ← progress.settle
    progress.take setting value
  | some setting, none => do
    let progress ← progress.settle
    return { progress with pending := some (setting, none) }
  | none, value =>
    let asked : Option Halt :=
      if name = "help" then some .helpRequested
      else if name = "version" && level = .program then some .versionRequested
      else none
    match asked, value with
    | none, _ => .error .unknownArgument
    | some _, some _ => .error .superfluousValue
    | some halt, none => progress.ask halt

/-- Takes an argument that begins with one hyphen, by what follows it. -/
def short (progress : Progress) (level : Level) (c : Char) : Except Halt Progress :=
  if c = 'h' then progress.ask .helpRequested
  else if c = 'V' && level = .program then progress.ask .versionRequested
  else .error .unknownArgument

/-- Whether the setting met last still lacks its value. -/
def isAwaiting (progress : Progress) : Bool :=
  match progress.pending with
  | some (_, none) => true
  | _ => false

/-- Takes an argument that does not begin with a hyphen: the value that is awaited, or an operand.
-/
def plain (progress : Progress) (level : Level) (arg : String) : Except Halt Progress :=
  match progress.pending with
  | some (setting, none) => .ok { progress with pending := some (setting, some arg) }
  | _ => progress.operand level false arg

end Progress

/-- Reads a level, up to the name of a command. Behind two hyphens nothing is a setting. -/
def scan (level : Level) (progress : Progress) (trailing : Bool) :
    List String → Except Halt (Progress × Option (CommandName × List String))
  | [] => .ok (progress, none)
  | arg :: rest => do
    if trailing then
      scan level (← progress.operand level true arg) true rest
    else
      let named := if progress.isAwaiting then none else level.command? arg
      match named, arg.toList with
      | some name, _ => return (progress, some (name, rest))
      | none, ['-', '-'] => scan level progress true rest
      | none, '-' :: '-' :: arg => scan level (← progress.long level arg) false rest
      | none, '-' :: c :: _ => scan level (← progress.short level c) false rest
      | none, _ => scan level (← progress.plain level arg) false rest

/-! ### From levels to a command -/

/-- Where a value comes from. -/
inductive Origin where
  | variable
  | line
  deriving DecidableEq, Repr

/-- What is known of the settings of a level. -/
abbrev Values := List (Setting × Origin × List String)

/-- Adds the variables for the settings that a level has and does not give. -/
def addVariables (assigned : Keyed String) (progress : Progress) :
    List Setting → Except Halt Values
  | [] => .ok []
  | setting :: rest => do
    match progress.given.lookup setting, setting.variableName?.bind assigned.get? with
    | some values, _ => return (setting, .line, values) :: (← addVariables assigned progress rest)
    | none, some text =>
      let values := setting.valuesIn text
      values.forM setting.accepts
      return (setting, .variable, values) :: (← addVariables assigned progress rest)
    | none, none => addVariables assigned progress rest

/-- What is known of the settings of a level when it has been read. -/
def complete (level : Level) (assigned : Keyed String) (progress : Progress) :
    Except Halt Values := do
  addVariables assigned (← progress.settle) level.settings

/-- The values of a setting: those behind the command, unless the ones in front of it have the
better origin. -/
def choose (front behind : Values) (setting : Setting) : Option (List String) :=
  match front.lookup setting, behind.lookup setting with
  | some (.line, values), some (.variable, _) => some values
  | _, some (_, values) => some values
  | some (_, values), none => some values
  | none, none => none

/-- The configuration that the settings come to. -/
def configurationOf (front behind : Values) : Configuration :=
  let chosen := choose front behind
  let single (setting : Setting) : Option String := (chosen setting).bind List.head?
  let usual : Configuration := {}
  { root := (single .root).getD usual.root
    dataDir := (single .dataDir).getD usual.dataDir
    contractUrl := (single .contractUrl).getD usual.contractUrl
    timeoutSecs := ((single .timeout).bind Setting.seconds?).getD usual.timeoutSecs
    services := (chosen .services).getD usual.services }

/-- The command of this name, with what it needs. -/
def commandOf (name : CommandName) (values : Values) (resource : Option String) :
    Except Halt Command :=
  match name with
  | .attach =>
    match (values.lookup .token).bind fun (_, values) => values.head? with
    | some token => .ok (.attach token)
    | none => .error .missingArgument
  | .refresh => .ok .refresh
  | .detach => .ok .detach
  | .access => resource.elim (.error .missingArgument) fun resource => .ok (.access resource)
  | .resources => .ok .resources

/-- The command line that arguments make, with the variables of the environment. -/
def read (assigned : Keyed String) (args : List String) : Except Halt CommandLine := do
  let (front, named) ← scan .program {} false args
  match named with
  | none =>
    let values ← complete .program assigned front
    throw (if values.isEmpty then .noArguments else .missingCommand)
  | some (name, rest) =>
    let (behind, _) ← scan (.command name) {} false rest
    let behindValues ← complete (.command name) assigned behind
    let command ← commandOf name behindValues behind.resource
    let frontValues ← complete .program assigned front
    return { command, configuration := configurationOf frontValues behindValues }

end CommandLine

end Subscription
