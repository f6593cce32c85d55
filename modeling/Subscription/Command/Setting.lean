import Subscription.Files.Path

/-!
# The settings of the program

A `Setting` is named on the command line, or in a variable of the environment, and has a usual value
where neither names it. `Setting.accepts` says which values it may have. A `Configuration` holds
what all settings but the token come to.
-/

namespace Subscription

/-- A setting that the command line can give. -/
inductive Setting where
  /-- The directory that stands for the root of the file system. -/
  | root
  /-- The directory for what the program keeps. -/
  | dataDir
  /-- The base address of the contract server. -/
  | contractUrl
  /-- How many seconds a request may take. -/
  | timeout
  /-- The types of the services to bring in line. -/
  | services
  /-- The contract token to attach with. -/
  | token
  deriving DecidableEq, Repr

/-- Why a command line is not carried out. -/
inductive Halt where
  /-- Nothing was given at all. -/
  | noArguments
  | missingCommand
  | unknownCommand
  | unknownArgument
  /-- The command lacks something that it needs. -/
  | missingArgument
  /-- A setting has no value, or an empty one where there has to be something. -/
  | missingValue
  | invalidValue
  /-- A setting with a single value was given twice. -/
  | repeatedSetting
  /-- A value was given to something that has none. -/
  | superfluousValue
  | helpRequested
  | versionRequested
  deriving DecidableEq, Repr

namespace Setting

/-- The settings that every command has. -/
def common : List Setting := [.root, .dataDir, .contractUrl, .timeout, .services]

/-- The name on the command line. -/
def name : Setting → String
  | .root => "root"
  | .dataDir => "data-dir"
  | .contractUrl => "contract-url"
  | .timeout => "timeout-secs"
  | .services => "service"
  | .token => "token"

/-- The name of the variable. -/
def variableName? : Setting → Option String
  | .root => none
  | .dataDir => some "CONTRACT_SYNC_DATA_DIR"
  | .contractUrl => some "CONTRACT_SYNC_CONTRACT_URL"
  | .timeout => some "CONTRACT_SYNC_TIMEOUT_SECS"
  | .services => some "CONTRACT_SYNC_SERVICES"
  | .token => some "CONTRACT_SYNC_TOKEN"

/-- Whether the setting has several values, each of which may be given by itself. -/
def isList (setting : Setting) : Bool := setting == .services

/-- The values in a text. -/
def valuesIn (setting : Setting) (text : String) : List String :=
  if setting.isList then (splitAt ',' text.toList).map String.ofList else [text]

/-- The whole number that a text is, with or without a plus sign. -/
def wholeNumber? (text : String) : Option Nat :=
  let digits := (behind? ['+'] text.toList).getD text.toList
  if digits.isEmpty || !digits.all Char.isDigit then none
  else some (digits.foldl (fun value c => value * 10 + (c.toNat - '0'.toNat)) 0)

/-- The seconds that a text is, if a request may take so many. -/
def seconds? (text : String) : Option Nat :=
  (wholeNumber? text).filter fun seconds => 1 ≤ seconds && seconds ≤ 600

/-- Checks a value. -/
def accepts (setting : Setting) (value : String) : Except Halt Unit :=
  match setting with
  | .root | .dataDir => if value.isEmpty then .error .missingValue else .ok ()
  | .timeout => if (seconds? value).isSome then .ok () else .error .invalidValue
  | .contractUrl | .services | .token => .ok ()

end Setting

/-- What the settings come to. -/
structure Configuration where
  root : String := "/"
  dataDir : String := "/var/lib/contract-sync"
  contractUrl : String := "https://contracts.canonical.com"
  timeoutSecs : Nat := 30
  services : List String := ["cis", "esm-apps", "esm-infra", "fips", "livepatch"]
  deriving DecidableEq, Repr

namespace Configuration

/-- The directory of the stored entries. -/
def storeDir (configuration : Configuration) : String := PathText.join configuration.dataDir "cache"

end Configuration

end Subscription
