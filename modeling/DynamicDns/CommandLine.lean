import DynamicDns.Event
import DynamicDns.Text.Terminal

/-! # Command line

The arguments of the program. An option with a value takes it from its own word
or from the next one; a value is looked at once the next option comes, or at the
end. Switches of one letter may share a word, and `--` ends the options.
-/

namespace DynamicDns

structure CommandLine where
  config : String
  /-- Network interface, instead of the file's. -/
  iface : Option String
  once : Bool
  checkConfig : Bool
  dump : Bool
  logLevel : Level
  deriving Repr, DecidableEq

inductive UsageError where
  | unknownArgument
  /-- An option lacks its value, or has an empty one. -/
  | invalidValue
  | valueValidation
  /-- Arguments exclude each other, or one of them came twice. -/
  | argumentConflict
  | tooManyValues
  deriving Repr, DecidableEq

def UsageError.message : UsageError → String
  | .unknownArgument => "unexpected argument"
  | .invalidValue => "a value is required but none was supplied"
  | .valueValidation => "invalid value"
  | .argumentConflict => "arguments cannot be used together"
  | .tooManyValues => "unexpected value for a switch"

/-- Read a level: a name in any case, or a number from one for errors to five for traces. -/
def Level.ofString? (text : String) : Option Level :=
  let digits := match text.toList with
    | '+' :: digits => digits
    | digits => digits
  if digits ≠ [] ∧ digits.all Char.isDigit then
    match Nat.ofDigitChars 10 digits 0 with
    | 1 => some .error
    | 2 => some .warn
    | 3 => some .info
    | 4 => some .debug
    | 5 => some .trace
    | _ => none
  else
    let upper := String.ofList (text.toList.map Char.toUpper)
    [Level.error, .warn, .info, .debug, .trace].find? (·.name = upper)

namespace CommandLine

def defaultConfig : String := "/etc/ddnsd.toml"

def versionText : String := "ddnsd 0.1.0\n"

/-- The column that the descriptions of options stand in. -/
def helpColumn : Nat := 31

/-- A description, each line of it moved to its column. -/
def indented (description : String) : String :=
  String.ofList <| description.toList.flatMap fun c =>
    if c = '\n' then c :: List.replicate helpColumn ' ' else [c]

/-- The lines on one option, with its names in bold. -/
def helpEntry (short : Option Char) (long value description : String) : String :=
  let letter := match short with
    | some c => Text.bold ("-" ++ c.toString) ++ ", "
    | none => "    "
  let width := 8 + long.length + value.length
  let gap := String.ofList (List.replicate (helpColumn - width) ' ')
  "  " ++ letter ++ Text.bold ("--" ++ long) ++ value ++ gap ++ indented description ++ "\n"

/-- What the program answers when asked for help, with marks. It tells the level that the
    environment gives. -/
def helpPage (envLevel : Option String) : String :=
  String.join [
    "ddnsd - keeps DNS records pointed at a dynamic address\n\n",
    Text.bold "Usage:" ++ " " ++ Text.bold "ddnsd" ++ " [OPTIONS]\n\n",
    Text.bold "Options:" ++ "\n",
    helpEntry (some 'f') "config" " <FILE>" "Configuration file [default: /etc/ddnsd.toml]",
    helpEntry (some 'i') "iface" " <IFNAME>"
      "Network interface to read the address from, overrides `iface`",
    helpEntry (some '1') "once" "" "Run a single update iteration",
    helpEntry none "check-config" "" "Load and validate the configuration, then exit",
    helpEntry none "dump" "" "Print the loaded configuration as JSON, then exit",
    helpEntry (some 'l') "log-level" " <LOG_LEVEL>" <|
      "Log level (trace, debug, info, warn, error) [env: DDNS_LOG_LEVEL=" ++ envLevel.getD "" ++
        "] [default: info]",
    helpEntry (some 'h') "help" "" "Print help",
    helpEntry (some 'V') "version" "" "Print version"]

def helpText (envLevel : Option String) : String :=
  Text.unmarked (helpPage envLevel)

/-- Options with a value. -/
inductive Setting where
  | config
  | iface
  | logLevel
  deriving Repr, DecidableEq

/-- Options without a value. -/
inductive Switch where
  | once
  | checkConfig
  | dump
  | help
  | version
  deriving Repr, DecidableEq

/-- The option of a word after two dashes. -/
def long? : String → Option (Setting ⊕ Switch)
  | "config" => some (.inl .config)
  | "iface" => some (.inl .iface)
  | "log-level" => some (.inl .logLevel)
  | "once" => some (.inr .once)
  | "check-config" => some (.inr .checkConfig)
  | "dump" => some (.inr .dump)
  | "help" => some (.inr .help)
  | "version" => some (.inr .version)
  | _ => none

/-- The option of a letter after one dash. -/
def short? : Char → Option (Setting ⊕ Switch)
  | 'f' => some (.inl .config)
  | 'i' => some (.inl .iface)
  | 'l' => some (.inl .logLevel)
  | '1' => some (.inr .once)
  | 'h' => some (.inr .help)
  | 'V' => some (.inr .version)
  | _ => none

/-- Why there is nothing to do, or nothing that could be done. -/
inductive Stop where
  | help
  | version
  | usage (error : UsageError)
  deriving Repr, DecidableEq

/-- The arguments read so far. -/
structure Progress where
  /-- Value of the option, once it was looked at. -/
  config : Option String := none
  /-- Value of the option, once it was looked at. -/
  iface : Option String := none
  /-- Value of the option, once it was looked at. -/
  logLevel : Option Level := none
  once : Bool := false
  checkConfig : Bool := false
  dump : Bool := false
  /-- The last option, if its value was not looked at yet, and the value, if it came. -/
  pending : Option (Setting × Option String) := none
  deriving Repr, DecidableEq

namespace Progress

def fail {α : Type} (error : UsageError) : Except Stop α := .error (.usage error)

/-- Look at the value of an option. -/
def store (p : Progress) (setting : Setting) (value : String) : Except Stop Progress :=
  match setting with
  | .config =>
    if p.config.isSome then fail .argumentConflict
    else if value = "" then fail .invalidValue
    else .ok { p with config := some value }
  | .iface =>
    if p.iface.isSome then fail .argumentConflict
    else .ok { p with iface := some value }
  | .logLevel =>
    if p.logLevel.isSome then fail .argumentConflict
    else
      match Level.ofString? value with
      | some level => .ok { p with logLevel := some level }
      | none => fail .valueValidation

def settle (p : Progress) : Except Stop Progress :=
  match p.pending with
  | none => .ok p
  | some (_, none) => fail .invalidValue
  | some (setting, some value) => { p with pending := none }.store setting value

def flip (p : Progress) (switch : Switch) : Except Stop Progress := do
  let p ← p.settle
  match switch with
  | .once => if p.once then fail .argumentConflict else return { p with once := true }
  | .checkConfig =>
    if p.checkConfig then fail .argumentConflict else return { p with checkConfig := true }
  | .dump => if p.dump then fail .argumentConflict else return { p with dump := true }
  | .help => .error .help
  | .version => .error .version

/-- An option came, with the value from its own word, if there was one. -/
def name (p : Progress) (setting : Setting) (attached : Option String) : Except Stop Progress := do
  let p ← p.settle
  match attached with
  | some value => p.store setting value
  | none => return { p with pending := some (setting, none) }

/-- A word after two dashes came, with the value after its equals sign, if there was one. -/
def long (p : Progress) (word : List Char) : Except Stop Progress :=
  let value := match word.dropWhile (· ≠ '=') with
    | [] => none
    | _ :: value => some (String.ofList value)
  match long? (String.ofList (word.takeWhile (· ≠ '='))) with
  | some (.inl setting) => p.name setting value
  | some (.inr switch) => if value.isSome then fail .tooManyValues else p.flip switch
  | none => fail .unknownArgument

/-- Letters after one dash came. What follows the letter of an option is its value. -/
def short (p : Progress) : List Char → Except Stop Progress
  | [] => .ok p
  | c :: rest =>
    match short? c with
    | some (.inl setting) =>
      let value := match rest with
        | [] => none
        | '=' :: value => some (String.ofList value)
        | value => some (String.ofList value)
      p.name setting value
    | some (.inr switch) => do (← p.flip switch).short rest
    | none => fail .unknownArgument

/-- A word came that is no option: it has to be the value of the last one. -/
def plain (p : Progress) (word : String) : Except Stop Progress :=
  match p.pending with
  | some (setting, none) => .ok { p with pending := some (setting, some word) }
  | _ => fail .unknownArgument

def readAll (p : Progress) : List String → Except Stop Progress
  | [] => .ok p
  | word :: rest =>
    match word.toList with
    | ['-', '-'] => if rest.isEmpty then .ok p else fail .unknownArgument
    | '-' :: '-' :: name => do (← p.long name).readAll rest
    | '-' :: c :: letters => do (← p.short (c :: letters)).readAll rest
    | _ => do (← p.plain word).readAll rest

end Progress

/-- Read the arguments of the program. The environment's level counts where they give none. -/
def parse (envLevel : Option String) (args : List String) : Except Stop CommandLine := do
  let p ← Progress.readAll {} args
  let p ← p.settle
  let p ← match p.logLevel, envLevel with
    | none, some level => p.store .logLevel level
    | _, _ => .ok p
  if p.dump && p.checkConfig then Progress.fail .argumentConflict
  return {
    config := p.config.getD defaultConfig
    iface := p.iface
    once := p.once
    checkConfig := p.checkConfig
    dump := p.dump
    logLevel := p.logLevel.getD .info }

end CommandLine

end DynamicDns
