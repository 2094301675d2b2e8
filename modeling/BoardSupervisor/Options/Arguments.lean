import BoardSupervisor.Options.Basic

/-!
# The program's arguments

Arguments are read from the first to the last. A value may be attached to its option with an equals
sign or may follow as the next argument. A value that follows is looked at only when the next
argument has been read, so an argument that the program does not know is reported before a faulty
value in front of it, while a call for help or for the version comes after it.
-/

namespace BoardSupervisor

/-- Why the arguments do not lead to a run of the program. -/
inductive Refusal where
  /-- The operator asks for help. -/
  | helpWanted
  /-- The operator asks for the version. -/
  | versionWanted
  /-- An argument is not known. -/
  | unknownArgument
  /-- A value is attached to an option that takes none. -/
  | needlessValue
  /-- An option is given twice. -/
  | repeated
  /-- An option lacks its value, or has an empty one. -/
  | missingValue
  /-- A value is not of the kind that its option takes. -/
  | badValue (fault : ValueFault)
  deriving DecidableEq, Repr

namespace Options

/-- An option that waits to be settled, with the value that has followed it, if one has. -/
structure Waiting where
  /-- The option. -/
  setting : Setting
  /-- The argument after it. -/
  value : Option String

/-- What has been read of the arguments. -/
structure Progress where
  /-- The options as settled so far. -/
  options : Options := {}
  /-- The options that take a value and have been settled. -/
  given : List Setting := []
  /-- The option that waits to be settled. -/
  waiting : Option Waiting := none

/-- One argument by its form. -/
inductive Argument where
  /-- Two dashes, which end the options. -/
  | endOfOptions
  /-- An option that takes a value, with the value attached to it. -/
  | valued (setting : Setting) (attached : Option String)
  /-- The option for whole lines. -/
  | lineMode
  /-- The option for help. -/
  | help
  /-- The option for the version. -/
  | version
  /-- An option that takes no value, with one attached to it. -/
  | withNeedlessValue
  /-- Something that begins like an option. -/
  | unknownOption
  /-- Anything else. -/
  | word (text : String)
  deriving DecidableEq, Repr

namespace Argument

/-- An option that takes no value, by its name. -/
def switch? : String → Option Argument
  | "line-mode" => some .lineMode
  | "help" => some .help
  | "version" => some .version
  | _ => none

/-- An option with two dashes, by its name and the value attached to it. -/
def ofName (name : String) (attached : Option String) : Argument :=
  match Setting.names.lookup name, switch? name, attached with
  | some setting, _, attached => .valued setting attached
  | none, some switch, none => switch
  | none, some _, some _ => .withNeedlessValue
  | none, none, _ => .unknownOption

/-- A text before its first equals sign, and the text after it, if there is one. -/
def splitValue (text : List Char) : String × Option String :=
  let name := String.ofList (text.takeWhile (· != '='))
  match text.dropWhile (· != '=') with
  | [] => (name, none)
  | _ :: value => (name, some (String.ofList value))

/-- An argument by its form. Of several letters after one dash the first decides. -/
def ofText (text : String) : Argument :=
  match text.toList with
  | ['-', '-'] => .endOfOptions
  | '-' :: '-' :: rest => let (name, attached) := splitValue rest; ofName name attached
  | '-' :: 'h' :: _ => .help
  | '-' :: 'V' :: _ => .version
  | '-' :: _ :: _ => .unknownOption
  | _ => .word text

end Argument

namespace Progress

/-- Settle an option with its value. -/
def settle (progress : Progress) (setting : Setting) (value : Option String) :
    Except Refusal Progress :=
  match value with
  | none => .error .missingValue
  | some text =>
    if setting ∈ progress.given then .error .repeated
    else match setting.assign text progress.options with
      | .ok options => .ok { progress with options := options, given := setting :: progress.given }
      | .error .emptyPath => .error .missingValue
      | .error (.rejected fault) => .error (.badValue fault)

/-- Settle the option that waits, if one does. -/
def settleWaiting (progress : Progress) : Except Refusal Progress :=
  match progress.waiting with
  | none => .ok progress
  | some waiting => { progress with waiting := none }.settle waiting.setting waiting.value

/-- Read one argument. -/
def read (progress : Progress) (argument : Argument) : Except Refusal Progress :=
  match argument with
  | .endOfOptions => .ok progress
  | .valued setting none => do
    let progress ← progress.settleWaiting
    return { progress with waiting := some ⟨setting, none⟩ }
  | .valued setting (some value) => do
    let progress ← progress.settleWaiting
    progress.settle setting (some value)
  | .lineMode => do
    let progress ← progress.settleWaiting
    if progress.options.lineMode then .error .repeated
    else return { progress with options := { progress.options with lineMode := true } }
  | .help => do
    let _ ← progress.settleWaiting
    .error .helpWanted
  | .version => do
    let _ ← progress.settleWaiting
    .error .versionWanted
  | .withNeedlessValue => .error .needlessValue
  | .unknownOption => .error .unknownArgument
  | .word text =>
    match progress.waiting with
    | some ⟨setting, none⟩ => .ok { progress with waiting := some ⟨setting, some text⟩ }
    | _ => .error .unknownArgument

/-- Read all arguments. After two dashes no argument is an option or the value of one. -/
def readAll (progress : Progress) : List String → Except Refusal Options
  | [] => do
    let progress ← progress.settleWaiting
    return progress.options
  | text :: rest =>
    match Argument.ofText text, rest with
    | .endOfOptions, _ :: _ => .error .unknownArgument
    | argument, rest => do
      let progress ← progress.read argument
      progress.readAll rest

end Progress

/-- The options that the program's arguments choose. -/
def ofArguments (arguments : List String) : Except Refusal Options :=
  ({} : Progress).readAll arguments

end Options

end BoardSupervisor
