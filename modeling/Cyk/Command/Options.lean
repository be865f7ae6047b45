/-!
# Command line options

The arguments of the program: sentences, a grammar file, a start symbol and two switches.  An option
whose value has not come yet stays open until the next argument settles it.
-/

namespace Cyk.Command

/-- What the arguments ask for. -/
structure Options where
  sentences : List String := []
  grammar : Option String := none
  start : Option String := none
  plain : Bool := false
  highlight : Bool := false
deriving DecidableEq, Repr

/-- The options that take a value. -/
inductive Setting where
  | grammar
  | start
deriving DecidableEq, Repr

/-- The options without a value. -/
inductive Switch where
  | plain
  | highlight
  | version
  | help
deriving DecidableEq, Repr

/-- A setting as messages name it. -/
def Setting.text : Setting → String
  | .grammar => "--grammar <FILE>"
  | .start => "--start <SYMBOL>"

/-- A switch as messages name it. -/
def Switch.text : Switch → String
  | .plain => "--plain"
  | .highlight => "--highlight"
  | .version => "--version"
  | .help => "--help"

/-- Why arguments cannot be understood. -/
inductive UsageError where
  | unexpectedArgument (argument : String)
  | missingValue (setting : Setting)
  | unexpectedValue (value : String) (switch : Switch)
  | repeated (option : String)
deriving DecidableEq, Repr

/-- The error in words. -/
def UsageError.message : UsageError → String
  | .unexpectedArgument argument => "unexpected argument '" ++ argument ++ "' found"
  | .missingValue setting =>
    "a value is required for '" ++ setting.text ++ "' but none was supplied"
  | .unexpectedValue value switch =>
    "unexpected value '" ++ value ++ "' for '" ++ switch.text ++ "' found; no more were expected"
  | .repeated option => "the argument '" ++ option ++ "' cannot be used multiple times"

/-- What ends the reading of arguments early. -/
inductive Stop where
  | usage (error : UsageError)
  | version
  | help
deriving DecidableEq, Repr

/-- The arguments read so far. -/
structure Progress where
  options : Options := {}
  /-- The setting that came last, with its value if that has come too, while neither is settled. -/
  pending : Option (Setting × Option String) := none
  /-- Whether all further arguments are sentences. -/
  sentencesOnly : Bool := false
deriving DecidableEq, Repr

namespace Progress

/-- Gives a setting its value.  A setting has one value, and a file has a name. -/
def assign (progress : Progress) (setting : Setting) (value : String) : Except Stop Progress :=
  match setting with
  | .grammar =>
    if progress.options.grammar.isSome then .error (.usage (.repeated setting.text))
    else if value.isEmpty then .error (.usage (.missingValue setting))
    else .ok { progress with options.grammar := some value }
  | .start =>
    if progress.options.start.isSome then .error (.usage (.repeated setting.text))
    else .ok { progress with options.start := some value }

/-- Settles the setting that came last: without a value it is an error. -/
def settle (progress : Progress) : Except Stop Progress :=
  match progress.pending with
  | none => .ok progress
  | some (setting, none) => .error (.usage (.missingValue setting))
  | some (setting, some value) => assign { progress with pending := none } setting value

/-- Takes an argument as a sentence. -/
def sentence (progress : Progress) (argument : String) : Except Stop Progress := do
  let progress ← progress.settle
  return { progress with options.sentences := progress.options.sentences ++ [argument] }

/-- Takes a setting whose value is part of its argument, or comes after it. -/
def setting (progress : Progress) (setting : Setting) (value : Option String) :
    Except Stop Progress := do
  let progress ← progress.settle
  match value with
  | some value => progress.assign setting value
  | none => return { progress with pending := some (setting, none) }

/-- Takes a switch. -/
def switch (progress : Progress) (switch : Switch) : Except Stop Progress := do
  let progress ← progress.settle
  match switch with
  | .plain =>
    if progress.options.plain then throw (.usage (.repeated switch.text))
    return { progress with options.plain := true }
  | .highlight =>
    if progress.options.highlight then throw (.usage (.repeated switch.text))
    return { progress with options.highlight := true }
  | .version => throw .version
  | .help => throw .help

/-- The part of an option before its first equals sign, and what is after the sign. -/
def splitValue (option : List Char) : String × Option String :=
  let name := String.ofList (option.takeWhile (· != '='))
  match option.dropWhile (· != '=') with
  | [] => (name, none)
  | _ :: value => (name, some (String.ofList value))

/-- Takes a switch in its long form, which has no value. -/
def longSwitch (progress : Progress) (switch : Switch) : Option String → Except Stop Progress
  | none => progress.switch switch
  | some value => .error (.usage (.unexpectedValue value switch))

/-- Takes an option in its long form, without the dashes. -/
def long (progress : Progress) (option : List Char) : Except Stop Progress :=
  let (name, value) := splitValue option
  match name with
  | "grammar" => progress.setting .grammar value
  | "start" => progress.setting .start value
  | "plain" => progress.longSwitch .plain value
  | "highlight" => progress.longSwitch .highlight value
  | "version" => progress.longSwitch .version value
  | "help" => progress.longSwitch .help value
  | _ => .error (.usage (.unexpectedArgument ("--" ++ name)))

/-- The value behind the letter of a setting: all that follows, less an equals sign. -/
def shortValue : List Char → Option String
  | [] => none
  | '=' :: value => some (String.ofList value)
  | value => some (String.ofList value)

/-- Takes an option in its short form, a letter and what follows it. -/
def short (progress : Progress) (letter : Char) (rest : List Char) : Except Stop Progress :=
  match letter with
  | 'g' => progress.setting .grammar (shortValue rest)
  | 's' => progress.setting .start (shortValue rest)
  | 'V' => progress.switch .version
  | 'h' => progress.switch .help
  | _ => .error (.usage (.unexpectedArgument (String.ofList ['-', letter])))

/-- Takes one argument.  A lone dash is a sentence, and so is everything after two. -/
def argument (progress : Progress) (text : String) : Except Stop Progress :=
  if progress.sentencesOnly then progress.sentence text
  else
    match text.toList with
    | ['-', '-'] => .ok { progress with sentencesOnly := true }
    | '-' :: '-' :: option => progress.long option
    | '-' :: letter :: rest => progress.short letter rest
    | _ =>
      match progress.pending with
      | some (setting, none) => .ok { progress with pending := some (setting, some text) }
      | _ => progress.sentence text

end Progress

/-- Reads the arguments of the program. -/
def Options.parse (arguments : List String) : Except Stop Options := do
  let progress ← arguments.foldlM Progress.argument {}
  return (← progress.settle).options

end Cyk.Command
