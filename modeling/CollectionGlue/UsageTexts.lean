import CollectionGlue.CommandLines
import CollectionGlue.ControlSequences

/-! # What the program says about its use: help, version and usage faults -/
namespace CollectionGlue

def Action.summary : Action → String
  | .compare => "emit a three-way `<tag>_compare` for every numeric type tag"
  | .dict => "emit a `<key>_to_<value>_dictionary_create` for every ordered pair of type tags"
  | .table => "print the active type table as JSON (the format `--types` accepts)"

def helpSummary : String := "Print this message or the help of the given subcommand(s)"

def paddedTo (width : Nat) (text : String) : String :=
  text ++ String.ofList (List.replicate (width - text.length) ' ')

def ValueOption.helpLine : ValueOption → String
  | .types => "      --types <TYPES>  JSON type table to use instead of the built-in one\n"
  | .out => "  -o, --out <OUT>      output file (stdout if omitted)\n"

def Switch.summary : Switch → String
  | .header => "emit prototypes instead of definitions"
  | .nullGuard => "return early when either pointer is NULL"
  | .noOp => "debugging"

def Switch.helpLine (w : Switch) : String :=
  "      " ++ paddedTo 17 w.shown ++ w.summary ++ "\n"

def Action.commandLine (a : Action) : String := "  " ++ paddedTo 9 a.name ++ a.summary ++ "\n"

def HelpTopic.text : HelpTopic → String
  | .program =>
    "generate boilerplate C for the generic collections library\n\n" ++
    "Usage: collgen <COMMAND>\n\n" ++
    "Commands:\n" ++ String.join (Action.all.map Action.commandLine) ++
    "  " ++ paddedTo 9 "help" ++ helpSummary ++ "\n\n" ++
    "Options:\n  -h, --help     Print help\n  -V, --version  Print version\n"
  | .action a =>
    a.summary ++ "\n\nUsage: collgen " ++ a.name ++ " [OPTIONS]\n\nOptions:\n" ++
    String.join (ValueOption.all.map ValueOption.helpLine) ++
    String.join (a.switches.map Switch.helpLine) ++
    "  -h, --help           Print help\n"
  | .help =>
    helpSummary ++ "\n\nUsage: collgen help [COMMAND]...\n\n" ++
    "Arguments:\n  [COMMAND]...  Print help for the subcommand(s)\n"

def versionText : String := "collgen 0.1.0\n"

/-- What was written on the command line is quoted without controls. -/
def quotedArgument (medium : Medium) (text : String) : String :=
  "'" ++ withoutControls medium text ++ "'"

def UsageFault.explanation (medium : Medium) : UsageFault → String
  | .unknownCommand name => "unrecognized subcommand " ++ quotedArgument medium name
  | .unknownArgument text => "unexpected argument " ++ quotedArgument medium text ++ " found"
  | .missingValue o => "a value is required for '" ++ o.shown ++ "' but none was supplied"
  | .repeatedOption o => "the argument '" ++ o.shown ++ "' cannot be used multiple times"
  | .repeatedSwitch w => "the argument '" ++ w.shown ++ "' cannot be used multiple times"
  | .unneededValue value flag =>
    "unexpected value " ++ quotedArgument medium value ++ " for '" ++ flag ++
      "' found; no more were expected"

/-- The text up to and with its first line break. -/
def firstLine (text : List Char) : List Char := text.takeWhile (· ≠ '\n') ++ ['\n']

def UsageFault.text (medium : Medium) (f : UsageFault) : String :=
  String.ofList (firstLine ("error: " ++ f.explanation medium).toList)

def Stop.text (medium : Medium) : Stop → String
  | .fault f => f.text medium
  | .help topic => topic.text
  | .helpInstead => HelpTopic.program.text
  | .version => versionText

/-- Help and version are answers when they were asked for; all else is a fault of use. -/
def Stop.isAnswer : Stop → Bool
  | .help _ | .version => true
  | .fault _ | .helpInstead => false

def Stop.exitCode (s : Stop) : Nat := if s.isAnswer then 0 else 2

end CollectionGlue
