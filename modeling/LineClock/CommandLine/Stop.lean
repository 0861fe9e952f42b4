import LineClock.Text.Basic

/-!
# Why a command line makes no command

Reading a command line stops at the first word that does not fit, and where help or the version is
asked for. The wording names the argument in question, and for most causes how the command is used.
Where a word that is known comes close to one that does not fit, there is a tip.
-/

namespace LineClock

namespace CommandLine

/-- What help can be about. -/
inductive Topic where
  | program
  | showing
  | demo
  /-- The word that asks for help. -/
  | asking
  deriving DecidableEq, Repr, Inhabited

/-- What the user may have meant. -/
inductive Tip where
  /-- Words of a kind that are similar to the one that does not fit. -/
  | similar (kind : String) (words : List String)
  /-- The word as an operand, after two dashes. -/
  | operand (word : String)
  deriving DecidableEq, Repr, Inhabited

/-- Why no command came of a command line. Some causes list the options that are in force, as far as
they matter to the wording. -/
inductive Stop where
  | help (topic : Topic) (full : Bool)
  | version
  /-- Nothing was said at all. -/
  | nothing
  | noCommand
  | unknownCommand (topic : Topic) (word : String) (tips : List Tip)
  | unknownArgument (topic : Topic) (given : List String) (word : String) (tips : List Tip)
  | repeated (topic : Topic) (argument : String)
  /-- A value for an argument that takes none. -/
  | unneededValue (topic : Topic) (given : List String) (argument value : String)
  | missingValue (argument : String) (choices : List String)
  | badChoice (argument value : String) (choices : List String)
  | badValue (argument value reason : String)
  | missingArgument (topic : Topic) (given : List String) (argument : String)
  deriving DecidableEq, Repr, Inhabited

namespace Topic

/-- The words that a command starts with. -/
def title : Topic → String
  | program => "lineprof"
  | showing => "lineprof show"
  | demo => "lineprof demo"
  | asking => "lineprof help"

/-- The operands of a command. -/
def operands : Topic → List String
  | program => ["<COMMAND>"]
  | showing => ["<FILE>..."]
  | demo => []
  | asking => ["[COMMAND]..."]

/-- The place of the options of a command, if it has any. -/
def options : Topic → List String
  | program | showing | demo => ["[OPTIONS]"]
  | asking => []

/-- How a command is used with some options. -/
def usageWith (topic : Topic) (options : List String) : String :=
  " ".intercalate (topic.title :: options ++ topic.operands)

/-- How a command is used. -/
def usage (topic : Topic) : String := topic.usageWith topic.options

/-- How a command is used with the options that are in force, if there are any. -/
def usageFor (topic : Topic) (given : List String) : String :=
  if given.isEmpty then topic.usage else topic.usageWith given

/-- What a command is for. -/
def purpose : Topic → String
  | program => "Deterministic per-line execution-time profiler"
  | showing => "Show one or more stats files (merged)"
  | demo => "Profile a built-in sample program and print its report"
  | asking => "Print this message or the help of the given subcommand(s)"

/-- What can be said to a command, in brief. -/
def details : Topic → List String
  | program =>
    ["Commands:",
      "  show  Show one or more stats files (merged)",
      "  demo  Profile a built-in sample program and print its report",
      "  help  Print this message or the help of the given subcommand(s)",
      "",
      "Options:",
      "      --debug    Enable debug tracing output to stderr",
      "  -h, --help     Print help",
      "  -V, --version  Print version"]
  | showing =>
    ["Arguments:",
      "  <FILE>...  Stats files written by the profiler",
      "",
      "Options:",
      "  -u, --unit <SECONDS>   Output unit in seconds (e.g. 1e-3 for milliseconds)",
      "  -z, --skip-zero        Hide functions that recorded no time",
      "  -r, --sort             Order functions by ascending total time",
      "  -s, --summarize        Append a per-function total time summary",
      "      --format <FORMAT>  Output format (text or json) [default: text] [possible values: text, json]",
      "      --debug            Enable debug tracing output to stderr",
      "  -h, --help             Print help (see more with '--help')"]
  | demo =>
    ["Options:",
      "      --backend <BACKEND>  Event backend to use [possible values: auto, legacy, monitoring]",
      "      --calls <N>          How many times the sample function is called [default: 5]",
      "  -o, --output <FILE>      Also write the stats to this file",
      "      --debug              Enable debug tracing output to stderr",
      "  -h, --help               Print help"]
  | asking =>
    ["Arguments:",
      "  [COMMAND]...  Print help for the subcommand(s)"]

/-- What can be said to a command, in full. Only showing has more to it than the brief text says. -/
def fullDetails : Topic → List String
  | showing =>
    ["Arguments:",
      "  <FILE>...",
      "          Stats files written by the profiler",
      "",
      "Options:",
      "  -u, --unit <SECONDS>",
      "          Output unit in seconds (e.g. 1e-3 for milliseconds)",
      "",
      "  -z, --skip-zero",
      "          Hide functions that recorded no time",
      "",
      "  -r, --sort",
      "          Order functions by ascending total time",
      "",
      "  -s, --summarize",
      "          Append a per-function total time summary",
      "",
      "      --format <FORMAT>",
      "          Output format (text or json)",
      "          ",
      "          [default: text]",
      "",
      "          Possible values:",
      "          - text: Per-line tables (default)",
      "          - json: Raw timings as JSON",
      "",
      "      --debug",
      "          Enable debug tracing output to stderr",
      "",
      "  -h, --help",
      "          Print help (see a summary with '-h')"]
  | topic => topic.details

/-- The help on a topic, in full or in brief. -/
def help (topic : Topic) (full : Bool) : String :=
  let details := if full then topic.fullDetails else topic.details
  "\n".intercalate ([topic.purpose, "", "Usage: " ++ topic.usage, ""] ++ details) ++ "\n"

end Topic

namespace Tip

/-- The tip that a word of a kind was meant, if there are candidates. -/
def ofSimilar (kind : String) (words : List String) : List Tip :=
  if words.isEmpty then [] else [similar kind words]

/-- A tip in words. -/
def message : Tip → String
  | similar kind [word] => s!"a similar {kind} exists: '{word}'"
  | similar kind words =>
    s!"some similar {kind}s exist: " ++ ", ".intercalate (words.map fun w => s!"'{w}'")
  | operand word => s!"to pass '{word}' as a value, use '-- {word}'"

/-- The lines of tips, after an empty one. -/
def lines (tips : List Tip) : String :=
  if tips.isEmpty then "" else "\n" ++ String.join (tips.map fun t => "\n  tip: " ++ t.message)

end Tip

namespace Stop

/-- The last line of every error message. -/
def ending : String := "\n\nFor more information, try '--help'.\n"

/-- An error message that says how the command is used. -/
def withUsage (usage message : String) (tips : List Tip) : String :=
  s!"error: {message}" ++ Tip.lines tips ++ s!"\n\nUsage: {usage}" ++ ending

/-- An error message, perhaps with the values that are possible. -/
def plain (message : String) (choices : List String) (tips : List Tip) : String :=
  let possible :=
    if choices.isEmpty then ""
    else "\n  [possible values: " ++ ", ".intercalate choices ++ "]"
  s!"error: {message}{possible}" ++ Tip.lines tips ++ ending

/-- What the user gets to read. -/
def message : Stop → String
  | help topic full => topic.help full
  | version => "lineprof 0.1.0\n"
  | nothing => Topic.program.help false
  | noCommand =>
    withUsage Topic.program.usage
      ("'lineprof' requires a subcommand but one was not provided\n" ++
        "  [subcommands: show, demo, help]") []
  | unknownCommand topic word tips =>
    withUsage topic.usage s!"unrecognized subcommand '{word}'" tips
  | unknownArgument topic given word tips =>
    withUsage (topic.usageFor given) s!"unexpected argument '{word}' found" tips
  | repeated topic argument =>
    withUsage topic.usage s!"the argument '{argument}' cannot be used multiple times" []
  | unneededValue topic given argument value =>
    withUsage (topic.usageFor given)
      s!"unexpected value '{value}' for '{argument}' found; no more were expected" []
  | missingValue argument choices =>
    plain s!"a value is required for '{argument}' but none was supplied" choices []
  | badChoice argument value choices =>
    plain s!"invalid value '{value}' for '{argument}'" choices
      (Tip.ofSimilar "value" (Text.similarWords value choices).getLast?.toList)
  | badValue argument value reason =>
    plain s!"invalid value '{value}' for '{argument}': {reason}" [] []
  | missingArgument topic given argument =>
    withUsage (topic.usageWith given)
      s!"the following required arguments were not provided:\n  {argument}" []

/-- Whether the user got what was asked for. -/
def isAnswer : Stop → Bool
  | help _ _ | version => true
  | _ => false

end Stop

end CommandLine

end LineClock
