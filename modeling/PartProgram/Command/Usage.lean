/-
  The help text of the command.

  The explanation of an option is a template that can name the facts of the option.  Only one of
  them depends on anything: the explanation of `--encoding` names the encoding of the settings, and
  if that holds markers they are filled too, or the help text cannot be given.
-/
import PartProgram.Fault
import PartProgram.Text.Paragraph

namespace PartProgram.Usage

/-- The name of the command. -/
def command : Text := "gparse-dump".toText

/-- The lines that show how the command is called. -/
def usage : List String :=
  ["usage: gparse-dump [-h] [--json | --summary] [--permissive]",
   "                   [--encoding ENCODING] [-v] [-q]",
   "                   [--log-level \x7bTRACE,DEBUG,INFO,WARNING,ERROR,CRITICAL\x7d]",
   "                   path"]

/-- The width of the explanations. -/
def helpWidth : Nat := 54

/-- The column of the explanations. -/
def helpColumn : Nat := 24

/-- An option and its explanation, which goes on in the column of the explanations. -/
def entry (option : String) (explanation : Text) : List Text :=
  match Text.paragraph helpWidth explanation with
  | [] => [option.toText]
  | first :: rest =>
    (Text.padRight helpColumn option.toText ++ first) ::
      rest.map (List.replicate helpColumn (' ' : CodePoint) ++ ·)

/-- The explanation of `--encoding`, as a template. -/
def encodingTemplate (encoding : Text) : Text :=
  "File encoding (default: ".toText ++ encoding ++ ([')'] : Text)

/-- The facts of `--encoding`. -/
def encodingFacts (encoding : Text) : List (Text × Template.Operand) :=
  [("option_strings".toText, .texts ["--encoding".toText]),
   ("dest".toText, .text "encoding".toText), ("nargs".toText, .absent), ("const".toText, .absent),
   ("default".toText, .text encoding), ("type".toText, .absent), ("choices".toText, .absent),
   ("required".toText, .flag false), ("help".toText, .text (encodingTemplate encoding)),
   ("metavar".toText, .absent),
   ("container".toText,
    .object "_ArgumentGroup".toText "<argparse._ArgumentGroup object at 0x0>".toText),
   ("prog".toText, .text command)]

/-- The explanation of `--encoding`, filled, and narrowed because it will be set as a paragraph. -/
def encodingExplanation (encoding : Text) : Except Fault Text :=
  let filled := Template.fill (encodingTemplate encoding) (.named (encodingFacts encoding))
  (filled.map fun runs => Run.expand (runs.map Text.narrowed)).mapError .template

/-- The lines of the help text with the given explanation of `--encoding`. -/
def helpLines (encodingExplanation : Text) : List Text :=
  usage.map String.toText ++
  ["", "Parse a GCODE file and print its line records", "", "positional arguments:"].map
    String.toText ++
  entry "  path" "GCODE file to parse, \x27-\x27 for stdin".toText ++
  ["", "options:"].map String.toText ++
  entry "  -h, --help" "show this help message and exit".toText ++
  entry "  --json" "Print records as a JSON array".toText ++
  entry "  --summary" "Print line counts per type".toText ++
  entry "  --permissive"
    "Keep going on a malformed N/G/M number, treating the line as text".toText ++
  entry "  --encoding ENCODING" encodingExplanation ++
  entry "  -v, --verbose" "Increase verbosity; -v=INFO, -vv=DEBUG, -vvv=TRACE".toText ++
  entry "  -q, --quiet" "Only log errors".toText ++
  ["  --log-level \x7bTRACE,DEBUG,INFO,WARNING,ERROR,CRITICAL\x7d".toText,
   List.replicate helpColumn (' ' : CodePoint) ++ "Set specific log level".toText]

/-- Lines with their line feeds. -/
def ended (lines : List Text) : Text := lines.flatMap (· ++ (['\n'] : Text))

/-- The help text, with the encoding of the settings. -/
def help (encoding : Text) : Except Fault Text :=
  return ended (helpLines (← encodingExplanation encoding))

/-- What is written about arguments that make no sense. -/
def misuse (message : Text) : Text :=
  ended (usage.map String.toText ++ [command ++ ": error: ".toText ++ message])

end PartProgram.Usage
