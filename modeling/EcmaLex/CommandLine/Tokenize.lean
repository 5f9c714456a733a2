import EcmaLex.CommandLine.Options
import EcmaLex.FileTree
import EcmaLex.Scanner.Run
import EcmaLex.Text.Quoted

/-!
# The command line

The command line prints the tokens of a file, one on a line: its location, its kind and its value
with a tab between them. Texts are quoted and numbers are not. When the file cannot be read or its
text ends inside a construct, that is reported behind the tokens printed before.

## Main definitions

* `EcmaLex.Token.line` : the line of a token.
* `EcmaLex.CommandLine.Outcome` : what a run prints, and its exit code.
* `EcmaLex.CommandLine.run` : the outcome of a run with given arguments.
-/

namespace EcmaLex

/-- The value of a token as the command line prints it. -/
def Lexeme.printed : Lexeme → List Char
  | text s => Text.quote s.toList
  | number x => floatNumeral x

/-- The line of a token, the line feed at its end included. -/
def Token.line (t : Token) : List Char :=
  t.location.text.toList ++ '\t' :: t.tag.text.toList ++ '\t' :: t.lexeme.printed ++ ['\n']

namespace CommandLine

/-- What a run prints on its two outputs, and its exit code. -/
structure Outcome where
  code : Nat
  output : String
  errors : String
  deriving DecidableEq, Repr

/-- The name and the version of the program. -/
def versionText : String := "toker 0.1.0\n"

/-- How the program is called. -/
def usageText : String := "Usage: toker [OPTIONS] <FILE>\n"

/-- The description of the arguments. -/
def helpText : String :=
  "Tokenize ECMAScript-like source text\n\n" ++ usageText ++ "\n" ++
  "Arguments:\n" ++
  "  <FILE>  File to tokenize\n\n" ++
  "Options:\n" ++
  "      --emit-comments  Print comments as tokens instead of skipping them\n" ++
  "      --label <LABEL>  Label for the `source` of every token (defaults to the file path)\n" ++
  "      --div            Read every `/` as division rather than the start of a regular " ++
    "expression\n" ++
  "  -h, --help           Print help\n" ++
  "  -V, --version        Print version\n"

/-- The lines of a text. -/
def splitLines (text : List Char) : List (List Char) :=
  text.foldr (fun c lines =>
    match lines with
    | line :: lines => if c = '\n' then [] :: line :: lines else (c :: line) :: lines
    | [] => []) [[]]

/-- The report of a failure: what could not be done, and why, with the lines of the reason set
in. -/
def failureReport (attempt reason : String) : String :=
  let lines := (splitLines reason.toList).map fun line => "    ".toList ++ line ++ ['\n']
  "Error: " ++ attempt ++ "\n\nCaused by:\n" ++ String.ofList lines.flatten

namespace Options

/-- The configuration that options ask for. -/
def config (options : Options) : Config :=
  { source := options.label, emitComments := options.emitComments }

/-- What a slash starts. -/
def goal (options : Options) : Goal :=
  if options.division then .division else .regularExpression

/-- The run of the scanner over a file. -/
def scan (options : Options) (file : SourceFile) : Run :=
  (file.scanner options.config).run options.goal

/-- The outcome of printing the tokens of a file, which may have failed to be read. -/
def tokenize (options : Options) : Except ReadError SourceFile → Outcome
  | .error e => ⟨1, "", failureReport ("Could not read " ++ options.file) e.message⟩
  | .ok file =>
    let run := options.scan file
    let output := String.ofList (run.tokens.flatMap Token.line)
    match run.ending with
    | .ok _ => ⟨0, output, ""⟩
    | .error e => ⟨1, output, failureReport ("Could not tokenize " ++ file.path) e.message⟩

/-- The lines of the tokens are printed, whatever comes behind them. -/
theorem output_tokenize (options : Options) (file : SourceFile) :
    (options.tokenize (.ok file)).output =
      String.ofList ((options.scan file).tokens.flatMap Token.line) := by
  rw [tokenize]
  cases (options.scan file).ending <;> rfl

end Options

/-- The outcome of a run whose arguments are wrong. -/
def UsageError.outcome (e : UsageError) : Outcome :=
  ⟨2, "", "error: " ++ e.message ++ "\n\n" ++ usageText ++
    "\nFor more information, try '--help'.\n"⟩

/-- The outcome of a run with given arguments, with files read by `read`. -/
def run (read : String → Except ReadError SourceFile) (arguments : List String) : Outcome :=
  match parse arguments with
  | .error e => e.outcome
  | .ok .version => ⟨0, versionText, ""⟩
  | .ok .help => ⟨0, helpText, ""⟩
  | .ok (.tokenize options) => options.tokenize (read options.file)

end CommandLine

end EcmaLex
