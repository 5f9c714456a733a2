/-!
# Command line options

Arguments are read from left to right. An option may stand before or behind the file, each at most
once; a value follows its option in the next argument or behind an equals sign. After two hyphens
every argument is a file. A file, or a value in an argument of its own, is checked when the next
argument is understood, so what asks for help or for the version is answered only if nothing before
it is wrong.

## Main definitions

* `EcmaLex.CommandLine.Options` : what the arguments ask for.
* `EcmaLex.CommandLine.UsageError` : what can be wrong with them.
* `EcmaLex.CommandLine.parse` : the command that arguments give.
-/

namespace EcmaLex.CommandLine

/-- Which file to tokenize, and how. -/
structure Options where
  file : String
  emitComments : Bool := false
  /-- The label of the tokens, if not the path. -/
  label : Option String := none
  /-- Whether a slash is always a division. -/
  division : Bool := false
  deriving DecidableEq, Repr

/-- What the arguments ask for: the tokens of a file, the version of the program, or a description
of the arguments. -/
inductive Command
  | tokenize (options : Options)
  | version
  | help
  deriving DecidableEq, Repr

/-- What can be wrong with arguments. An argument is `unexpected` if it is no known option, or one
file too many. -/
inductive UsageError
  | unexpected (argument : String)
  | repeated (option : String)
  | missingValue (option : String)
  | unexpectedValue (option : String)
  | emptyFile
  | missingFile
  deriving DecidableEq, Repr

/-- The report of what is wrong. -/
def UsageError.message : UsageError → String
  | unexpected argument => "unexpected argument '" ++ argument ++ "' found"
  | repeated option => "the argument '" ++ option ++ "' cannot be used multiple times"
  | missingValue option => "a value is required for '" ++ option ++ "' but none was supplied"
  | unexpectedValue option => "unexpected value for '" ++ option ++ "' found; no more were expected"
  | emptyFile => "a value is required for '<FILE>' but none was supplied"
  | missingFile => "the following required arguments were not provided: <FILE>"

/-- A value that has been read and not yet checked. Of a label, it may be that only the option has
been read. -/
inductive Pending
  | nothing
  | label
  | labelValue (value : String)
  | file (path : String)
  deriving DecidableEq, Repr

/-- What has been read of the arguments. -/
structure State where
  file : Option String := none
  emitComments : Bool := false
  label : Option String := none
  division : Bool := false
  /-- What is not yet checked. -/
  pending : Pending := .nothing
  /-- Whether a file has been read, checked or not. -/
  hasFile : Bool := false
  /-- Whether all further arguments are files. -/
  onlyFiles : Bool := false

/-- Why reading stops before the last argument: one is wrong, or asks for something else than
tokens. -/
inductive Stop
  | wrong (e : UsageError)
  | done (c : Command)

namespace State

/-- Sets the label, which must not be set. -/
def setLabel (st : State) (value : String) : Except Stop State :=
  if st.label.isSome then .error (.wrong (.repeated "--label"))
  else .ok { st with label := some value }

/-- Checks what is pending. -/
def settle (st : State) : Except Stop State :=
  let settled := { st with pending := .nothing }
  match st.pending with
  | .nothing => .ok settled
  | .label => .error (.wrong (.missingValue "--label <LABEL>"))
  | .labelValue value => settled.setLabel value
  | .file path =>
    if path.isEmpty then .error (.wrong .emptyFile) else .ok { settled with file := some path }

/-- Reads an argument that is no option. -/
def readPath (st : State) (path : String) : Except Stop State :=
  if st.hasFile then .error (.wrong (.unexpected path))
  else do
    let st ← st.settle
    return { st with pending := .file path, hasFile := true }

/-- Reads an option that is named in full, with the value behind its equals sign. -/
def readLong (st : State) (name : String) (value : Option String) : Except Stop State :=
  match name, value with
  | "label", some value => do (← st.settle).setLabel value
  | "label", none => do return { ← st.settle with pending := .label }
  | "emit-comments", none => do
    let st ← st.settle
    if st.emitComments then throw (.wrong (.repeated "--emit-comments"))
    return { st with emitComments := true }
  | "div", none => do
    let st ← st.settle
    if st.division then throw (.wrong (.repeated "--div"))
    return { st with division := true }
  | "version", none => do
    let _ ← st.settle
    throw (.done .version)
  | "help", none => do
    let _ ← st.settle
    throw (.done .help)
  | "emit-comments", some _ | "div", some _ | "version", some _ | "help", some _ =>
    .error (.wrong (.unexpectedValue ("--" ++ name)))
  | _, _ => .error (.wrong (.unexpected ("--" ++ name)))

/-- Reads an option that is named by a letter. -/
def readShort (st : State) (letter : Char) : Except Stop State :=
  match letter with
  | 'V' => do
    let _ ← st.settle
    throw (.done .version)
  | 'h' => do
    let _ ← st.settle
    throw (.done .help)
  | c => .error (.wrong (.unexpected (String.ofList ['-', c])))

/-- Reads one argument. -/
def read (st : State) (argument : String) : Except Stop State :=
  if st.onlyFiles then st.readPath argument
  else
    match argument.toList with
    | ['-', '-'] => .ok { st with onlyFiles := true }
    | '-' :: '-' :: rest =>
      let name := rest.takeWhile (· != '=')
      let value := (rest.drop name.length).tail?
      st.readLong (String.ofList name) (value.map String.ofList)
    | '-' :: letter :: _ => st.readShort letter
    | _ =>
      match st.pending with
      | .label => .ok { st with pending := .labelValue argument }
      | _ => st.readPath argument

/-- The command of arguments that have all been read. -/
def command (st : State) : Except Stop Command := do
  let st ← st.settle
  match st.file with
  | some file => return .tokenize ⟨file, st.emitComments, st.label, st.division⟩
  | none => throw (.wrong .missingFile)

end State

/-- The command that arguments give. -/
def parse (arguments : List String) : Except UsageError Command :=
  match arguments.foldlM State.read {} >>= State.command with
  | .ok c => .ok c
  | .error (.done c) => .ok c
  | .error (.wrong e) => .error e

end EcmaLex.CommandLine
