import EcmaLex.CommandLine.Tokenize

/-!
# The program

The program reads the one file that its arguments name and prints the outcome of its run.
-/

namespace EcmaLex.CommandLine

/-- The code by which the system refuses to read a directory as a file. -/
def directoryCode : UInt32 := 21

/-- The reason behind a failure of the system to read a file. -/
def readErrorOf : IO.Error → ReadError
  | .noFileOrDirectory .. => .notFound
  | .inappropriateType _ code _ => if code == directoryCode then .isDirectory else .notDirectory
  | e => .other (toString e)

/-- Reads the bytes of a file. -/
def readBytes (path : String) : IO (Except ReadError ByteArray) := do
  try
    return .ok (← IO.FS.readBinFile path)
  catch e => return .error (readErrorOf e)

/-- Prints an outcome and gives its exit code. -/
def Outcome.print (outcome : Outcome) : IO UInt32 := do
  (← IO.getStdout).putStr outcome.output
  (← IO.getStderr).putStr outcome.errors
  return outcome.code.toUInt32

/-- Runs the program with given arguments. -/
def runProgram (arguments : List String) : IO UInt32 := do
  match parse arguments with
  | .ok (.tokenize options) =>
    let read := (← readBytes options.file) >>= SourceFile.ofBytes options.file
    (options.tokenize read).print
  | _ => (run (fun _ => .error .notFound) arguments).print

end EcmaLex.CommandLine

/-- Runs the program and exits with its code. -/
def main (arguments : List String) : IO UInt32 := EcmaLex.CommandLine.runProgram arguments
