import EcmaLex.Scanner

/-!
# Source files

A source file is a text with the path it was read from. Its tokens carry the path as their label
unless the configuration gives another one.
-/

namespace EcmaLex

/-- A text with the path it was read from. -/
structure SourceFile where
  path : String
  contents : String
  deriving DecidableEq, Repr

namespace SourceFile

/-- The text that a span covers, if the span lies between characters of the file. -/
def sourceAt (file : SourceFile) (span : Span) : Option String :=
  (Text.slice? file.contents.toList span.start span.stop).map String.ofList

/-- The scanner at the start of the file. -/
def scanner (file : SourceFile) (config : Config) : Scanner :=
  Scanner.ofString file.contents (config.withDefaultSource file.path)

end SourceFile

end EcmaLex
