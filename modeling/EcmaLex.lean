import EcmaLex.Declaration.GrammarReference
import EcmaLex.Declaration.Member
import EcmaLex.Main
import EcmaLex.Proofs.CommentModes
import EcmaLex.Proofs.Completion
import EcmaLex.Proofs.ConfigInfluence
import EcmaLex.Proofs.CursorMoves
import EcmaLex.Proofs.DecimalValues
import EcmaLex.Proofs.Ending
import EcmaLex.Proofs.Goals
import EcmaLex.Proofs.LayoutGrammar
import EcmaLex.Proofs.OutputRecords
import EcmaLex.Proofs.Progress
import EcmaLex.Proofs.Relayout
import EcmaLex.Proofs.Resumption
import EcmaLex.Proofs.Safety
import EcmaLex.Proofs.StringGrammar
import EcmaLex.Proofs.TokenClasses
import EcmaLex.Proofs.TokenPositions
import EcmaLex.Proofs.TokenTexts
import EcmaLex.Scanner.Event
import EcmaLex.Text.CodePoints
