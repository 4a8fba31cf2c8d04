import ExprCompiler.Compilation.Session
import ExprCompiler.Console.Tour
import ExprCompiler.Console.Transcript
import ExprCompiler.Crosscheck.Agreement
import ExprCompiler.Crosscheck.Exclusion
import ExprCompiler.Expr.Stepwise
import ExprCompiler.Main
import ExprCompiler.Proofs.Compilation.Agreement
import ExprCompiler.Proofs.Compilation.Displacement
import ExprCompiler.Proofs.Compilation.UnitFiles
import ExprCompiler.Proofs.Compilation.UnitNames
import ExprCompiler.Proofs.Console.Report
import ExprCompiler.Proofs.Console.Transcript
import ExprCompiler.Proofs.Crosscheck.Exclusion
import ExprCompiler.Proofs.Expr.ArtifactNesting
import ExprCompiler.Proofs.Expr.BracketCount
import ExprCompiler.Proofs.Expr.Bracketing
import ExprCompiler.Proofs.Expr.Caret
import ExprCompiler.Proofs.Expr.EndOfTokens
import ExprCompiler.Proofs.Expr.Expectation
import ExprCompiler.Proofs.Expr.FirstFailure
import ExprCompiler.Proofs.Expr.Limits
import ExprCompiler.Proofs.Expr.NestedWalks
import ExprCompiler.Proofs.Expr.OnDemand
import ExprCompiler.Proofs.Expr.Rendering
import ExprCompiler.Proofs.Expr.SharedArtifact
import ExprCompiler.Proofs.Token.Concatenation
import ExprCompiler.Proofs.Token.Interleaving
import ExprCompiler.Proofs.Token.Spacing
