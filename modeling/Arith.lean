import Arith.Expr.Infix
import Arith.Expr.Sketch
import Arith.Grammar
import Arith.Main
import Arith.Postfix.Release
import Arith.Proofs.AtomicGroup
import Arith.Proofs.CommandLineModes
import Arith.Proofs.Conservation
import Arith.Proofs.DelayedOperators
import Arith.Proofs.DumpCode
import Arith.Proofs.DumpReading
import Arith.Proofs.FaithfulLog
import Arith.Proofs.FirstObstacle
import Arith.Proofs.FlushRecords
import Arith.Proofs.Juxtaposition
import Arith.Proofs.LenientReading
import Arith.Proofs.LosslessReading
import Arith.Proofs.NeededParentheses
import Arith.Proofs.OutcomeCounts
import Arith.Proofs.OutlineDrawing
import Arith.Proofs.OutputFormats
import Arith.Proofs.Precedence
import Arith.Proofs.Regrouping
import Arith.Proofs.ReleaseOrder
import Arith.Proofs.SideBySide
import Arith.Proofs.SoundExpressions
import Arith.Proofs.StackInvariant
import Arith.Proofs.TokenShape
import Arith.Proofs.Traversal
import Arith.Proofs.UnmatchedParentheses
import Arith.Provenance
import Arith.Session
