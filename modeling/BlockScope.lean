import BlockScope.Main
import BlockScope.Proofs.Scan
import BlockScope.Script.CursorLine
import BlockScope.Block.Enclosing
import BlockScope.Proofs.PointScan
import BlockScope.Proofs.Enclosing
import BlockScope.Proofs.StatementKey
import BlockScope.Proofs.ChainRule
import BlockScope.Proofs.LinesBefore
import BlockScope.Proofs.Insertion
import BlockScope.Proofs.Unmatched
import BlockScope.Proofs.LineCode
import BlockScope.Proofs.Finding
import BlockScope.Proofs.BraceRule
import BlockScope.Proofs.SameCode
import BlockScope.Proofs.Refusal
import BlockScope.Proofs.RuleOrder
import BlockScope.Proofs.KnownNames
import BlockScope.Proofs.Pointing
import BlockScope.Proofs.Offsets
import BlockScope.Proofs.ModeChain
import BlockScope.Proofs.Repair
import BlockScope.Proofs.Excess
import BlockScope.Proofs.PassEnd
import BlockScope.Proofs.BraceOwner
import BlockScope.Proofs.ChainSegments
import BlockScope.Proofs.ChainParts
import BlockScope.Proofs.ChainTracking
import BlockScope.Proofs.MoreNames
import BlockScope.Proofs.EffectiveName
import BlockScope.Proofs.InlineBlock
import BlockScope.Proofs.ContentFolder
import BlockScope.Proofs.ObjectType
import BlockScope.Proofs.HeaderBack
