import Morphotactics.Annotation
import Morphotactics.Affix
import Morphotactics.Exporter
import Morphotactics.Formation
import Morphotactics.Grammar.Format
import Morphotactics.Grammar.Loading
import Morphotactics.Folder
import Morphotactics.Setting.Document
import Morphotactics.Journal
import Morphotactics.Workbench
import Morphotactics.Session
import Morphotactics.CommandLine.Arguments
import Morphotactics.CommandLine
import Morphotactics.Main
import Morphotactics.Proofs.Grammar.Names
import Morphotactics.Proofs.Segmentation.Following
import Morphotactics.Proofs.Segmentation.Settling
import Morphotactics.Proofs.Table
import Morphotactics.Proofs.Grammar.Declared
import Morphotactics.Proofs.Segmentation.Enumeration
import Morphotactics.Proofs.Condition
import Morphotactics.Proofs.Segmentation.Ending
import Morphotactics.Proofs.Annotation
import Morphotactics.Proofs.Formation
import Morphotactics.Proofs.Grammar.RuleId
import Morphotactics.Proofs.RoundTrip
import Morphotactics.Proofs.Formation.Missing
import Morphotactics.Proofs.Affix
import Morphotactics.Proofs.Grammar.Merging
import Morphotactics.Proofs.Token.Covering
import Morphotactics.Proofs.Grammar.Loadable
import Morphotactics.Proofs.Grammar.Faults
import Morphotactics.Proofs.Annotation.Partition
import Morphotactics.Proofs.Annotation.Derivation
import Morphotactics.Proofs.Affix.Exporting
import Morphotactics.Proofs.Affix.Unbroken
import Morphotactics.Proofs.Grammar.Earliest
import Morphotactics.Proofs.Token.Layout
import Morphotactics.Proofs.Grammar.Notation
import Morphotactics.Proofs.Grammar.Quoting
import Morphotactics.Proofs.Segmentation.Discovery
import Morphotactics.Proofs.Segmentation.Surface
import Morphotactics.Proofs.Segmentation.Precedence
import Morphotactics.Proofs.Segmentation.Inventory
import Morphotactics.Proofs.Segmentation.Ranking
import Morphotactics.Proofs.Formation.Derivation
import Morphotactics.Proofs.Affix.Exhaustion
import Morphotactics.Proofs.Token.Stuck
import Morphotactics.Proofs.Grammar.Replacing
import Morphotactics.Proofs.Segmentation.Malformed
import Morphotactics.Proofs.Affix.Compounding
import Morphotactics.Proofs.Grammar.Progress
import Morphotactics.Proofs.CommandLine.Ending
import Morphotactics.Proofs.Anchoring
