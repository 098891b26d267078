import SdkAudit.Main
import SdkAudit.Proofs.Compliance.CallOrder
import SdkAudit.Proofs.Compliance.FacadeChains
import SdkAudit.Proofs.Compliance.Handled
import SdkAudit.Proofs.Compliance.Reliable
import SdkAudit.Proofs.Compliance.ShortCalls
import SdkAudit.Proofs.Outline.CallSpans
import SdkAudit.Proofs.Outline.Circles
import SdkAudit.Proofs.Outline.Declarations
import SdkAudit.Proofs.Outline.Enclosing
import SdkAudit.Proofs.Outline.Faultless
import SdkAudit.Proofs.Outline.Handlers
import SdkAudit.Proofs.Outline.Joined
import SdkAudit.Proofs.Project.Candidates
import SdkAudit.Proofs.Project.Verdict
import SdkAudit.Proofs.Advisory.BlankLines
import SdkAudit.Proofs.Advisory.Tags
import SdkAudit.Proofs.Advisory.Written
import SdkAudit.Proofs.Project.EligibleFiles
import SdkAudit.Proofs.Project.Isolation
import SdkAudit.Proofs.Project.Override
import SdkAudit.Proofs.Report.Levels
import SdkAudit.Proofs.Report.Renderings
import SdkAudit.Proofs.Compliance.PlainCalls
import SdkAudit.Proofs.Source.Escaped
import SdkAudit.Proofs.Source.Interpolation
import SdkAudit.Proofs.Source.TripleQuoted
