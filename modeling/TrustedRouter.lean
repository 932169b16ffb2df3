import TrustedRouter.Proofs.Attestation.Candidates
import TrustedRouter.Proofs.OAuth
import TrustedRouter.Proofs.Receipts.AgeAndPin
import TrustedRouter.Proofs.Receipts.CaptureVerify
import TrustedRouter.Proofs.Receipts.Grammar
import TrustedRouter.Proofs.Receipts.Issuer
import TrustedRouter.Proofs.Receipts.StrictJson
import TrustedRouter.Proofs.Receipts.TrustChain
import TrustedRouter.Proofs.Receipts.VisibleText
import TrustedRouter.Proofs.Sse
import TrustedRouter.Proofs.Sse.Recorded
import TrustedRouter.Proofs.Telemetry.Attribution
import TrustedRouter.Proofs.Telemetry.Books
import TrustedRouter.Proofs.Telemetry.Classify
import TrustedRouter.Proofs.Telemetry.Conservation
import TrustedRouter.Proofs.Telemetry.Draining
import TrustedRouter.Proofs.Telemetry.Drops
import TrustedRouter.Proofs.Telemetry.Handover
import TrustedRouter.Proofs.Telemetry.Numbering
import TrustedRouter.Proofs.Telemetry.Quiet
import TrustedRouter.Proofs.Telemetry.Selection
import TrustedRouter.Proofs.Telemetry.Spacing
import TrustedRouter.Proofs.Transport.Broadcast
import TrustedRouter.Proofs.Transport.ClientHeader
import TrustedRouter.Proofs.Transport.ContentFree
import TrustedRouter.Proofs.Transport.Credentials
import TrustedRouter.Proofs.Transport.Enablement
import TrustedRouter.Proofs.Transport.Endpoints
import TrustedRouter.Proofs.Transport.PromptRoute
import TrustedRouter.Proofs.Transport.Replay
import TrustedRouter.Proofs.Transport.Schedule
