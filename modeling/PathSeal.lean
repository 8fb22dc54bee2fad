import PathSeal.Kms.Script
import PathSeal.Main
import PathSeal.Proofs.Base64
import PathSeal.Proofs.Envelope.Opening
import PathSeal.Proofs.Envelope.Relocation
import PathSeal.Proofs.Envelope.Sealing
import PathSeal.Proofs.Json.Grammar
import PathSeal.Proofs.KeyMap.Reach
import PathSeal.Proofs.KeyMap.Writing
import PathSeal.Proofs.Kms.Genuine
import PathSeal.Proofs.Kms.Google.Course
import PathSeal.Proofs.Kms.Google.Outcomes
import PathSeal.Proofs.Kms.Google.Tokens
import PathSeal.Proofs.Kms.Registration
import PathSeal.Proofs.Retry.Acts
import PathSeal.Proofs.Service.Audit
import PathSeal.Proofs.Service.Course
import PathSeal.Proofs.Service.Deadline
import PathSeal.Proofs.Service.Draws
import PathSeal.Proofs.Service.Durability
import PathSeal.Proofs.Service.Pipeline
import PathSeal.Proofs.Service.Secrecy
import PathSeal.Proofs.Startup
import PathSeal.Proofs.Key.Canonical
import PathSeal.Proofs.Retry.Backoff
