import KeyProtection.HashAlgorithm
import KeyProtection.Json.Reader
import KeyProtection.Logging.Session
import KeyProtection.Parameters.Session
import KeyProtection.Proofs.Calendar
import KeyProtection.Proofs.Digits
import KeyProtection.Proofs.Timestamp
import KeyProtection.Proofs.Json.Scan
import KeyProtection.Proofs.Json.Read
import KeyProtection.Proofs.Parameters.Build
import KeyProtection.Proofs.Parameters.History
import KeyProtection.Proofs.Canonical
import KeyProtection.Proofs.Parameters.Document
import KeyProtection.Proofs.Parameters.Repair
import KeyProtection.Proofs.Timestamp.Order
import KeyProtection.Proofs.Content
import KeyProtection.Proofs.Canonical.Reading
import KeyProtection.Proofs.Parameters.Reachable
import KeyProtection.Proofs.Parameters.Obstacle
import KeyProtection.Proofs.Parameters.Creation
import KeyProtection.Proofs.Equality
import KeyProtection.Proofs.Logging.Registry
import KeyProtection.Proofs.Logging.Directory
import KeyProtection.Proofs.Logging.Requests
import KeyProtection.Proofs.Logging.Handlers
import KeyProtection.Proofs.Logging.Answers
import KeyProtection.Proofs.Logging.Ancestors
import KeyProtection.Proofs.Parameters.Equality
import KeyProtection.Proofs.Logging.Delivery
import KeyProtection.Proofs.Logging.Opening
import KeyProtection.Proofs.Logging.Failure
import KeyProtection.Proofs.Json.Exact
import KeyProtection.Proofs.Json.Raw
import KeyProtection.Proofs.Logging.Line
import KeyProtection.Proofs.Parameters.Notice
import KeyProtection.Proofs.Logging.Lineage
import KeyProtection.Proofs.Logging.Arrangement
import KeyProtection.Proofs.Canonical.Refusal
import KeyProtection.Proofs.Parameters.Changes
import KeyProtection.Proofs.Settings.Spelling
import KeyProtection.Proofs.Settings.Selection
import KeyProtection.Proofs.Settings.Lenient
import KeyProtection.Proofs.Flag
import KeyProtection.Proofs.Flag.Algebra
import KeyProtection.Proofs.HashAlgorithm
import KeyProtection.Proofs.Parameters.Digests
import KeyProtection.Proofs.Logging.Clock
import KeyProtection.Proofs.Text.Run
import KeyProtection.Proofs.Text.Integer
import KeyProtection.Proofs.Parameters.TextualMask
