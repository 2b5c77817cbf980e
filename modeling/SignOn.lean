import SignOn.Auth.Transaction
import SignOn.Proofs.Auth.Composite
import SignOn.Proofs.Auth.Merging
import SignOn.Proofs.Auth.Reordering
import SignOn.Proofs.Auth.Secrets
import SignOn.Proofs.Auth.Stages
import SignOn.Proofs.Bytes.Base64
import SignOn.Proofs.Calendar.Days
import SignOn.Proofs.Calendar.Elapsed
import SignOn.Proofs.Calendar.Spelling
import SignOn.Proofs.Calendar.Written
import SignOn.Proofs.Cipher.Authenticity
import SignOn.Proofs.Cipher.Keys
import SignOn.Proofs.Registry.Agreement
import SignOn.Proofs.Registry.AtRest
import SignOn.Proofs.Registry.Cascade
import SignOn.Proofs.Registry.Counts
import SignOn.Proofs.Registry.Deletion
import SignOn.Proofs.Registry.Detachment
import SignOn.Proofs.Registry.Failure
import SignOn.Proofs.Registry.Issuing
import SignOn.Proofs.Registry.Links
import SignOn.Proofs.Registry.Logout
import SignOn.Proofs.Registry.Lookups
import SignOn.Proofs.Registry.Memory
import SignOn.Proofs.Registry.Mirror
import SignOn.Proofs.Registry.Operations
import SignOn.Proofs.Registry.Rearrangement
import SignOn.Proofs.Registry.Resumption
import SignOn.Proofs.Registry.Robustness
import SignOn.Proofs.Registry.Teardown
import SignOn.Proofs.Registry.Undoing
import SignOn.Proofs.Sealing.Keys
import SignOn.Proofs.Sealing.Opening
import SignOn.Proofs.Sealing.RoundTrip
import SignOn.Proofs.Sealing.Traversal
import SignOn.Proofs.Store.Memory
import SignOn.Proofs.Store.Triple
import SignOn.Proofs.Ticket.Expiry
import SignOn.Proofs.Ticket.Grants
import SignOn.Proofs.Wire.Laws
import SignOn.Proofs.Wire.Spelling
import SignOn.Proofs.Wire.Tickets
import SignOn.Registry.Cascade
import SignOn.Registry.Counting
import SignOn.Registry.Settings
import SignOn.Store.Memory
import SignOn.Store.Probe
import SignOn.Ticket.Issuer
