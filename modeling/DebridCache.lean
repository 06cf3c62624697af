import DebridCache.Configuration
import DebridCache.Session
import DebridCache.Title.Session
import DebridCache.Sweep
import DebridCache.Log.Sink
import DebridCache.Proofs.Fault
import DebridCache.Proofs.Wire.Request
import DebridCache.Proofs.Run
import DebridCache.Proofs.Availability.Answer
import DebridCache.Proofs.Batch
import DebridCache.Proofs.Account
import DebridCache.Proofs.Availability.Check
import DebridCache.Proofs.Availability.Totality
import DebridCache.Proofs.Availability.Variants
import DebridCache.Proofs.Action
import DebridCache.Proofs.Availability.Inquiry
import DebridCache.Proofs.Availability.Honest
import DebridCache.Proofs.Availability.Sendable
import DebridCache.Proofs.Sweep
import DebridCache.Proofs.Availability.Steadfast
import DebridCache.Proofs.Availability.Schedule
import DebridCache.Proofs.Availability.Entries
import DebridCache.Proofs.Availability.Spoiling
import DebridCache.Proofs.Availability.Unlisted
import DebridCache.Proofs.Availability.Named
import DebridCache.Proofs.Availability.Paired
import DebridCache.Interleaving
import DebridCache.Proofs.Interleaving
import DebridCache.Proofs.Isolation
import DebridCache.Proofs.Composed
import DebridCache.Proofs.Call
import DebridCache.Proofs.Withdrawal
import DebridCache.Proofs.Withdrawal.Sweep
import DebridCache.Proofs.Title.Address
import DebridCache.Proofs.Title.Lookup
import DebridCache.Proofs.Title.Resolve
import DebridCache.Proofs.Title.Namespace
import DebridCache.Proofs.Title.Selection
import DebridCache.Proofs.Registry
import DebridCache.Proofs.Sending
import DebridCache.Proofs.Configuration
import DebridCache.Proofs.Availability.Pacing
import DebridCache.Proofs.Session
import DebridCache.Proofs.Closing
import DebridCache.Proofs.Alike
import DebridCache.Proofs.Wire.Disclosure
import DebridCache.Proofs.Secrecy
import DebridCache.Proofs.Availability.Spelling
import DebridCache.Proofs.Availability.Blank
import DebridCache.Proofs.Confinement
import DebridCache.Proofs.Unheeded
import DebridCache.Proofs.Hash.Gathering
import DebridCache.Proofs.Batch.Partition
