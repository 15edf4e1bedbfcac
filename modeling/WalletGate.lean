import WalletGate.Host.Run
import WalletGate.Proofs.Addresses
import WalletGate.Proofs.Admission
import WalletGate.Proofs.Atomicity
import WalletGate.Proofs.Authority
import WalletGate.Proofs.Completion
import WalletGate.Proofs.Disclosure
import WalletGate.Proofs.Entries
import WalletGate.Proofs.Evasion
import WalletGate.Proofs.Faults
import WalletGate.Proofs.Footprint
import WalletGate.Proofs.Frames
import WalletGate.Proofs.History
import WalletGate.Proofs.Hosting
import WalletGate.Proofs.Injection
import WalletGate.Proofs.Interleaving
import WalletGate.Proofs.Isolation
import WalletGate.Proofs.Leftovers
import WalletGate.Proofs.Lines
import WalletGate.Proofs.Listener
import WalletGate.Proofs.Loading
import WalletGate.Proofs.Lookups
import WalletGate.Proofs.Persistence
import WalletGate.Proofs.Privilege
import WalletGate.Proofs.Qualified
import WalletGate.Proofs.Queries
import WalletGate.Proofs.Reading
import WalletGate.Proofs.Recency
import WalletGate.Proofs.Records
import WalletGate.Proofs.Registry
import WalletGate.Proofs.Replies
import WalletGate.Proofs.Retention
import WalletGate.Proofs.RoundTrip
import WalletGate.Proofs.SiteReports
import WalletGate.Proofs.Snapshots
import WalletGate.Proofs.Stamps
import WalletGate.Proofs.TrailingDot
import WalletGate.Session.Directory
