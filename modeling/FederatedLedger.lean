import FederatedLedger.Main
import FederatedLedger.Proofs.Outcome
import FederatedLedger.Proofs.Budget
import FederatedLedger.Proofs.Availability
import FederatedLedger.Proofs.Failover
import FederatedLedger.Proofs.History
import FederatedLedger.Proofs.Bookkeeping
import FederatedLedger.Proofs.Fairness
import FederatedLedger.Proofs.Unsent
import FederatedLedger.Proofs.Numeral
import FederatedLedger.Proofs.Delimited
import FederatedLedger.Proofs.Canonical
import FederatedLedger.Proofs.Signature
import FederatedLedger.Proofs.Signer
import FederatedLedger.Proofs.Proper
import FederatedLedger.Proofs.ByteOrder
import FederatedLedger.Proofs.Reading
import FederatedLedger.Proofs.CanonicalForm
import FederatedLedger.Proofs.Identity
import FederatedLedger.Proofs.Spending
import FederatedLedger.Proofs.Precedence
import FederatedLedger.Proofs.Endless
import FederatedLedger.Proofs.Validation
import FederatedLedger.Proofs.Decoding
import FederatedLedger.Proofs.RoundTrip
import FederatedLedger.Proofs.Accounting
import FederatedLedger.Proofs.Overlap
import FederatedLedger.Proofs.Shortening
import FederatedLedger.Proofs.Attempts
import FederatedLedger.Proofs.Coverage
import FederatedLedger.Proofs.SpentOutput
import FederatedLedger.Proofs.Preparation
import FederatedLedger.Proofs.Punycode
import FederatedLedger.Proofs.HostNames
import FederatedLedger.Proofs.IpAddresses
import FederatedLedger.Proofs.Hosts
import FederatedLedger.Proofs.Paths
import FederatedLedger.Proofs.Addresses
import FederatedLedger.Proofs.Endpoints
import FederatedLedger.Proofs.Destinations
import FederatedLedger.Proofs.Triples
import FederatedLedger.Proofs.Resources
import FederatedLedger.Proofs.Ports
import FederatedLedger.Proofs.PrivateKeys
import FederatedLedger.Proofs.Soonest
import FederatedLedger.Proofs.TimeLimit
import FederatedLedger.Proofs.RemainingBackoff
import FederatedLedger.Proofs.Settings
