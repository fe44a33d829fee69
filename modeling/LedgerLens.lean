import LedgerLens.Aggregator.Gate
import LedgerLens.Aggregator.SplitBrain
import LedgerLens.Crypto.Arithmetic
import LedgerLens.Crypto.Binding
import LedgerLens.Recovery.Resume
import LedgerLens.Replay.Determinism
import LedgerLens.Score.Laplace
import LedgerLens.Submitter.Discipline
import LedgerLens.System.Audit
import LedgerLens.System.Ballots
import LedgerLens.System.Bloom
import LedgerLens.System.Commitment
import LedgerLens.System.ConfigExport
import LedgerLens.System.Decay
import LedgerLens.System.FeeTiers
import LedgerLens.System.Hooks
import LedgerLens.System.Interpolation
import LedgerLens.System.Keepers
import LedgerLens.System.Links
import LedgerLens.System.MerkleProofs
import LedgerLens.System.Momentum
import LedgerLens.System.Proposals
import LedgerLens.System.Provenance
import LedgerLens.System.Quotas
import LedgerLens.System.RiskBand
import LedgerLens.System.Snapshots
import LedgerLens.System.Spread
import LedgerLens.System.Switches
