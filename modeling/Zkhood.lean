import Zkhood.Data.BigEndian
import Zkhood.Data.IterMap
import Zkhood.Data.Records
import Zkhood.Data.HashedList
import Zkhood.Data.StaticAbi
import Zkhood.Data.Tiling
import Zkhood.Data.Trace
import Zkhood.Data.Fallible
import Zkhood.Data.Rlp
import Zkhood.Data.Keccak
import Zkhood.Data.SnapshotCell
import Zkhood.Data.SnapshotHistory
import Zkhood.Data.SnapshotSimulation
import Zkhood.State
import Zkhood.StateProvider
import Zkhood.Overlay
import Zkhood.Overlay.FlatStorage
import Zkhood.Overlay.LastWriter
import Zkhood.Overlay.IterationOrder
import Zkhood.Overlay.Invariant
import Zkhood.Overlay.Abstraction
import Zkhood.Commitment
import Zkhood.Commitment.Layout
import Zkhood.Commitment.Canonical
import Zkhood.Overlay.StatusFlags
import Zkhood.Executor
import Zkhood.Executor.Transfer
import Zkhood.Executor.Ledger
import Zkhood.Executor.Chain
import Zkhood.Executor.Nonces
import Zkhood.Executor.TxDebug
import Zkhood.Executor.TxCommitment
import Zkhood.Guest
import Zkhood.Guest.Reproduction
import Zkhood.Guest.Settlement
import Zkhood.Guest.SettledChain
import Zkhood.Bridge.Abi
import Zkhood.Bridge.L1Verifier
import Zkhood.Bridge.L2Provider
import Zkhood.Bridge.L2State
import Zkhood.Bridge.FetchAccount
import Zkhood.Bridge.HonestAnswers
import Zkhood.Bridge.LogScan
import Zkhood.Bridge.ScanCost
import Zkhood.Bridge.Anchor
import Zkhood.Bridge.Calldata
import Zkhood.Worker.Exec
import Zkhood.Worker.Authenticity
import Zkhood.Worker.AccessList
import Zkhood.Worker.Prefetch
import Zkhood.Worker.Handler
import Zkhood.Worker.Interleaving
import Zkhood.Worker.Batches
import Zkhood.Worker.Isolation
import Zkhood.Worker.StoredOverlay
import Zkhood.Worker.Forks
import Zkhood.Worker.Settlement
import Zkhood.Worker.Replay
import Zkhood.Worker.Refinement
import Zkhood.Worker.HonestServers
import Zkhood.Worker.Startup
