import SqliteVfs.Base.SparseVector
import SqliteVfs.Base.Blocks
import SqliteVfs.Base.Program
import SqliteVfs.Core.Error
import SqliteVfs.Core.ChunksFile
import SqliteVfs.Core.ChunksFileSpec
import SqliteVfs.Core.ChunksFileRun
import SqliteVfs.Core.ChunksFileInvariant
import SqliteVfs.Core.Transfer
import SqliteVfs.Base.History
import SqliteVfs.Core.TransferSpec
import SqliteVfs.Core.TransferProtocol
import SqliteVfs.Core.TransferStore
import SqliteVfs.Core.MemVfs
import SqliteVfs.Core.MemVfsTransfer
import SqliteVfs.Core.TransferAcceptance
import SqliteVfs.Core.ExportReads
import SqliteVfs.Core.TransferExport
import SqliteVfs.Base.Journal
import SqliteVfs.Base.Ending
import SqliteVfs.Core.Options
import SqliteVfs.Sahpool.Error
import SqliteVfs.Sahpool.Slot
import SqliteVfs.Sahpool.Pool
import SqliteVfs.Sahpool.Store
import SqliteVfs.Sahpool.Tasks
import SqliteVfs.Sahpool.Header
import SqliteVfs.Sahpool.SlotSpec
import SqliteVfs.Sahpool.SlotState
import SqliteVfs.Sahpool.HeaderGrammar
import SqliteVfs.Sahpool.HandleRun
import SqliteVfs.Sahpool.Ledger
import SqliteVfs.Sahpool.Moves
import SqliteVfs.Sahpool.Keeps
import SqliteVfs.Sahpool.NamesSpec
import SqliteVfs.Base.Inodes
import SqliteVfs.Core.MemStore
import SqliteVfs.Core.MemStoreRun
import SqliteVfs.Core.MemNamespace
import SqliteVfs.Core.MemStoreSpec
import SqliteVfs.Base.LinkedList
import SqliteVfs.Core.MemVfsInstall
import SqliteVfs.Core.MemVfsInstallRun
import SqliteVfs.Core.MemVfsInstallSpec
import SqliteVfs.Base.Runs
import SqliteVfs.Base.Sittings
import SqliteVfs.Core.MemDeleteOnClose
import SqliteVfs.Core.MemTransfers
import SqliteVfs.Core.MemTransfersSpec
import SqliteVfs.Core.MemTransfersRun
import SqliteVfs.Core.TransferRoundTrip
import SqliteVfs.Base.Preserves
import SqliteVfs.Sahpool.System
import SqliteVfs.Sahpool.DataSpec
import SqliteVfs.Sahpool.StoreSpec
import SqliteVfs.Sahpool.TransfersSpec
import SqliteVfs.Sahpool.CapacitySpec
import SqliteVfs.Sahpool.LoadingSpec
import SqliteVfs.Sahpool.LoadingIntact
import SqliteVfs.Sahpool.LifecycleSpec
import SqliteVfs.Sahpool.InstallSpec
import SqliteVfs.Sahpool.SystemSpec
import SqliteVfs.Sahpool.SystemInvariant
import SqliteVfs.Sahpool.PinnedSlots
import SqliteVfs.Sahpool.DeleteOnClose
import SqliteVfs.Sahpool.SlotConservation
import SqliteVfs.Sahpool.BusyPool
import SqliteVfs.Sahpool.AsyncSafety
import SqliteVfs.Sahpool.Worker
import SqliteVfs.Sahpool.Directory
import SqliteVfs.Sahpool.WorkerSpec
import SqliteVfs.Sahpool.WorkerInvariant
import SqliteVfs.Sahpool.Reinstall
import SqliteVfs.Sahpool.WorkerLifecycle
import SqliteVfs.Callbacks.Io
import SqliteVfs.Callbacks.ReadSpec
import SqliteVfs.Callbacks.OwnershipSpec
import SqliteVfs.Callbacks.ErrorSpec
import SqliteVfs.Base.Utf8
import SqliteVfs.Callbacks.MessageSpec
import SqliteVfs.Shim.AllocatorSpec
import SqliteVfs.Sahpool.TransferIsolation
import SqliteVfs.Sahpool.QuietMode
import SqliteVfs.Sahpool.Recovery
import SqliteVfs.Sahpool.Coherence
import SqliteVfs.Sahpool.HeaderAgreement
import SqliteVfs.Sahpool.Images
import SqliteVfs.Sahpool.RoundTrip
import SqliteVfs.Sahpool.FilesSpec
import SqliteVfs.Sahpool.FilesRefinement
import SqliteVfs.Sahpool.OneFile
import SqliteVfs.Sahpool.AtRest
import SqliteVfs.Sahpool.Durability
