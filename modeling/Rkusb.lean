import Rkusb.Lib.Program
import Rkusb.Lib.FlatStore
import Rkusb.Lib.Banks
import Rkusb.Lib.Bytes
import Rkusb.Lib.Reader
import Rkusb.Lib.Numeral
import Rkusb.Usb
import Rkusb.Device
import Rkusb.Bus
import Rkusb.Transaction
import Rkusb.Command
import Rkusb.Run
import Rkusb.Exchange
import Rkusb.Lba
import Rkusb.Progress
import Rkusb.Tiling
import Rkusb.BlockDevice
import Rkusb.BlockFile
import Rkusb.ByteFile
import Rkusb.DiskBound
import Rkusb.Partition
import Rkusb.Sparse
import Rkusb.SparseWalk
import Rkusb.SparseImage
import Rkusb.SparseExpansion
import Rkusb.Checksum
import Rkusb.Idblock
import Rkusb.Image
import Rkusb.DownloadBoot
import Rkusb.Rkns
import Rkusb.ImageSafety
import Rkusb.LbaStorage
import Rkusb.IdblockNew
import Rkusb.DownloadTrace
import Rkusb.ImageGrammar
import Rkusb.FindDevice
import Rkusb.Interrupted
import Rkusb.SectorSpace
import Rkusb.Overflow
import Rkusb.Retry
import Rkusb.RegularImage
import Rkusb.EntryReader
import Rkusb.SparseComplete
import Rkusb.FlashHead
import Rkusb.SeekBound
import Rkusb.DownloadFraming
import Rkusb.FwImage
import Rkusb.ImageAccessors
import Rkusb.RknsRules
import Rkusb.Upgrade
import Rkusb.Timeouts
import Rkusb.FillStream
import Rkusb.SparseArithmetic
import Rkusb.Failures
import Rkusb.Serial
import Rkusb.UpgradeLoader
import Rkusb.LbaCommand
import Rkusb.Util
import Rkusb.PartitionTable
import Rkusb.StorageCommand
import Rkusb.UpgradeWrites
import Rkusb.UpgradeCommand
import Rkusb.Rktools
import Rkusb.ErrorDetection
import Rkusb.Info
import Rkusb.Connect
