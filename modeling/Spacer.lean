import Spacer.Toolchain.DataFile
import Spacer.Toolchain.Formats
import Spacer.Helpers.Classified
import Spacer.Helpers.CommonText
import Spacer.Aligner.Determinism
import Spacer.Aligner.AslrPlacement
import Spacer.Aligner.Windows
import Spacer.Dksm.Bookkeeping
import Spacer.Dksm.Dedup
import Spacer.Dksm.Isolation
import Spacer.Rewriter.Preservation
import Spacer.Rewriter.Buffer
import Spacer.Rewriter.Differences
import Spacer.Rewriter.Reserved
import Spacer.Snapshot.Compose
import Spacer.Snapshot.Failures
import Spacer.Snapshot.StateFile
import Spacer.Seccomp.Compile
import Spacer.Virtio.Lifecycle
import Spacer.Vsock.Credit
import Spacer.Vsock.PeerCredit
import Spacer.Vsock.RxSchedule
import Spacer.Vsock.Reaper
import Spacer.Vsock.Shutdown
import Spacer.Dumbo.Retransmission
import Spacer.Dumbo.Bookkeeping
import Spacer.Dumbo.Options
import Spacer.Disk.Saving
import Spacer.Vstate.Kicks
import Spacer.Vstate.Exits
import Spacer.VmmConfig.Invariants
import Spacer.Devices.Bus
import Spacer.Mmds.Patch
