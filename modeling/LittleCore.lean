import LittleCore.Library.Fallible
import LittleCore.Library.Reassembly
import LittleCore.Library.Trace
import LittleCore.Library.Monitor
import LittleCore.Rtp.RoundTrip
import LittleCore.Splitters
import LittleCore.FileSource
import LittleCore.Rounds
import LittleCore.Order
import LittleCore.Gaps
import LittleCore.Wire
import LittleCore.Isolation
import LittleCore.Library.CString
import LittleCore.Library.Shell
import LittleCore.Rtsp.Ownership
import LittleCore.Rtsp.Framing
import LittleCore.Rtsp.Requests
import LittleCore.Rtsp.Ports
import LittleCore.Rtsp.Responses
import LittleCore.Rtsp.Waiting
import LittleCore.Datafifo
import LittleCore.Lifecycle
import LittleCore.Gate.Protocol
import LittleCore.Gate.Runs
import LittleCore.Gate.Fresh
import LittleCore.Gate.Exact
import LittleCore.Gate.Caches
import LittleCore.Snapshot.Collect
import LittleCore.Snapshot.Memory
import LittleCore.Snapshot.Units
import LittleCore.Snapshot.Received
import LittleCore.Snapshot.Runs
import LittleCore.Snapshot.Labels
import LittleCore.Snapshot.Decodable
import LittleCore.Snapshot.Sets
import LittleCore.Snapshot.Failures
import LittleCore.Snapshot.Gop
import LittleCore.Snapshot.Growth
import LittleCore.Snapshot.Updates
import LittleCore.ShortNalus
import LittleCore.Markers
import LittleCore.Targets
import LittleCore.Layouts
import LittleCore.Validation
import LittleCore.Writer.ExactlyOnce
import LittleCore.Writer.Files
import LittleCore.WriteLoops
import LittleCore.Windows
import LittleCore.Reception
import LittleCore.TwoCores
import LittleCore.Reader
import LittleCore.Writer.Delivery
import LittleCore.Snapshot.Saved
import LittleCore.LittleApp
import LittleCore.Audience
import LittleCore.Sessions
import LittleCore.Startup.FileMode
import LittleCore.Writer.Directory
import LittleCore.AddressSpace
