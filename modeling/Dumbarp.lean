import Dumbarp.Routing.Clash
import Dumbarp.Routing.Converge
import Dumbarp.Routing.FixedPoint
import Dumbarp.Routing.Delete
import Dumbarp.Routing.Shutdown
import Dumbarp.Routing.Foreign
import Dumbarp.Routing.Independent
import Dumbarp.Api.History
import Dumbarp.Routerd.Staleness
import Dumbarp.Routerd.Remember
import Dumbarp.Routerd.Gateway
import Dumbarp.Ebpf.Checksum
import Dumbarp.Ebpf.Flow
import Dumbarp.Daemon.Refresher
import Dumbarp.Daemon.Probe
import Dumbarp.Engine.Mirror
import Dumbarp.K8s.Cover
import Dumbarp.Services
import Dumbarp.Bearer
import Dumbarp.IscDhclient.ReadLease
import Dumbarp.Api.Client
import Dumbarp.Daemon.Neighbours
import Dumbarp.Daemon.Refresh
import Dumbarp.Fetch
import Dumbarp.Gateway.Chain
import Dumbarp.K8s.Announce
import Dumbarp.K8s.Foreign
import Dumbarp.Pools
import Dumbarp.Replies
import Dumbarp.Routerd.Counters
import Dumbarp.Daemon.Traffic
import Dumbarp.Served
