import WireproxyAwg.Go.Slice
import WireproxyAwg.Go.Strconv
import WireproxyAwg.Go.Net
import WireproxyAwg.Go.AddrText
import WireproxyAwg.Config.ASec
import WireproxyAwg.Config.Validate
import WireproxyAwg.Config.Ipc
import WireproxyAwg.Config.HeaderInterval
import WireproxyAwg.Config.Parse
import WireproxyAwg.Relay.Pool
import WireproxyAwg.Relay.DnsCache
import WireproxyAwg.Relay.Eviction
import WireproxyAwg.Relay.PoolInv
import WireproxyAwg.Relay.Codec
import WireproxyAwg.Relay.RequestHeader
import WireproxyAwg.Relay.Reply
import WireproxyAwg.Relay.System
import WireproxyAwg.Relay.Safety
import WireproxyAwg.Relay.Routing
import WireproxyAwg.Relay.Replies
import WireproxyAwg.Relay.Marks
import WireproxyAwg.Relay.Served
import WireproxyAwg.Relay.Delivery
import WireproxyAwg.Relay.Capacity
