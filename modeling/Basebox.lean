import Basebox.Lib.Run
import Basebox.Lib.SwapQueue
import Basebox.Lib.Table
import Basebox.Lib.Lists
import Basebox.Sai
import Basebox.OfDpa.Switch
import Basebox.Netlink.StpStates
import Basebox.OfDpa.Multicast
import Basebox.OfDpa.McMembers
import Basebox.OfDpa.Flood
import Basebox.OfDpa.OverlayFlood
import Basebox.OfDpa.Lag
import Basebox.OfDpa.PortVlan
import Basebox.Netlink.Bond
import Basebox.Lib.Counts
import Basebox.Lib.Dispatch
import Basebox.Lib.Loop
import Basebox.Lib.IdPool
import Basebox.Lib.MultiMap
import Basebox.Lib.Inverse
import Basebox.Lib.Proc
import Basebox.Lib.Ledger
import Basebox.Netlink.L3Egress
import Basebox.Netlink.Vxlan
import Basebox.Netlink.VxlanRefs
import Basebox.Netlink.Callbacks
import Basebox.Netlink.L3Neigh
import Basebox.Netlink.L3Route
import Basebox.Netlink.Mdb
import Basebox.Netlink.RouteEntries
import Basebox.Netlink.L3NeighRefs
import Basebox.Netlink.L3Account
import Basebox.Netlink.L3RouteRefs
import Basebox.Netlink.L3Tables
import Basebox.Netlink.L3RouteRuns
import Basebox.Netlink.L3NextHops
import Basebox.Netlink.L3NextHopRefs
import Basebox.Netlink.L3NextHopSteps
import Basebox.Netlink.L3Hosts
import Basebox.Netlink.L3HostSets
import Basebox.Netlink.L3HostLife
import Basebox.OfDpa.Stg
import Basebox.OfDpa.StgSwitch
import Basebox.OfDpa.Reconnect
import Basebox.Netlink.Wakeup
import Basebox.Netlink.Queues
import Basebox.Netlink.TapQueue
import Basebox.Netlink.Vlan
import Basebox.Netlink.VlanVrf
import Basebox.Netlink.VlanEntries
import Basebox.Netlink.VlanRollback
import Basebox.Netlink.VlanUsers
import Basebox.Netlink.VlanBond
import Basebox.Netlink.BridgeStp
import Basebox.Netlink.StpGroups
import Basebox.Netlink.PortManager
import Basebox.Netlink.TapDevices
import Basebox.Netlink.TapRemovals
import Basebox.Netlink.PortLookup
import Basebox.Netlink.BridgeVlans
import Basebox.Netlink.VlanBitmaps
import Basebox.Netlink.RouteMasks
import Basebox.Netlink.PrefixRange
import Basebox.Netlink.VxlanSwitch
import Basebox.Lib.SharedIds
import Basebox.Lib.IdMap
import Basebox.Lib.KeysInUse
import Basebox.Lib.SortedDiff
import Basebox.Netlink.BridgeCalls
import Basebox.Netlink.SwiFrames
import Basebox.Netlink.BridgeRelease
import Basebox.Netlink.AccessPorts
import Basebox.Netlink.VxlanIds
import Basebox.Netlink.VxlanTenants
import Basebox.Netlink.VxlanTunnels
import Basebox.Netlink.VxlanFailures
import Basebox.Netlink.VxlanAccount
import Basebox.Netlink.EndpointRollback
import Basebox.Netlink.VxlanNextHops
import Basebox.Netlink.TermMacs
import Basebox.Netlink.TermMacFailures
import Basebox.Netlink.MdbUpdate
import Basebox.Netlink.L3EgressMac
import Basebox.Netlink.L3EgressUsers
import Basebox.OfDpa.Routing
import Basebox.OfDpa.LagIds
import Basebox.Netlink.L3InterfaceIds
import Basebox.Netlink.L3IdLeaks
import Basebox.Netlink.HostVrf
import Basebox.Netlink.NextHopObjects
import Basebox.Netlink.L3GroupSwitch
import Basebox.Netlink.L3Notify
import Basebox.Netlink.L3NotifyRuns
import Basebox.Netlink.HostRoutes
import Basebox.Netlink.PortConfig
import Basebox.Netlink.BridgePorts
import Basebox.Netlink.BridgeTeardown
import Basebox.Netlink.BondMembers
import Basebox.Lib.LeadingBits
import Basebox.OfDpa.Bridging
import Basebox.Netlink.Fdb
import Basebox.Lib.EchoQueue
import Basebox.Netlink.FdbSettle
import Basebox.Netlink.FdbMirror
import Basebox.Netlink.FdbOverlay
import Basebox.Netlink.EventPump
import Basebox.Lib.LateTable
import Basebox.Netlink.TapPath
import Basebox.Lib.AheadCache
import Basebox.Netlink.LinkCache
import Basebox.Netlink.BridgeWatch
import Basebox.Netlink.LateAddrs
import Basebox.Netlink.LateRoutes
