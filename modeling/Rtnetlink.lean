import Rtnetlink.Address.Fragments
import Rtnetlink.Address.Hosts
import Rtnetlink.Address.Mac
import Rtnetlink.Config.Qdisc
import Rtnetlink.Config.Route
import Rtnetlink.Os.Offload
import Rtnetlink.Os.Scheduler
import Rtnetlink.Proofs.AddressRequests
import Rtnetlink.Proofs.AttributeForest
import Rtnetlink.Proofs.BatchTiling
import Rtnetlink.Proofs.Blocks
import Rtnetlink.Proofs.ChainTiling
import Rtnetlink.Proofs.Confinement
import Rtnetlink.Proofs.Custody
import Rtnetlink.Proofs.Guards
import Rtnetlink.Proofs.Handling
import Rtnetlink.Proofs.Hearing
import Rtnetlink.Proofs.HostList
import Rtnetlink.Proofs.InRange
import Rtnetlink.Proofs.Independence
import Rtnetlink.Proofs.InterfaceLookup
import Rtnetlink.Proofs.MacSequence
import Rtnetlink.Proofs.MacText
import Rtnetlink.Proofs.Oversized
import Rtnetlink.Proofs.Ownership
import Rtnetlink.Proofs.Partition
import Rtnetlink.Proofs.Progress
import Rtnetlink.Proofs.QuadText
import Rtnetlink.Proofs.Removal
import Rtnetlink.Proofs.Residue
import Rtnetlink.Proofs.Retrying
import Rtnetlink.Proofs.Rollback
import Rtnetlink.Proofs.ShapingRequests
import Rtnetlink.Proofs.StaleRecords
import Rtnetlink.Proofs.SubnetText
import Rtnetlink.Proofs.Tape
import Rtnetlink.Proofs.Verdicts
import Rtnetlink.Proofs.VirtualPairs
