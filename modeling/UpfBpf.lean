import UpfBpf.Lib.Bytes
import UpfBpf.Lib.Tables
import UpfBpf.Lib.Run
import UpfBpf.Lib.Effect
import UpfBpf.Lib.TwoKeys
import UpfBpf.Lib.StdSort
import UpfBpf.Lib.OnesComplement
import UpfBpf.Rules
import UpfBpf.Key
import UpfBpf.Datapath.Xdp
import UpfBpf.Datapath.Parser
import UpfBpf.Datapath.Far
import UpfBpf.Datapath.Encap
import UpfBpf.Datapath.Forward
import UpfBpf.Datapath.OuterHeader
import UpfBpf.Control.Program
import UpfBpf.Control.Pipeline
import UpfBpf.Control.Session
import UpfBpf.Control.Outcome
import UpfBpf.Control.Delivery
import UpfBpf.Control.Mirror
import UpfBpf.Control.Capacity
import UpfBpf.Control.Standing
import UpfBpf.Control.Rollback
import UpfBpf.Traffic.Frame
import UpfBpf.Traffic.Publication
import UpfBpf.Traffic.EndToEnd
import UpfBpf.Traffic.CreateRemove
import UpfBpf.Control.Registries
import UpfBpf.Establishment
import UpfBpf.Editing
import UpfBpf.Traffic.Detection
import UpfBpf.Datapath.Layout
import UpfBpf.Datapath.Reference
import UpfBpf.Control.LifeCycle
import UpfBpf.Control.Skeleton
import UpfBpf.Control.Component
import UpfBpf.Control.Attachment
import UpfBpf.Lib.Owners
import UpfBpf.Control.Reconfiguration
import UpfBpf.Control.Release
import UpfBpf.Control.Isolation
import UpfBpf.Traffic.Statistics
import UpfBpf.Control.Selection
import UpfBpf.Traffic.Actions
import UpfBpf.Lib.Bag
import UpfBpf.Control.Removal
import UpfBpf.Traffic.ForwardingTable
import UpfBpf.Traffic.Epochs
import UpfBpf.Traffic.Interleaving
import UpfBpf.Api.Request
import UpfBpf.Api.Server
import UpfBpf.Api.Service
import UpfBpf.Api.Delivery
