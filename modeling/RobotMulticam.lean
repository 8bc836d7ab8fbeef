import RobotMulticam.Lib.Outcome
import RobotMulticam.Lib.Returns
import RobotMulticam.Lib.Triple
import RobotMulticam.Lib.Run
import RobotMulticam.Lib.Window
import RobotMulticam.Lib.Chunks
import RobotMulticam.Lib.Ring
import RobotMulticam.Lib.Cycle
import RobotMulticam.Lib.Suffix
import RobotMulticam.Lib.KeySet
import RobotMulticam.Lib.Loop
import RobotMulticam.Lib.Intervals
import RobotMulticam.Lib.Pointwise
import RobotMulticam.Lib.Packing
import RobotMulticam.Lib.Dict
import RobotMulticam.Lib.Directory
import RobotMulticam.Lib.SelfDelimiting
import RobotMulticam.Lib.Path
import RobotMulticam.Lib.FileTree
import RobotMulticam.Lib.Script
import RobotMulticam.Lib.Epochs
import RobotMulticam.Protocol.Messages
import RobotMulticam.Protocol.Wire
import RobotMulticam.Codec.AccessUnit
import RobotMulticam.Codec.Injection
import RobotMulticam.Codec.Bounds
import RobotMulticam.Codec.Manifest
import RobotMulticam.Codec.Reassembly
import RobotMulticam.Codec.ContextPacket
import RobotMulticam.Edge.ReplayWindow
import RobotMulticam.Edge.Gateway
import RobotMulticam.Edge.Context
import RobotMulticam.Edge.Worker
import RobotMulticam.Edge.Adapters
import RobotMulticam.Edge.Samples
import RobotMulticam.Edge.Embodiment
import RobotMulticam.Edge.Assembly
import RobotMulticam.Edge.Resampling
import RobotMulticam.Edge.Schedule
import RobotMulticam.Edge.HoldQueue
import RobotMulticam.Edge.LatestQueue
import RobotMulticam.Edge.SessionManifest
import RobotMulticam.Edge.Startup
import RobotMulticam.Edge.Collect
import RobotMulticam.Edge.Exports
import RobotMulticam.Edge.Reconcile
import RobotMulticam.Edge.Turn
import RobotMulticam.Edge.Restarts
import RobotMulticam.Timebase.ClockMapper
import RobotMulticam.Adapter.Service
import RobotMulticam.Adapter.Commands
import RobotMulticam.Discovery.Cameras
import RobotMulticam.Discovery.CameraMap
import RobotMulticam.Discovery.Persistence
import RobotMulticam.Discovery.Snapshots
import RobotMulticam.Discovery.Policy
import RobotMulticam.Identity.StreamIdentity
import RobotMulticam.Identity.Signed
import RobotMulticam.Receiver.Registry
import RobotMulticam.Receiver.IngestQueue
import RobotMulticam.Receiver.Synchronize
import RobotMulticam.Receiver.Catalog
import RobotMulticam.Receiver.Runtime
import RobotMulticam.Receiver.Service
import RobotMulticam.Receiver.Threads
import RobotMulticam.Receiver.Steps
import RobotMulticam.Receiver.Bookkeeping
import RobotMulticam.Receiver.Installation
import RobotMulticam.Receiver.Recovery
import RobotMulticam.Receiver.Reconnect
import RobotMulticam.Receiver.Selection
import RobotMulticam.Receiver.Consumption
import RobotMulticam.Receiver.Connections
import RobotMulticam.Receiver.Numbering
import RobotMulticam.Receiver.Listener
import RobotMulticam.Receiver.Session
import RobotMulticam.Receiver.Episodes
import RobotMulticam.Receiver.ReplayVerify
import RobotMulticam.Receiver.Retention
import RobotMulticam.Relay.Projection
import RobotMulticam.Relay.Manager
import RobotMulticam.Relay.ConnectedLoop
import RobotMulticam.Relay.MetadataSse
import RobotMulticam.Link.AnchorSequence
import RobotMulticam.Link.Loss
import RobotMulticam.Link.Manifest
import RobotMulticam.Link.Projection
import RobotMulticam.Link.Samples
import RobotMulticam.Link.Secrets
import RobotMulticam.Link.Admission
import RobotMulticam.Link.CommandPath
import RobotMulticam.Dataset.FixedGrid
import RobotMulticam.Dataset.AllOrNothing
