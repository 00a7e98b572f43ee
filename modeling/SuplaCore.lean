import SuplaCore.Lib.Bytes
import SuplaCore.Lib.Framing
import SuplaCore.Lib.Sys
import SuplaCore.Lib.Collect
import SuplaCore.Lib.Json
import SuplaCore.Lib.Repeat
import SuplaCore.Lib.CString
import SuplaCore.Lib.TimeVal
import SuplaCore.Proto.Packet
import SuplaCore.Proto.Buffer
import SuplaCore.Proto.Link
import SuplaCore.Proto.Proof.Buffer
import SuplaCore.Proto.Proof.Append
import SuplaCore.Proto.Proof.Framing
import SuplaCore.Proto.Proof.Receive
import SuplaCore.Proto.Proof.Link
import SuplaCore.Srpc.Call
import SuplaCore.Srpc.Message
import SuplaCore.Srpc.Queue
import SuplaCore.Srpc.Srpc
import SuplaCore.Srpc.Getdata
import SuplaCore.Srpc.Conn
import SuplaCore.Srpc.Proof.Queue
import SuplaCore.Srpc.Proof.Srpc
import SuplaCore.Srpc.Proof.Delivery
import SuplaCore.Srpc.Proof.Dispatch
import SuplaCore.Scheduler.Database
import SuplaCore.Scheduler.Action
import SuplaCore.Scheduler.Queue
import SuplaCore.Scheduler.Proof.Action
import SuplaCore.Scheduler.Proof.Queue
import SuplaCore.Scheduler.ShutPartially
import SuplaCore.Scheduler.Proof.ShutPartially
import SuplaCore.Client.Database
import SuplaCore.Client.Register
import SuplaCore.Client.Scenes
import SuplaCore.Client.Proof.Register
import SuplaCore.Device.Register
import SuplaCore.Device.Proof.Register
import SuplaCore.Async.Task
import SuplaCore.Async.Life
import SuplaCore.Async.Scene
import SuplaCore.Async.Proof.Life
import SuplaCore.Async.Proof.Scene
import SuplaCore.Channel.Props
import SuplaCore.Channel.Config
import SuplaCore.Channel.Proof.Config
import SuplaCore.Channel.Relations
import SuplaCore.Channel.Proof.Relations
import SuplaCore.Channel.Proof.SeenAlike
import SuplaCore.Device.Channels
import SuplaCore.Device.Proof.Channels
import SuplaCore.Device.JsonConfig
import SuplaCore.Device.Proof.JsonConfig
import SuplaCore.Device.JsonMerge
import SuplaCore.Device.Proof.JsonMerge
import SuplaCore.Vbt.Condition
import SuplaCore.Vbt.Trigger
import SuplaCore.Vbt.System
import SuplaCore.Vbt.Proof.Episode
import SuplaCore.Vbt.Proof.Load
import SuplaCore.Dobject.Objects
import SuplaCore.Dobject.Proof.Objects
import SuplaCore.Async.Pool
import SuplaCore.Async.Proof.Pool
import SuplaCore.Push.Throttling
import SuplaCore.Push.Proof.Throttling
import SuplaCore.Conn.Objects
import SuplaCore.Conn.Proof.Objects
import SuplaCore.Scene.Nested
import SuplaCore.Scene.Proof.Nested
import SuplaCore.Mqtt.Proof.Actions
import SuplaCore.Mqtt.Actions
import SuplaCore.Mqtt.CommandGrammar
import SuplaCore.Mqtt.Proof.CommandGrammar
import SuplaCore.Mqtt.Datasource
import SuplaCore.Mqtt.Proof.Datasource
import SuplaCore.Mqtt.Publisher
import SuplaCore.Mqtt.Proof.Publisher
import SuplaCore.Mqtt.Pass
import SuplaCore.Mqtt.Proof.Pass
import SuplaCore.Mqtt.Topics
import SuplaCore.Mqtt.Unpublisher
import SuplaCore.Mqtt.Proof.Unpublisher
import SuplaCore.Mqtt.ValueSetter
import SuplaCore.Mqtt.Proof.ValueSetter
import SuplaCore.Client.Proof.Scenes
import SuplaCore.Async.Gate
import SuplaCore.Async.Proof.Gate
import SuplaCore.Device.SetConfig
import SuplaCore.Device.Proof.SetConfig
import SuplaCore.Device.ShadingParameters
import SuplaCore.Device.Proof.ShadingParameters
import SuplaCore.User.VirtualChannels
import SuplaCore.User.Proof.VirtualChannels
import SuplaCore.Srpc.Pack
import SuplaCore.Srpc.Register
import SuplaCore.Srpc.Encode
import SuplaCore.Srpc.EvTool
import SuplaCore.Srpc.QueueList
import SuplaCore.Srpc.Proof.Pack
import SuplaCore.Srpc.Proof.Getdata
import SuplaCore.Srpc.Proof.PackTrip
import SuplaCore.Srpc.Proof.Register
import SuplaCore.Srpc.Proof.Encode
import SuplaCore.Srpc.Proof.EvTool
import SuplaCore.Srpc.Proof.EvAdd
import SuplaCore.Srpc.Proof.QueueList
import SuplaCore.Lib.Batch
import SuplaCore.Client.ObjContainer
import SuplaCore.Client.Proof.ObjContainer
import SuplaCore.Client.Channels
import SuplaCore.Client.Proof.Channels
import SuplaCore.Client.RemoteUpdate
import SuplaCore.Client.Proof.RemoteUpdate
import SuplaCore.Async.TaskList
import SuplaCore.Async.Proof.TaskList
import SuplaCore.Conn.AuthkeyCache
import SuplaCore.Conn.Proof.AuthkeyCache
import SuplaCore.Vbt.Fire
import SuplaCore.Vbt.Proof.Fire
import SuplaCore.Async.SceneRun
import SuplaCore.Async.Proof.SceneRun
import SuplaCore.Analyzer.VoltageAberration
import SuplaCore.Analyzer.Proof.VoltageAberration
import SuplaCore.Analyzer.Electricity
import SuplaCore.Analyzer.Proof.Electricity
import SuplaCore.Device.DeviceChannel
import SuplaCore.Device.Proof.Validity
import SuplaCore.Lib.Words
import SuplaCore.Device.Proof.Flags
import SuplaCore.Device.Proof.Analysis
import SuplaCore.Lib.AddrText
import SuplaCore.Device.ChannelState
import SuplaCore.Device.Proof.ChannelState
import SuplaCore.Lib.Loop
import SuplaCore.Device.Enumerate
import SuplaCore.Device.Proof.Enumerate
import SuplaCore.Lib.JsonNumber
import SuplaCore.Lib.Scan
import SuplaCore.Vbt.ActiveHours
import SuplaCore.Vbt.Proof.ActiveHours
import SuplaCore.Channel.ElectricityMeterConfig
import SuplaCore.Channel.Proof.InitialValue
import SuplaCore.Channel.Proof.PhaseValues
import SuplaCore.Channel.HvacConfig
import SuplaCore.Channel.Proof.HvacConfig
import SuplaCore.Channel.WeeklySchedule
import SuplaCore.Channel.Proof.WeeklySchedule
import SuplaCore.Channel.SensorConfig
import SuplaCore.Channel.Proof.SensorConfig
import SuplaCore.Device.ChannelTable
import SuplaCore.Device.Proof.ChannelTable
import SuplaCore.Lib.Ascending
import SuplaCore.User.ChannelGroups
import SuplaCore.User.Proof.ChannelGroups
import SuplaCore.User.GroupToggle
import SuplaCore.User.Proof.GroupToggle
import SuplaCore.Device.OnState
import SuplaCore.Device.Proof.OnState
import SuplaCore.Async.GateRun
import SuplaCore.Async.Proof.GateRun
import SuplaCore.Lib.Mutex
import SuplaCore.Push.Locking
import SuplaCore.Push.Proof.Locking
import SuplaCore.Mqtt.Subscriptions
import SuplaCore.Mqtt.Proof.Subscriptions
import SuplaCore.Lib.Until
import SuplaCore.Client.SceneSync
import SuplaCore.Client.Proof.SceneSync
import SuplaCore.Lib.Packed
import SuplaCore.Srpc.EmEvTool
import SuplaCore.Srpc.Proof.EmEvTool
import SuplaCore.Device.EmExtendedValue
import SuplaCore.Device.Proof.EmExtendedValue
import SuplaCore.Lib.Ledger
import SuplaCore.Common.SafeArray
import SuplaCore.Common.Proof.SafeArray
import SuplaCore.Http.Throttling
import SuplaCore.Http.Proof.Throttling
import SuplaCore.Http.StateReport
import SuplaCore.Http.Proof.StateReport
import SuplaCore.Http.Proof.ReportRate
import SuplaCore.Conn.Connection
import SuplaCore.Conn.Proof.Connection
import SuplaCore.Lib.Dialogue
import SuplaCore.Dobject.PackUpdater
import SuplaCore.Dobject.Proof.PackUpdater
import SuplaCore.Client.Lists
import SuplaCore.Client.Proof.Lists
import SuplaCore.Lib.Scanf
import SuplaCore.Ipc.Ctrl
import SuplaCore.Ipc.Proof.Ctrl
import SuplaCore.Ipc.Call
import SuplaCore.Ipc.Proof.Call
