import WclapBridge.ForStd.Cells
import WclapBridge.ForStd.Loop
import WclapBridge.ForStd.List
import WclapBridge.ForStd.Heap
import WclapBridge.ForStd.Codec
import WclapBridge.Native.Memory
import WclapBridge.Native.Abi
import WclapBridge.Native.Arena
import WclapBridge.Native.Events
import WclapBridge.Native.Process
import WclapBridge.Spec.MemoryContainment
import WclapBridge.ForStd.LexPath
import WclapBridge.Native.MapPath
import WclapBridge.Spec.PathContainment
import WclapBridge.Spec.EventPush
import WclapBridge.Spec.EventCopy
import WclapBridge.Spec.ProcessLayout
import WclapBridge.Spec.EventEcho
import WclapBridge.Spec.ProcessTranslation
import WclapBridge.ForStd.Transition
import WclapBridge.Native.HostFunctions
import WclapBridge.Native.HostCallbacks
import WclapBridge.Spec.HostExtensionSafety
import WclapBridge.Native.Extensions
import WclapBridge.Spec.ExtensionPointers
import WclapBridge.Native.InstanceGroup
import WclapBridge.ForStd.Program
import WclapBridge.Native.WclapModule
import WclapBridge.Native.Requests
import WclapBridge.Native.Operations
import WclapBridge.Spec.ErrorLatch
import WclapBridge.Spec.HostTables
import WclapBridge.Spec.ErrorQuiescence
import WclapBridge.ForStd.SlotTable
import WclapBridge.Native.Threads
import WclapBridge.Spec.ThreadTable
import WclapBridge.Spec.SpawnAtClose
import WclapBridge.Spec.ThreadStart
import WclapBridge.ForStd.LockOrder
import WclapBridge.Native.PluginCalls
import WclapBridge.Spec.StaleObjects
import WclapBridge.Spec.LockCycles
import WclapBridge.Native.NestedCalls
import WclapBridge.Spec.Reentrancy
import WclapBridge.Native.Contexts
import WclapBridge.Spec.PluginIsolation
import WclapBridge.Native.GlobalInit
import WclapBridge.Spec.EngineLifetime
import WclapBridge.Native.BridgePlugin
import WclapBridge.Spec.InitBalance
import WclapBridge.Native.WclapClose
import WclapBridge.Spec.EntryPairing
import WclapBridge.Spec.MemoryAccess
import WclapBridge.Native.Webview
import WclapBridge.Spec.WebviewUri
import WclapBridge.Native.Resource
import WclapBridge.Spec.ResourceFile
import WclapBridge.Spec.PluginScan
import WclapBridge.Native.WclapList
import WclapBridge.Spec.HandleAccounting
import WclapBridge.Spec.EventSize
import WclapBridge.Spec.HostRegistration
import WclapBridge.Native.Streams
import WclapBridge.ForStd.CString
import WclapBridge.Native.PluginFactory
import WclapBridge.Spec.StreamFidelity
import WclapBridge.Spec.PluginIds
import WclapBridge.Native.GuestStrings
import WclapBridge.Native.AudioPorts
import WclapBridge.Native.PluginGetters
import WclapBridge.Native.GuestCall
import WclapBridge.Native.ModuleSetup
import WclapBridge.Native.PresetLoad
import WclapBridge.Spec.ResourceCopy
import WclapBridge.Spec.PortRequests
import WclapBridge.Spec.TerminatedStrings
import WclapBridge.Spec.CallFailure
import WclapBridge.Spec.ModuleAcceptance
import WclapBridge.Spec.PresetEcho
import WclapBridge.Native.ErrorBuffer
import WclapBridge.Spec.ErrorBuffer
import WclapBridge.Native.GroupErrors
import WclapBridge.Spec.FirstError
import WclapBridge.Native.GetFactory
import WclapBridge.Spec.AbsentFactory
import WclapBridge.Native.DescriptorStore
import WclapBridge.Spec.Descriptors
import WclapBridge.ForStd.Ticker
import WclapBridge.Native.GuestEntries
import WclapBridge.Spec.TimeLimit
import WclapBridge.Native.Marshalling
import WclapBridge.Spec.Marshalling
import WclapBridge.Native.GuestBytes
import WclapBridge.Native.PluginMethods
import WclapBridge.Native.GetterCalls
import WclapBridge.Native.HostReplies
import WclapBridge.Native.HostExtensions
import WclapBridge.Native.HostDispatch
import WclapBridge.Spec.MethodCalls
import WclapBridge.Spec.Getters
import WclapBridge.Spec.PortTypes
import WclapBridge.Spec.HostStructs
import WclapBridge.Spec.HostCalls
import WclapBridge.Native.WebviewTraffic
import WclapBridge.Spec.WebviewTraffic
import WclapBridge.Native.BridgeFactory
import WclapBridge.Spec.BridgeRoutes
import WclapBridge.Spec.Interruption
import WclapBridge.Spec.InstanceOwnership
import WclapBridge.Spec.TaskInstances
import WclapBridge.ForStd.Responder
import WclapBridge.Spec.BridgedPlugin
import WclapBridge.Native.PluginGui
import WclapBridge.Spec.GuiSessions
