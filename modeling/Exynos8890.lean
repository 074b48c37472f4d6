import Exynos8890.Library.TransitionSystem
import Exynos8890.Library.OrderedTable
import Exynos8890.Library.KeyedList
import Exynos8890.Library.RingFifo
import Exynos8890.Library.Handover
import Exynos8890.Library.CStruct
import Exynos8890.Library.HexText
import Exynos8890.Library.CString
import Exynos8890.Library.FileSystem
import Exynos8890.Library.HeapCells
import Exynos8890.Library.StreamReader
import Exynos8890.Library.NodeList
import Exynos8890.MobiCore.ResultCodes
import Exynos8890.MobiCore.TrustletSession
import Exynos8890.MobiCore.NotificationQueue
import Exynos8890.MobiCore.NotificationSlots
import Exynos8890.MobiCore.McpChannel
import Exynos8890.MobiCore.DriverDaemon.State
import Exynos8890.MobiCore.DriverDaemon.Device
import Exynos8890.MobiCore.DriverDaemon.Daemon
import Exynos8890.MobiCore.DriverDaemon.Effect
import Exynos8890.MobiCore.DriverDaemon.WellFormed
import Exynos8890.MobiCore.DriverDaemon.Connections
import Exynos8890.MobiCore.DriverDaemon.DeadConnections
import Exynos8890.MobiCore.DriverDaemon.LockAccounting
import Exynos8890.MobiCore.DriverDaemon.Isolation
import Exynos8890.MobiCore.DriverDaemon.Notifications
import Exynos8890.MobiCore.DriverDaemon.SessionLifetime
import Exynos8890.MobiCore.DriverDaemon.NotificationRouting
import Exynos8890.MobiCore.DriverDaemon.NetlinkServer
import Exynos8890.MobiCore.Common.CSemaphore
import Exynos8890.MobiCore.Common.NetlinkConnection
import Exynos8890.MobiCore.DriverDaemon.GpLifeCycle
import Exynos8890.MobiCore.DriverDaemon.NqConnect
import Exynos8890.MobiCore.DriverDaemon.Atomicity
import Exynos8890.MobiCore.DriverDaemon.SessionIdentity
import Exynos8890.MobiCore.McpMessage
import Exynos8890.MobiCore.DriverDaemon.ClientSocket
import Exynos8890.MobiCore.RegistryWire
import Exynos8890.MobiCore.RegistryRead
import Exynos8890.MobiCore.RegistryPaths
import Exynos8890.MobiCore.RegistryStore
import Exynos8890.MobiCore.SecureStorage
import Exynos8890.MobiCore.SecureStorageMap
import Exynos8890.MobiCore.ClientLib.Session
import Exynos8890.MobiCore.ClientLib.Device
import Exynos8890.MobiCore.ClientLib.Wsm
import Exynos8890.MobiCore.ClientLib.WsmLifeCycle
import Exynos8890.MobiCore.DriverDaemon.Service
import Exynos8890.MobiCore.ClientLib.OpenSession
import Exynos8890.MobiCore.ClientLib.BulkBuffers
import Exynos8890.MobiCore.DriverDaemon.BufferTables
import Exynos8890.MobiCore.ClientLib.BufferLists
import Exynos8890.MobiCore.ClientLib.BufferAgreement
import Exynos8890.MobiCore.DriverDaemon.Server
import Exynos8890.MobiCore.DriverDaemon.ConnectionOwners
import Exynos8890.MobiCore.DriverDaemon.ServerRounds
import Exynos8890.MobiCore.DriverDaemon.ErrorCodes
import Exynos8890.RootPa.ContainerStore
import Exynos8890.RootPa.CommandDocument
import Exynos8890.RootPa.CommandResults
import Exynos8890.RootPa.LeaseLock
import Exynos8890.RootPa.ContentManagerLock
import Exynos8890.RootPa.ProvisioningEngine
import Exynos8890.RootPa.ProvisioningDialogue
import Exynos8890.RootPa.ProvisioningStrings
import Exynos8890.RootPa.ProvisioningRuns
import Exynos8890.RootPa.ProvisioningExchanges
import Exynos8890.RootPa.ProvisioningStart
import Exynos8890.ProvLib.ProvisioningMessage
import Exynos8890.ProvLib.DeviceBinding
import Exynos8890.ProvLib.MessageValidity
import Exynos8890.MobiCore.DriverDaemon.DeviceClose
import Exynos8890.MobiCore.ClientLib.Process
import Exynos8890.Keymaster.TeeKeymaster
import Exynos8890.Library.ResourceLog
import Exynos8890.SecurePath.SecG2dDrm
import Exynos8890.Library.MachineInt
import Exynos8890.Gralloc.PrivateHandle
import Exynos8890.Gralloc.Mapper
import Exynos8890.Gralloc.HandleLifeCycle
import Exynos8890.HwJpeg.JpegDescriptor
import Exynos8890.Library.JavaUuid
import Exynos8890.Library.ParcelFormat
import Exynos8890.RootPa.ResultParcels
import Exynos8890.ProvLib.ProvisioningHandles
import Exynos8890.Library.ReceiveAll
import Exynos8890.MobiCore.DriverDaemon.TrustletBlob
import Exynos8890.MobiCore.ClientLib.OpenSessions
import Exynos8890.MobiCore.ClientLib.BufferCalls
import Exynos8890.MobiCore.ClientLib.ResponseFraming
import Exynos8890.Library.RecordStream
import Exynos8890.MobiCore.ClientLib.WaitNotification
import Exynos8890.Library.ByteCursor
import Exynos8890.MobiCore.ServiceBlob
import Exynos8890.MobiCore.TABlob
import Exynos8890.MobiCore.RegistryFiles
import Exynos8890.MobiCore.TABlobStore
import Exynos8890.MobiCore.DataContainers
import Exynos8890.MobiCore.RegistryContents
import Exynos8890.MobiCore.RegistryCleanup
import Exynos8890.MobiCore.CleanupPaths
import Exynos8890.MobiCore.CleanupCompleteness
import Exynos8890.MobiCore.ClientLib.GpOperation
import Exynos8890.MobiCore.ClientLib.GpSessions
import Exynos8890.MobiCore.ClientLib.SessionsHeld
import Exynos8890.MobiCore.ClientLib.SessionLifeCycle
import Exynos8890.RootPa.HttpUpload
import Exynos8890.RootPa.HttpHeader
import Exynos8890.RootPa.HttpRetries
import Exynos8890.RootPa.ResponseElements
import Exynos8890.RootPa.CommandRounds
import Exynos8890.RootPa.BufferUse
import Exynos8890.MobiCore.ClientLib.Holdings
import Exynos8890.RootPa.ContentManagerSession
import Exynos8890.MobiCore.RegistryEntries
import Exynos8890.MobiCore.ProviderCleanup
import Exynos8890.Library.BoundedString
import Exynos8890.RootPa.InitialUrl
import Exynos8890.ProvLib.MessageBounds
import Exynos8890.MobiCore.ClientLib.PartialReferences
import Exynos8890.Library.RestartingSweep
import Exynos8890.MobiCore.DriverDaemon.NetlinkCleanUp
import Exynos8890.Keymaster.TeeResults
import Exynos8890.Keymaster.KeymasterHal
import Exynos8890.Keymaster.KeyImport
import Exynos8890.Gralloc.BufferSizes
import Exynos8890.HwJpeg.ImageSizes
import Exynos8890.RootPa.InstalledContainers
import Exynos8890.MobiCore.SecureStorageFaults
import Exynos8890.RootPa.MessageContainer
import Exynos8890.Library.Crc
import Exynos8890.ProvLib.MessageChecksum
import Exynos8890.Library.Sextets
import Exynos8890.RootPa.Base64
import Exynos8890.MobiCore.SecureStorageBuffers
import Exynos8890.MobiCore.ClientLib.Mappings
import Exynos8890.MobiCore.ClientLib.OperationUnwinding
import Exynos8890.MobiCore.ClientLib.CallUnwinding
import Exynos8890.Library.RequestReply
import Exynos8890.MobiCore.DriverDaemon.Answers
import Exynos8890.MobiCore.Scheduler
import Exynos8890.Library.StructBytes
import Exynos8890.MobiCore.CommandWire
import Exynos8890.MobiCore.ResponseWire
import Exynos8890.Library.MapHistory
import Exynos8890.MobiCore.RegistryMap
import Exynos8890.MobiCore.DriverDaemon.SecureSessions
import Exynos8890.MobiCore.DriverDaemon.StartUp
