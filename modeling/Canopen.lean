import Canopen.Config.Document
import Canopen.Device.Sample
import Canopen.Node
import Canopen.Proofs.Resolution
import Canopen.Register
import Canopen.Proofs.PdoState
import Canopen.Proofs.CommitOrder
import Canopen.Proofs.Events
import Canopen.Proofs.Provenance
import Canopen.Proofs.InhibitTime
import Canopen.Proofs.ChangeOfState
import Canopen.Proofs.SyncCounter
import Canopen.Proofs.Configuration
import Canopen.Proofs.MappedObjects
import Canopen.Proofs.Transfer
import Canopen.Proofs.ValueTransport
import Canopen.Proofs.RefusedWrite
import Canopen.Proofs.StoredMapping
import Canopen.Proofs.ValidPdo
import Canopen.Proofs.CyclicSchedule
import Canopen.Proofs.TransmitQueue
import Canopen.Proofs.TransportRecord
import Canopen.Proofs.FrameContent
import Canopen.Proofs.DoubleBuffering
import Canopen.Proofs.SyncLockstep
import Canopen.Proofs.OperatingState
import Canopen.Proofs.EntryLayout
import Canopen.Proofs.AcceptedWrites
import Canopen.Proofs.IdentifierWord
import Canopen.Proofs.PdoIdentity
import Canopen.Proofs.IdentifierRoundTrip
import Canopen.Proofs.DictionaryConfiguration
import Canopen.Proofs.CheckedAccess
import Canopen.Proofs.CheckedMapping
import Canopen.Proofs.CheckedPdo
import Canopen.Proofs.CheckedDictionary
import Canopen.Proofs.CheckedNode
import Canopen.Proofs.StagedBytes
import Canopen.Proofs.UnusedBytes
import Canopen.Proofs.MappingReset
import Canopen.Proofs.SyncStart
import Canopen.Proofs.ReservedTypes
import Canopen.Proofs.SendRequests
import Canopen.Proofs.EventTime
import Canopen.Proofs.SyncTicks
import Canopen.Proofs.SyncProducer
import Canopen.Proofs.SyncWindow
import Canopen.Proofs.SyncSupervision
import Canopen.Proofs.LeadingWrites
import Canopen.Proofs.PartialReads
import Canopen.Proofs.WriteProtection
import Canopen.Proofs.FrameRouting
import Canopen.Proofs.ErrorEpisodes
import Canopen.Proofs.ConfigurationRules
