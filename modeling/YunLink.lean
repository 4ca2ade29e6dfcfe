import YunLink.Lib.Runs
import YunLink.Lib.SortedMap
import YunLink.Lib.Words
import YunLink.Wire.Types
import YunLink.Wire.Codec
import YunLink.Wire.RoundTrip
import YunLink.Wire.Payload
import YunLink.Net.SendQueue
import YunLink.Net.QueueBudget
import YunLink.Net.QueueDelivery
import YunLink.Net.SendLoop
import YunLink.Net.Receive
import YunLink.Runtime.State
import YunLink.Runtime.Authority
import YunLink.Runtime.Session
import YunLink.Runtime.Runs
import YunLink.Runtime.Teardown
import YunLink.Runtime.Records
import YunLink.Runtime.Send
import YunLink.Runtime.Authentication
import YunLink.Runtime.Negotiation
import YunLink.Runtime.Required
import YunLink.Runtime.Handshake
import YunLink.Runtime.LeaseHistory
import YunLink.Runtime.Lanes
import YunLink.Runtime.LaneTeardown
import YunLink.Runtime.LaneOwnership
import YunLink.Runtime.Reconnect
import YunLink.Runtime.Isolation
import YunLink.Runtime.EntityLeases
import YunLink.Net.FailureIsolation
import YunLink.Net.FrameBoundaries
import YunLink.Wire.Canonical
import YunLink.Lib.Codec
import YunLink.Messages.Core
import YunLink.Messages.CoreRoundTrip
import YunLink.Messages.Configuration
import YunLink.Messages.ConfigurationRoundTrip
import YunLink.Messages.ConfigurationRelay
import YunLink.Bindings.RustConfiguration
import YunLink.Bindings.RustAgreement
import YunLink.Bindings.PythonConfiguration
import YunLink.Bindings.PythonAgreement
import YunLink.Bindings.PythonCore
import YunLink.Bindings.PythonCoreAgreement
import YunLink.Discovery.Codec
import YunLink.Discovery.RoundTrip
import YunLink.Discovery.AuthTag
import YunLink.Lib.Checks
import YunLink.Profiles.Proto
import YunLink.Profiles.Media
import YunLink.Profiles.MediaBindings
import YunLink.Profiles.MediaAgreement
import YunLink.Profiles.MediaFileAgreement
import YunLink.Profiles.Formation
import YunLink.Profiles.FormationAgreement
import YunLink.Profiles.Telemetry
import YunLink.Lib.Access
import YunLink.Wire.MemorySafety
import YunLink.Wire.Corruption
import YunLink.Lib.Cutting
import YunLink.Net.Segmentation
import YunLink.Net.Overflow
import YunLink.Net.RefusedEnqueue
import YunLink.Lib.Joined
import YunLink.Runtime.StreamKeys
import YunLink.Net.WriteReport
import YunLink.Bindings.Views
import YunLink.Lib.Paths
import YunLink.Profiles.Paths
import YunLink.Net.Draining
import YunLink.Discovery.Advertiser
import YunLink.Discovery.Replies
import YunLink.Discovery.Memberships
import YunLink.Net.EndToEnd
import YunLink.Runtime.Provenance
import YunLink.Bindings.Events
import YunLink.Runtime.Answers
import YunLink.Bindings.ConfigurationClients
