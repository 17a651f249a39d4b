import Th2Common.Lib.Prog
import Th2Common.Lib.Hoare
import Th2Common.Lib.Relational
import Th2Common.Lib.Unordered
import Th2Common.Lib.Text
import Th2Common.Lib.Numeral
import Th2Common.Lib.Json
import Th2Common.Lib.Wire
import Th2Common.Lib.ProtoMessage
import Th2Common.Lib.TwoPass
import Th2Common.Proto.Common
import Th2Common.Proto.Roundtrip
import Th2Common.Proto.Generated
import Th2Common.World
import Th2Common.Connection.RabbitMQConfiguration
import Th2Common.Connection.Settings
import Th2Common.Connection.ConnectionManager
import Th2Common.Connection.Handshake
import Th2Common.Connection.Masking
import Th2Common.Message.Configuration
import Th2Common.Message.Sender
import Th2Common.Message.Queue
import Th2Common.Message.Router
import Th2Common.Message.Selection
import Th2Common.Message.Routes
import Th2Common.Message.Shipping
import Th2Common.Message.Operation
import Th2Common.Message.Deliveries
import Th2Common.Message.Decoding
import Th2Common.Message.Subscription
import Th2Common.Message.Regrouping
import Th2Common.Factory.AbstractCommonFactory
import Th2Common.Factory.Connecting
import Th2Common.Factory.Getting
import Th2Common.Factory.Moves
import Th2Common.Factory.Effects
import Th2Common.Factory.Soundness
import Th2Common.Factory.Steady
import Th2Common.Properties.Decoding
import Th2Common.Properties.Settings
import Th2Common.Properties.Configured
import Th2Common.Properties.Subscription
import Th2Common.Properties.Tags
import Th2Common.Properties.Regrouping
import Th2Common.Properties.Queue
import Th2Common.Properties.Failure
import Th2Common.Properties.Encoding
import Th2Common.Properties.Generated
import Th2Common.Properties.Send
import Th2Common.Properties.SendAll
import Th2Common.Properties.Filters
import Th2Common.Properties.Paths
import Th2Common.Properties.Connection
import Th2Common.Properties.Retry
import Th2Common.Properties.Password
import Th2Common.Properties.Destinations
import Th2Common.Properties.Order
import Th2Common.Properties.Growth
import Th2Common.Properties.Session
import Th2Common.Properties.Provenance
import Th2Common.Properties.Dispatching
import Th2Common.Properties.Main
import Th2Common.Factory.Dispatching
