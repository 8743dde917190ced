import ExchangeGrid.Catalog.Assets
import ExchangeGrid.Catalog.Index
import ExchangeGrid.Catalog.NetworkControl
import ExchangeGrid.Catalog.Sessions
import ExchangeGrid.Catalog.TrustSec
import ExchangeGrid.Config
import ExchangeGrid.Error
import ExchangeGrid.Facade.Health
import ExchangeGrid.Facade.Index
import ExchangeGrid.Facade.NetworkControl
import ExchangeGrid.Facade.Request
import ExchangeGrid.Facade.Sessions
import ExchangeGrid.Facade.TrustSec
import ExchangeGrid.Json.Document
import ExchangeGrid.Json.Numeral
import ExchangeGrid.Json.Shape
import ExchangeGrid.Json.Token
import ExchangeGrid.Json.Value
import ExchangeGrid.Main
import ExchangeGrid.Net.Address
import ExchangeGrid.Net.Armor
import ExchangeGrid.Net.Domain
import ExchangeGrid.Net.Domain.Compose
import ExchangeGrid.Net.Domain.Direction
import ExchangeGrid.Net.Domain.Fold
import ExchangeGrid.Net.Domain.Joiner
import ExchangeGrid.Net.Domain.Letter
import ExchangeGrid.Net.Punycode
import ExchangeGrid.Net.Request
import ExchangeGrid.Net.Resolve
import ExchangeGrid.Net.Target
import ExchangeGrid.Net.Trust
import ExchangeGrid.Net.Url
import ExchangeGrid.PubSub.Endpoint
import ExchangeGrid.PubSub.Message
import ExchangeGrid.PubSub.Subscribe
import ExchangeGrid.PubSub.Subscription
import ExchangeGrid.Rehearsal.Broker
import ExchangeGrid.Rehearsal.Peer
import ExchangeGrid.Rehearsal.World
import ExchangeGrid.Relay.Cutter
import ExchangeGrid.Relay.Machine
import ExchangeGrid.Relay.Message
import ExchangeGrid.Relay.Words
import ExchangeGrid.Service.Call
import ExchangeGrid.Service.Control
import ExchangeGrid.Service.Dispatch
import ExchangeGrid.Service.Event
import ExchangeGrid.Service.Node
import ExchangeGrid.Service.Pick
import ExchangeGrid.Service.Program
import ExchangeGrid.Service.Reply
import ExchangeGrid.Stomp.Escape
import ExchangeGrid.Stomp.Fault
import ExchangeGrid.Stomp.Frame
import ExchangeGrid.Stomp.Handshake
import ExchangeGrid.Stomp.Session
import ExchangeGrid.Stomp.Wire
import ExchangeGrid.Stomp.Words
import ExchangeGrid.Text.Blank
import ExchangeGrid.Text.Decimal
import ExchangeGrid.Text.Hex
import ExchangeGrid.Text.Hidden
import ExchangeGrid.Text.Mark
import ExchangeGrid.Text.Quoted
import ExchangeGrid.Text.Runs
import ExchangeGrid.Text.Shortest
import ExchangeGrid.Text.Split
import ExchangeGrid.Text.Utf8
import ExchangeGrid.Toml.Document
import ExchangeGrid.Toml.Scalar
import ExchangeGrid.Toml.Table
import ExchangeGrid.Watch.Activate
import ExchangeGrid.Watch.Arguments
import ExchangeGrid.Watch.Halt
import ExchangeGrid.Watch.Overrides
import ExchangeGrid.Watch.Run
import ExchangeGrid.Watch.Usage
import ExchangeGrid.Proofs.Stomp.Arrival
import ExchangeGrid.Proofs.Stomp.Writing
import ExchangeGrid.Proofs.Stomp.RoundTrip
import ExchangeGrid.Proofs.Relay.Messages
import ExchangeGrid.Proofs.Stomp.Limit
import ExchangeGrid.Proofs.Session.Channels
import ExchangeGrid.Proofs.Session.Ending
import ExchangeGrid.Proofs.Session.Delivery
import ExchangeGrid.Proofs.Session.Outbound
import ExchangeGrid.Proofs.Session.Opening
import ExchangeGrid.Proofs.Session.Release
import ExchangeGrid.Proofs.Dispatch.Compliance
import ExchangeGrid.Proofs.Dispatch.Crew
import ExchangeGrid.Proofs.Dispatch.Control
import ExchangeGrid.Proofs.Dispatch.SingleFlight
import ExchangeGrid.Proofs.Dispatch.Conduct
import ExchangeGrid.Proofs.Dispatch.Operations
import ExchangeGrid.Proofs.Dispatch.Replay
import ExchangeGrid.Proofs.Dispatch.StaleWrites
import ExchangeGrid.Proofs.Dispatch.SecretUse
import ExchangeGrid.Proofs.Dispatch.NodeNames
import ExchangeGrid.Proofs.Dispatch.Enumeration
import ExchangeGrid.Proofs.Stomp.Grammar
import ExchangeGrid.Proofs.Stomp.Remainder
import ExchangeGrid.Proofs.Relay.Agreement
import ExchangeGrid.Proofs.Relay.Boundaries
import ExchangeGrid.Proofs.Relay.Silence
import ExchangeGrid.Proofs.Relay.Rounds
import ExchangeGrid.Proofs.Relay.Carriage
import ExchangeGrid.Proofs.Dispatch.Dialogue
import ExchangeGrid.Proofs.Dispatch.Failover
import ExchangeGrid.Proofs.Dispatch.ControlHosts
import ExchangeGrid.Proofs.Dispatch.Team
import ExchangeGrid.Proofs.PubSub.Instances
import ExchangeGrid.Proofs.PubSub.Courses
import ExchangeGrid.Proofs.PubSub.Trials
import ExchangeGrid.Proofs.PubSub.FirstNode
import ExchangeGrid.Proofs.PubSub.Footing
import ExchangeGrid.Proofs.PubSub.Site
import ExchangeGrid.Proofs.PubSub.Standing
import ExchangeGrid.Proofs.PubSub.OneSession
import ExchangeGrid.Proofs.Net.Literals
import ExchangeGrid.Proofs.Net.Names
import ExchangeGrid.Proofs.Net.PlainNames
import ExchangeGrid.Proofs.Net.Hosts
import ExchangeGrid.Proofs.Net.Authorities
import ExchangeGrid.Proofs.Net.NamedPort
import ExchangeGrid.Proofs.Watch.HostForms
import ExchangeGrid.Proofs.Watch.ContactedHost
import ExchangeGrid.Proofs.PubSub.Translation
import ExchangeGrid.Proofs.Json.Records
import ExchangeGrid.Proofs.Watch.Accounts
import ExchangeGrid.Proofs.Watch.Polling
import ExchangeGrid.Proofs.Dispatch.Credentials
import ExchangeGrid.Proofs.Watch.Activation
import ExchangeGrid.Proofs.Watch.NewAccount
import ExchangeGrid.Proofs.Stomp.PassingOn
import ExchangeGrid.Proofs.Relay.WordSums
import ExchangeGrid.Proofs.Dispatch.Provisioning
import ExchangeGrid.Proofs.Net.AddressTexts
import ExchangeGrid.Proofs.Net.NameServers
import ExchangeGrid.Proofs.Stomp.Escaping
import ExchangeGrid.Proofs.Relay.Conservation
