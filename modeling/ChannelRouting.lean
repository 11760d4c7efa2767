import ChannelRouting.ChannelKey
import ChannelRouting.CommandLine
import ChannelRouting.Config
import ChannelRouting.Config.Form
import ChannelRouting.Config.Load
import ChannelRouting.Entry
import ChannelRouting.Event
import ChannelRouting.Frame
import ChannelRouting.Json
import ChannelRouting.Json5.Letter
import ChannelRouting.Json5.Number
import ChannelRouting.Json5.Text
import ChannelRouting.Json5.Token
import ChannelRouting.Json5.Value
import ChannelRouting.Loop.Config
import ChannelRouting.Loop.Outcome
import ChannelRouting.Loop.Run
import ChannelRouting.Main
import ChannelRouting.Message
import ChannelRouting.Mutation
import ChannelRouting.Node
import ChannelRouting.Pipeline
import ChannelRouting.Receipt
import ChannelRouting.Route
import ChannelRouting.Router
import ChannelRouting.Scenario.Channels
import ChannelRouting.Scenario.Entries
import ChannelRouting.Scenario.Loops
import ChannelRouting.Scenario.Schedule
import ChannelRouting.Scenario.Waiting
import ChannelRouting.Scenario.World
import ChannelRouting.Service
import ChannelRouting.Service.Log
import ChannelRouting.Sorted.Map
import ChannelRouting.Sorted.Order
import ChannelRouting.Sorted.Set
import ChannelRouting.Store
import ChannelRouting.Store.Error
import ChannelRouting.Store.Table
import ChannelRouting.Store.Update
import ChannelRouting.Store.Versioned
import ChannelRouting.Strategy
import ChannelRouting.Strategy.Topic
import ChannelRouting.Text.Quoted
import ChannelRouting.Text.Range
import ChannelRouting.Text.Unprintable
import ChannelRouting.Text.Utf8
import ChannelRouting.Transport
import ChannelRouting.Transport.Error
import ChannelRouting.Transport.Recording
import ChannelRouting.Uuid
import ChannelRouting.WaitPolicy
import ChannelRouting.Wire.DecodeError
import ChannelRouting.Wire.Entry
import ChannelRouting.Wire.Frame
import ChannelRouting.Wire.LoopConfig
import ChannelRouting.Wire.Message
import ChannelRouting.Wire.Record
import ChannelRouting.Wire.WaitPolicy
import ChannelRouting.Worker
import ChannelRouting.Proofs.Update.Overlap
import ChannelRouting.Proofs.History
import ChannelRouting.Proofs.Update.Serial
import ChannelRouting.Proofs.Update.Rebirth
import ChannelRouting.Proofs.Loop.Course
import ChannelRouting.Proofs.Loop.Traffic
import ChannelRouting.Proofs.Loop.Delivery
import ChannelRouting.Proofs.Loop.Node
import ChannelRouting.Proofs.Loop.Fleet
import ChannelRouting.Proofs.Loop.Recovery
import ChannelRouting.Proofs.Store.Agreement
import ChannelRouting.Proofs.Update.Contention
import ChannelRouting.Proofs.Entry.Arrival
import ChannelRouting.Proofs.Entry.Interchange
import ChannelRouting.Proofs.Transport.Call
import ChannelRouting.Proofs.Transport.Session
import ChannelRouting.Proofs.Loop.Replay
import ChannelRouting.Proofs.Loop.Trial
import ChannelRouting.Proofs.Loop.Isolation
import ChannelRouting.Proofs.Service.Settings
import ChannelRouting.Proofs.Loop.Serving
import ChannelRouting.Proofs.Service.Setup
import ChannelRouting.Proofs.Service.Rounds
import ChannelRouting.Proofs.Service.Tally
import ChannelRouting.Proofs.Service.Conclusion
import ChannelRouting.Proofs.Router.Handles
import ChannelRouting.Proofs.Store.Independence
import ChannelRouting.Proofs.Protocol.Receipts
import ChannelRouting.Proofs.Wire.Rearranged
import ChannelRouting.Proofs.Wire.RoundTrip
import ChannelRouting.Proofs.Strategy.Wildcards
import ChannelRouting.Proofs.Strategy.Locality
import ChannelRouting.Proofs.Update.Exchange
import ChannelRouting.Proofs.Wire.Admission
import ChannelRouting.Proofs.Strategy.Refinement
import ChannelRouting.Proofs.Wire.Timeouts
import ChannelRouting.Proofs.Loop.Shutdown
import ChannelRouting.Proofs.Loop.Holding
import ChannelRouting.Proofs.Transport.Ledger
import ChannelRouting.Proofs.Scenario.Balance
import ChannelRouting.Proofs.Config.Offences
import ChannelRouting.Proofs.Json5.Doubles
import ChannelRouting.Proofs.Config.ReadBack
import ChannelRouting.Proofs.Transport.Polls
import ChannelRouting.Proofs.Loop.Pairs
import ChannelRouting.Proofs.Loop.Polls
import ChannelRouting.Proofs.Loop.Rerun
import ChannelRouting.Proofs.Transport.Journal
import ChannelRouting.Proofs.Scenario.Script
