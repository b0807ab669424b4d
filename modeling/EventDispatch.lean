import EventDispatch.Broker.Bus
import EventDispatch.Broker.BusCall
import EventDispatch.Broker.Message
import EventDispatch.Config.Basic
import EventDispatch.Config.Environment
import EventDispatch.Config.File
import EventDispatch.Config.Json
import EventDispatch.Config.Toml
import EventDispatch.Context
import EventDispatch.Dispatch.Application
import EventDispatch.Dispatch.Consumer
import EventDispatch.Dispatch.Control
import EventDispatch.Dispatch.Delivery
import EventDispatch.Dispatch.Error
import EventDispatch.Dispatch.Interceptor
import EventDispatch.Dispatch.Machine
import EventDispatch.Dispatch.Options
import EventDispatch.Dispatch.Pool
import EventDispatch.Dispatch.Program
import EventDispatch.Dispatch.Registry
import EventDispatch.Dispatch.Request
import EventDispatch.Dispatch.Script
import EventDispatch.Dispatch.Start
import EventDispatch.Dispatch.World
import EventDispatch.Envelope
import EventDispatch.Event.Attribute
import EventDispatch.Event.Basic
import EventDispatch.Event.Catalog
import EventDispatch.Event.Declaration
import EventDispatch.Event.DottedName
import EventDispatch.Event.Field
import EventDispatch.Event.Token
import EventDispatch.Json.Error
import EventDispatch.Json.Lexical
import EventDispatch.Json.Reader
import EventDispatch.Json.Text
import EventDispatch.Keyed
import EventDispatch.Name
import EventDispatch.Notice
import EventDispatch.Proofs.Advance
import EventDispatch.Proofs.Asked
import EventDispatch.Proofs.Broker.Clearing
import EventDispatch.Proofs.Broker.Handles
import EventDispatch.Proofs.Broker.Reading
import EventDispatch.Proofs.Broker.Undisturbed
import EventDispatch.Proofs.Config.Overlay
import EventDispatch.Proofs.Config.Validated
import EventDispatch.Proofs.Config.Written
import EventDispatch.Proofs.Consumer
import EventDispatch.Proofs.Context.Family
import EventDispatch.Proofs.Context.Path
import EventDispatch.Proofs.Course
import EventDispatch.Proofs.Delivery.Action
import EventDispatch.Proofs.Delivery.Arrival
import EventDispatch.Proofs.Delivery.Brackets
import EventDispatch.Proofs.Delivery.Chained
import EventDispatch.Proofs.Delivery.Forced
import EventDispatch.Proofs.Delivery.Foreseen
import EventDispatch.Proofs.Delivery.InOrder
import EventDispatch.Proofs.Delivery.Isolated
import EventDispatch.Proofs.Delivery.Observed
import EventDispatch.Proofs.Delivery.Received
import EventDispatch.Proofs.Delivery.Reference
import EventDispatch.Proofs.Delivery.Shown
import EventDispatch.Proofs.Delivery.Steps
import EventDispatch.Proofs.Delivery.Traced
import EventDispatch.Proofs.Delivery.Typed
import EventDispatch.Proofs.Delivery.Unrolled
import EventDispatch.Proofs.Delivery.Walk
import EventDispatch.Proofs.Delivery.WalkStep
import EventDispatch.Proofs.Event.DefaultName
import EventDispatch.Proofs.Event.Overlooked
import EventDispatch.Proofs.Event.Written
import EventDispatch.Proofs.Inner
import EventDispatch.Proofs.Json.Layout
import EventDispatch.Proofs.Json.Numbers
import EventDispatch.Proofs.Json.Objects
import EventDispatch.Proofs.Json.Records
import EventDispatch.Proofs.Json.Scanning
import EventDispatch.Proofs.Json.Strings
import EventDispatch.Proofs.Keyed
import EventDispatch.Proofs.Local
import EventDispatch.Proofs.Marks
import EventDispatch.Proofs.Once.AtMostOnce
import EventDispatch.Proofs.Once.Claimed
import EventDispatch.Proofs.Once.Deeds
import EventDispatch.Proofs.Once.Deliveries
import EventDispatch.Proofs.Once.Filed
import EventDispatch.Proofs.Once.Frames
import EventDispatch.Proofs.Once.Honoured
import EventDispatch.Proofs.Once.Ledger
import EventDispatch.Proofs.Once.Lingering
import EventDispatch.Proofs.Once.Listed
import EventDispatch.Proofs.Once.Overtaken
import EventDispatch.Proofs.Once.Programs
import EventDispatch.Proofs.Once.Standing
import EventDispatch.Proofs.Once.Swept
import EventDispatch.Proofs.Options.Chosen
import EventDispatch.Proofs.Options.Resolved
import EventDispatch.Proofs.Pool.Conserved
import EventDispatch.Proofs.Pool.Roll
import EventDispatch.Proofs.Pool.Shutdown
import EventDispatch.Proofs.Pool.Snapshot
import EventDispatch.Proofs.Pool.Staffed
import EventDispatch.Proofs.Pool.Stages
import EventDispatch.Proofs.Protocol
import EventDispatch.Proofs.Registry
import EventDispatch.Proofs.Registry.Intercepted
import EventDispatch.Proofs.Registry.Order
import EventDispatch.Proofs.Registry.Roster
import EventDispatch.Proofs.Rerouted
import EventDispatch.Proofs.Route.Arranged
import EventDispatch.Proofs.Route.Before
import EventDispatch.Proofs.Route.Choice
import EventDispatch.Proofs.Route.Enumeration
import EventDispatch.Proofs.Route.Grammar
import EventDispatch.Proofs.Route.Narrower
import EventDispatch.Proofs.Route.Precedence
import EventDispatch.Proofs.Route.Reload
import EventDispatch.Proofs.Route.Respelled
import EventDispatch.Proofs.Route.Segments
import EventDispatch.Proofs.Runs
import EventDispatch.Proofs.Text.Digits
import EventDispatch.Proofs.Text.Trim
import EventDispatch.Proofs.Text.Utf8
import EventDispatch.Proofs.Time.Written
import EventDispatch.Proofs.Wire.Decoding
import EventDispatch.Proofs.Wire.Layout
import EventDispatch.Proofs.Wire.Registered
import EventDispatch.Proofs.Wire.Relay
import EventDispatch.Proofs.Wire.RoundTrip
import EventDispatch.Route.Pattern
import EventDispatch.Route.Table
import EventDispatch.Scenario.Conduct
import EventDispatch.Scenario.Run
import EventDispatch.Scenario.Step
import EventDispatch.Text.Blank
import EventDispatch.Text.Casing
import EventDispatch.Text.Digits
import EventDispatch.Text.Invisible
import EventDispatch.Text.Quoted
import EventDispatch.Text.Utf8
import EventDispatch.Time.Date
import EventDispatch.Time.Reader
import EventDispatch.Time.Timestamp
import EventDispatch.Toml.Document
import EventDispatch.Toml.Scalar
import EventDispatch.Toml.Text
import EventDispatch.Toml.Value
import EventDispatch.TypeRegistry
