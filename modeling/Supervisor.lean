import Supervisor.Backend
import Supervisor.Backends
import Supervisor.Bytes.LittleEndian
import Supervisor.CallError
import Supervisor.CommandLine.Command
import Supervisor.CommandLine.Execute
import Supervisor.CommandLine.Invocation
import Supervisor.CommandLine.Outcome
import Supervisor.CommandLine.Run
import Supervisor.CommandLine.Setting
import Supervisor.CommandLine.Usage
import Supervisor.Connect
import Supervisor.Daemon
import Supervisor.Diagnostics
import Supervisor.Diagnostics.Filter
import Supervisor.Duration
import Supervisor.Endpoint.Address
import Supervisor.Endpoint.Selector
import Supervisor.Event
import Supervisor.Exchange
import Supervisor.Fault
import Supervisor.FileTree
import Supervisor.Handle
import Supervisor.HandleTable
import Supervisor.Json
import Supervisor.Launch
import Supervisor.Main
import Supervisor.Proofs.Autostart
import Supervisor.Proofs.Backend.Fallback
import Supervisor.Proofs.Backend.Opening
import Supervisor.Proofs.Backend.Registration
import Supervisor.Proofs.Backoff
import Supervisor.Proofs.CommandLine.Columns
import Supervisor.Proofs.CommandLine.Document
import Supervisor.Proofs.CommandLine.Listings
import Supervisor.Proofs.CommandLine.Run
import Supervisor.Proofs.CommandLine.Script
import Supervisor.Proofs.Daemon
import Supervisor.Proofs.Endpoint.Address
import Supervisor.Proofs.Endpoint.Host
import Supervisor.Proofs.Endpoint.Stored
import Supervisor.Proofs.Except
import Supervisor.Proofs.Exchange
import Supervisor.Proofs.Exchange.Verdict
import Supervisor.Proofs.HandleTable
import Supervisor.Proofs.Json
import Supervisor.Proofs.Pacing
import Supervisor.Proofs.Session.Accounts
import Supervisor.Proofs.Session.Connection
import Supervisor.Proofs.Session.Failures
import Supervisor.Proofs.Session.Framing
import Supervisor.Proofs.Session.Listings
import Supervisor.Proofs.Session.Log
import Supervisor.Proofs.Session.Meaning
import Supervisor.Proofs.Session.Offline
import Supervisor.Proofs.Session.Plan
import Supervisor.Proofs.Session.Remote
import Supervisor.Proofs.Session.Reports
import Supervisor.Proofs.Session.Resending
import Supervisor.Proofs.Session.Run
import Supervisor.Proofs.Session.Snapshot
import Supervisor.Proofs.Session.Tables
import Supervisor.Proofs.Stream
import Supervisor.Proofs.Text.Character
import Supervisor.Proofs.Text.Lossy
import Supervisor.Proofs.Text.Pending
import Supervisor.Proofs.Text.Stretches
import Supervisor.Proofs.Text.Subpart
import Supervisor.Proofs.Text.Utf8
import Supervisor.Proofs.Wire.Buffer
import Supervisor.Proofs.Wire.Codec
import Supervisor.Proofs.Wire.Decoding
import Supervisor.Proofs.Wire.Encoding
import Supervisor.Proofs.Wire.Frame
import Supervisor.Proofs.Wire.Layout
import Supervisor.Proofs.Wire.Refusal
import Supervisor.Proofs.Wire.Significance
import Supervisor.Proofs.Wire.Structure
import Supervisor.Proofs.Wire.Texts
import Supervisor.Session.Basic
import Supervisor.Session.Call
import Supervisor.Session.Domains
import Supervisor.Session.Networks
import Supervisor.SettingsForm
import Supervisor.Stream
import Supervisor.Text.Blank
import Supervisor.Text.CharSet
import Supervisor.Text.ControlSequence
import Supervisor.Text.Hex
import Supervisor.Text.Letter
import Supervisor.Text.Printable
import Supervisor.Text.Quoted
import Supervisor.Text.Split
import Supervisor.Text.Table
import Supervisor.Text.Utf8
import Supervisor.Uri.Address
import Supervisor.Uri.Basic
import Supervisor.Uri.Domain
import Supervisor.Uri.Domain.Composition
import Supervisor.Uri.Domain.Direction
import Supervisor.Uri.Domain.Joiner
import Supervisor.Uri.Domain.Label
import Supervisor.Uri.Domain.Mapping
import Supervisor.Uri.Domain.Punycode
import Supervisor.Uri.Error
import Supervisor.Uri.Path
import Supervisor.Uri.Percent
import Supervisor.Uuid
import Supervisor.Wire.Codec
import Supervisor.Wire.Error
import Supervisor.Wire.Frame
import Supervisor.Wire.Layout
import Supervisor.Wire.Limits
import Supervisor.Wire.Operation
import Supervisor.Wire.Reply
import Supervisor.Wire.Request
