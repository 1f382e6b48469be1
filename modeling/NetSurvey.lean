import NetSurvey.Activity
import NetSurvey.Address.Basic
import NetSurvey.Address.Octets
import NetSurvey.Address.Text
import NetSurvey.Block.Basic
import NetSurvey.Block.Text
import NetSurvey.Chronicle
import NetSurvey.Collector
import NetSurvey.Datum.Basic
import NetSurvey.Datum.Json
import NetSurvey.Datum.Order
import NetSurvey.Failure
import NetSurvey.File
import NetSurvey.Hostname
import NetSurvey.Journal
import NetSurvey.Logger
import NetSurvey.Number.Basic
import NetSurvey.Number.Binary
import NetSurvey.Number.Decimal
import NetSurvey.Number.Integer
import NetSurvey.Number.Shortest
import NetSurvey.Outcome
import NetSurvey.PortSpec
import NetSurvey.Probe.Basic
import NetSurvey.Probe.Connect
import NetSurvey.Probe.Page
import NetSurvey.Probe.Ping
import NetSurvey.Probe.Resolve
import NetSurvey.Report
import NetSurvey.Scan.Basic
import NetSurvey.Scan.Directory
import NetSurvey.Scan.Ports
import NetSurvey.Scan.Scanner
import NetSurvey.Scan.Subdomain
import NetSurvey.Scan.Subnet
import NetSurvey.Scan.Sweep
import NetSurvey.Schedule.Gate
import NetSurvey.Schedule.Run
import NetSurvey.Schedule.Session
import NetSurvey.Schedule.State
import NetSurvey.Service.Answer
import NetSurvey.Service.App
import NetSurvey.Service.Form
import NetSurvey.Service.Request
import NetSurvey.Service.Target
import NetSurvey.Service.Task
import NetSurvey.Settings
import NetSurvey.Specification
import NetSurvey.Text.Basic
import NetSurvey.Text.Blank
import NetSurvey.Text.Digit
import NetSurvey.Text.Encoding
import NetSurvey.Text.Fields
import NetSurvey.Text.Letter
import NetSurvey.Text.Lines
import NetSurvey.Text.Printable
import NetSurvey.Text.Quoted
import NetSurvey.Text.Unencodable
import NetSurvey.Text.Utf8
import NetSurvey.Url
import NetSurvey.Wordlist
import NetSurvey.World
import NetSurvey.Proofs.Activity
import NetSurvey.Proofs.Address.Increment
import NetSurvey.Proofs.Address.RoundTrip
import NetSurvey.Proofs.Block.Hosts
import NetSurvey.Proofs.Block.RoundTrip
import NetSurvey.Proofs.Block.Walk
import NetSurvey.Proofs.Datum.Size
import NetSurvey.Proofs.Datum.Sorting
import NetSurvey.Proofs.Hostname
import NetSurvey.Proofs.Logger
import NetSurvey.Proofs.Number.Grammar
import NetSurvey.Proofs.Number.NotANumber
import NetSurvey.Proofs.Number.ReadBack
import NetSurvey.Proofs.Probe.Calls
import NetSurvey.Proofs.Probe.Connect
import NetSurvey.Proofs.Probe.FirstPort
import NetSurvey.Proofs.Probe.Lookups
import NetSurvey.Proofs.Probe.Ping
import NetSurvey.Proofs.Probe.Reaction
import NetSurvey.Proofs.Probe.Record
import NetSurvey.Proofs.Probe.Release
import NetSurvey.Proofs.Probe.Shape
import NetSurvey.Proofs.Scan.Findings
import NetSurvey.Proofs.Scan.Grouping
import NetSurvey.Proofs.Scan.Pages
import NetSurvey.Proofs.Scan.PortCap
import NetSurvey.Proofs.Scan.Refusal
import NetSurvey.Proofs.Scan.Release
import NetSurvey.Proofs.Scan.Report
import NetSurvey.Proofs.Scan.SpecifiedPorts
import NetSurvey.Proofs.Scan.Stopwatch
import NetSurvey.Proofs.Scan.Survey
import NetSurvey.Proofs.Scan.Sweep
import NetSurvey.Proofs.Scan.WrittenPorts
import NetSurvey.Proofs.Schedule.Admission
import NetSurvey.Proofs.Schedule.LeftBehind
import NetSurvey.Proofs.Schedule.Overlap
import NetSurvey.Proofs.Schedule.Overtaking
import NetSurvey.Proofs.Schedule.Progress
import NetSurvey.Proofs.Schedule.Recording
import NetSurvey.Proofs.Schedule.Trace
import NetSurvey.Proofs.Schedule.Transition
import NetSurvey.Proofs.Service.BodySize
import NetSurvey.Proofs.Service.Consistency
import NetSurvey.Proofs.Service.Determinacy
import NetSurvey.Proofs.Service.History
import NetSurvey.Proofs.Service.Independence
import NetSurvey.Proofs.Service.Key
import NetSurvey.Proofs.Service.Refusal
import NetSurvey.Proofs.Service.Schema
import NetSurvey.Proofs.Service.Task
import NetSurvey.Proofs.Settings
import NetSurvey.Proofs.Text.Lines
import NetSurvey.Proofs.Text.Pattern
import NetSurvey.Proofs.Text.Trim
import NetSurvey.Proofs.Text.Utf8
import NetSurvey.Proofs.Text.Whole
import NetSurvey.Proofs.Wordlist
