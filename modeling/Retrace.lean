import Retrace.Bytes
import Retrace.Text.Numeral
import Retrace.Text.Utf8
import Retrace.Text.Blank
import Retrace.Text.Argument
import Retrace.Json.Value
import Retrace.Json.Writer
import Retrace.Json.Reader
import Retrace.Json.Magnitude
import Retrace.Json.Shape
import Retrace.IoError
import Retrace.SetupError
import Retrace.Thread
import Retrace.Mode
import Retrace.Config
import Retrace.Log.Kind
import Retrace.Log.ReleaseTag
import Retrace.Log.Entry
import Retrace.Log.EntryJson
import Retrace.Log.Error
import Retrace.Log.Record
import Retrace.Log.Source
import Retrace.Log.Place
import Retrace.Log.Sink
import Retrace.Log.Writer
import Retrace.Log.Cursor
import Retrace.Log.Desync
import Retrace.Log.Template
import Retrace.Log.Reader
import Retrace.Guest.CommandLine
import Retrace.Guest.Memory
import Retrace.Guest.Registers
import Retrace.Guest.X86
import Retrace.Session.Error
import Retrace.Session.ExitProbe
import Retrace.Session.Identity
import Retrace.Session.Schedule
import Retrace.Session.Warning
import Retrace.Session.Verifier
import Retrace.Session.Summary
import Retrace.Session.Basic
import Retrace.Session.Calls
import Retrace.Session.Handover
import Retrace.Session.Token
import Retrace.Session.Script
import Retrace.Session.Opening
import Retrace.Inspect.Report
import Retrace.Inspect.Dump
import Retrace.Inspect.Counts
import Retrace.Inspect.Statistics
import Retrace.Inspect.Request
import Retrace.Main
import Retrace.Proofs.Log.Codec
import Retrace.Proofs.Log.Filling
import Retrace.Proofs.Log.Passage
import Retrace.Proofs.Log.Appending
import Retrace.Proofs.Log.CrashPrefix
import Retrace.Proofs.Log.Resolving
import Retrace.Proofs.Log.Tiling
import Retrace.Proofs.Session.Reading
import Retrace.Proofs.Session.TurnEnd
import Retrace.Proofs.Session.Asking
import Retrace.Proofs.Session.Consumption
import Retrace.Proofs.Session.Handout
import Retrace.Proofs.Session.Occupancy
import Retrace.Proofs.Session.Recording
import Retrace.Proofs.Session.Restoring
import Retrace.Proofs.Session.LookAhead
import Retrace.Proofs.Session.FaithfulReplay
import Retrace.Proofs.Log.Lockstep
import Retrace.Proofs.Session.Chronicle
import Retrace.Proofs.Log.Cutting
import Retrace.Proofs.Session.CutLog
import Retrace.Proofs.Session.CutReplay
import Retrace.Proofs.Session.Agreement
import Retrace.Proofs.Log.Templates
import Retrace.Proofs.Session.LiveValues
import Retrace.Proofs.Session.LogDetermined
import Retrace.Proofs.Session.Telling
import Retrace.Proofs.Log.Expecting
import Retrace.Proofs.Log.Standing
import Retrace.Proofs.Log.Chopping
import Retrace.Proofs.Log.FullSink
import Retrace.Proofs.Session.Framing
import Retrace.Proofs.Session.Polling
import Retrace.Proofs.Session.Departure
import Retrace.Proofs.Session.Transparency
import Retrace.Proofs.Session.Closing
import Retrace.Proofs.Log.Canonical
import Retrace.Proofs.Session.CommandLines
import Retrace.Proofs.Session.Installing
import Retrace.Proofs.Session.SlotFaults
import Retrace.Proofs.Log.Verdict
import Retrace.Proofs.Log.Footprint
import Retrace.Proofs.Session.Rejection
import Retrace.Proofs.Session.InitialStack
import Retrace.Proofs.Guest.X86Image
import Retrace.Proofs.Guest.FieldNumbers
import Retrace.Proofs.Session.Advancing
import Retrace.Proofs.Session.Comparing
import Retrace.Proofs.Session.IdentityHistory
import Retrace.Proofs.Session.Watching
import Retrace.Proofs.Session.LostProbes
import Retrace.Proofs.Text.Runs
import Retrace.Proofs.Text.Arguments
import Retrace.Proofs.Guest.CommandLineText
import Retrace.Proofs.Log.Walking
import Retrace.Proofs.Inspect.Counting
import Retrace.Proofs.Inspect.Dumping
import Retrace.Proofs.Inspect.Columns
import Retrace.Proofs.Inspect.Lines
import Retrace.Proofs.Json.Literals
import Retrace.Proofs.Json.Texts
import Retrace.Proofs.Json.Members
import Retrace.Proofs.Log.EntryText
import Retrace.Proofs.Config.Members
import Retrace.Proofs.Config.Options
