import LiveShader.Config.Basic
import LiveShader.Config.Document
import LiveShader.Console.Input
import LiveShader.Console.Line
import LiveShader.Console.Reply
import LiveShader.Console.Serve
import LiveShader.Decimal.Binary
import LiveShader.Decimal.Layout
import LiveShader.Decimal.Read
import LiveShader.Decimal.Shortest
import LiveShader.Desktop.Context
import LiveShader.Desktop.Platform
import LiveShader.Desktop.Proxy
import LiveShader.Desktop.Scripted
import LiveShader.Desktop.Window
import LiveShader.Diagnostic
import LiveShader.Document.Decode
import LiveShader.Document.Json
import LiveShader.Document.Misfit
import LiveShader.Document.Outline
import LiveShader.Document.Toml
import LiveShader.Document.Toml.Layout
import LiveShader.Document.Toml.Token
import LiveShader.Document.Value
import LiveShader.Duration.Basic
import LiveShader.Duration.Spelled
import LiveShader.Files.Fault
import LiveShader.Files.Path
import LiveShader.Files.Tree
import LiveShader.Frame.Clock
import LiveShader.Frame.Loop
import LiveShader.Graphics.Build
import LiveShader.Graphics.Driver
import LiveShader.Graphics.Scripted
import LiveShader.Graphics.Trace
import LiveShader.Headless.Driver
import LiveShader.Headless.Rehearsal
import LiveShader.Headless.Source
import LiveShader.Launch.CommandLine
import LiveShader.Launch.Environment
import LiveShader.Launch.Program
import LiveShader.Launch.Run
import LiveShader.Launch.RunError
import LiveShader.Log.Filter
import LiveShader.Main
import LiveShader.NameTable
import LiveShader.OpenGL.Binding
import LiveShader.OpenGL.EntryPoints
import LiveShader.OpenGL.Scripted
import LiveShader.Session.Basic
import LiveShader.Session.Command
import LiveShader.Session.CommandDocument
import LiveShader.Session.Notice
import LiveShader.Session.Operation
import LiveShader.Shader.Dialect
import LiveShader.Shader.Listing
import LiveShader.Shader.Template
import LiveShader.Text.Blank
import LiveShader.Text.Find
import LiveShader.Text.Hexadecimal
import LiveShader.Text.Letter
import LiveShader.Text.Lines
import LiveShader.Text.Literal
import LiveShader.Text.Numeral
import LiveShader.Text.Range
import LiveShader.Uniform.Modifier
import LiveShader.Uniform.Registry
import LiveShader.Uniform.Shape
import LiveShader.Uniform.Slot
import LiveShader.Watch.Event
import LiveShader.Watch.Worker
import LiveShader.Word
import LiveShader.Proofs.Accounts
import LiveShader.Proofs.Custody
import LiveShader.Proofs.Operations
import LiveShader.Proofs.Ownership
import LiveShader.Proofs.DriverObjects
import LiveShader.Proofs.OpenGLObjects
import LiveShader.Proofs.Milestones
import LiveShader.Proofs.Rejection
import LiveShader.Proofs.Slots
import LiveShader.Proofs.Idling
import LiveShader.Proofs.EverySlot
import LiveShader.Proofs.Rebuild
import LiveShader.Proofs.Reload
import LiveShader.Proofs.Tracing
import LiveShader.Proofs.Frames
import LiveShader.Proofs.FrameCalls
import LiveShader.Proofs.Places
import LiveShader.Proofs.Reserved
import LiveShader.Proofs.IdleGap
import LiveShader.Proofs.Unwarned
import LiveShader.Proofs.Verdicts
import LiveShader.Proofs.Saves
import LiveShader.Proofs.StartUp
import LiveShader.Proofs.SourceLines
import LiveShader.Proofs.Findings
import LiveShader.Proofs.ErrorLines
import LiveShader.Proofs.KeptViews
import LiveShader.Proofs.Sizes
import LiveShader.Proofs.QueueOrder
import LiveShader.Proofs.Replies
import LiveShader.Proofs.Addresses
import LiveShader.Proofs.ConsoleLines
import LiveShader.Proofs.Durations
import LiveShader.Proofs.Configurations
import LiveShader.Proofs.Requests
import LiveShader.Proofs.WholeSlots
import LiveShader.Proofs.DriverLogs
import LiveShader.Proofs.Listings
import LiveShader.Proofs.Turns
import LiveShader.Proofs.FrameTimes
import LiveShader.Proofs.Movers
import LiveShader.Proofs.Reports
import LiveShader.Proofs.NumberedRows
import LiveShader.Proofs.Rounding
import LiveShader.Proofs.ShortestDecimals
import LiveShader.Proofs.PrintedNumbers
import LiveShader.Proofs.WrittenCommands
import LiveShader.Proofs.Uploads
import LiveShader.Proofs.Warnings
import LiveShader.Proofs.UploadErrors
