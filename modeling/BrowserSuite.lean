import BrowserSuite.Browser.Call
import BrowserSuite.Browser.Error
import BrowserSuite.Browser.Keys
import BrowserSuite.Browser.Locator
import BrowserSuite.Browser.Scripted
import BrowserSuite.CommandLine.Activity
import BrowserSuite.CommandLine.Arguments
import BrowserSuite.CommandLine.LogLevel
import BrowserSuite.CommandLine.Offline
import BrowserSuite.CommandLine.Reading
import BrowserSuite.CommandLine.Setting
import BrowserSuite.CommandLine.Surroundings
import BrowserSuite.CommandLine.UsageError
import BrowserSuite.CommandLine.Word
import BrowserSuite.Config.Config
import BrowserSuite.Config.Environment
import BrowserSuite.Config.File
import BrowserSuite.Config.Json
import BrowserSuite.Config.Printer
import BrowserSuite.Config.Source
import BrowserSuite.Config.Yaml
import BrowserSuite.Ending
import BrowserSuite.Engine.Chain
import BrowserSuite.Engine.Clock
import BrowserSuite.Engine.Error
import BrowserSuite.Engine.FrameSearch
import BrowserSuite.Engine.Page
import BrowserSuite.Engine.Pool
import BrowserSuite.Engine.Queue
import BrowserSuite.Engine.StateTask
import BrowserSuite.Engine.SuiteRun
import BrowserSuite.Engine.Task
import BrowserSuite.Engine.Wait
import BrowserSuite.Engine.Worker
import BrowserSuite.Engine.World
import BrowserSuite.Files.FileError
import BrowserSuite.Files.Path
import BrowserSuite.Files.Request
import BrowserSuite.Files.Tree
import BrowserSuite.Json.Printer
import BrowserSuite.Json.Reader
import BrowserSuite.Json.Skipping
import BrowserSuite.Json.Value
import BrowserSuite.Main
import BrowserSuite.Number.Binary64
import BrowserSuite.Number.Reading
import BrowserSuite.Number.Shortest
import BrowserSuite.Program
import BrowserSuite.Report.Log
import BrowserSuite.Report.LogFile
import BrowserSuite.Report.Moment
import BrowserSuite.Report.Outcome
import BrowserSuite.Report.Report
import BrowserSuite.Store
import BrowserSuite.Text.Blank
import BrowserSuite.Text.Line
import BrowserSuite.Text.Lower
import BrowserSuite.Text.Split
import BrowserSuite.Text.Word
import BrowserSuite.UiMap.Action
import BrowserSuite.UiMap.Command
import BrowserSuite.UiMap.FilterExport
import BrowserSuite.UiMap.Instruction
import BrowserSuite.UiMap.Line
import BrowserSuite.UiMap.LoadError
import BrowserSuite.UiMap.Loading
import BrowserSuite.UiMap.Suite
import BrowserSuite.WebDriver.Element
import BrowserSuite.WebDriver.Exchange
import BrowserSuite.WebDriver.Host
import BrowserSuite.WebDriver.Percent
import BrowserSuite.WebDriver.Session
import BrowserSuite.WebDriver.Tracks
import BrowserSuite.WebDriver.Url
import BrowserSuite.Yaml.Cursor
import BrowserSuite.Yaml.Meaning
import BrowserSuite.Yaml.Node
import BrowserSuite.Yaml.Printer
import BrowserSuite.Yaml.Scalar
import BrowserSuite.Yaml.Token
import BrowserSuite.Proofs.Program.Path
import BrowserSuite.Proofs.SuiteRun.Verdict
import BrowserSuite.Proofs.Pool.Accounting
import BrowserSuite.Proofs.Pool.Verdicts
import BrowserSuite.Proofs.Retry.Injection
import BrowserSuite.Proofs.Retry.Page
import BrowserSuite.Proofs.Page.Requests
import BrowserSuite.Proofs.Browser.Panics
import BrowserSuite.Proofs.Page.Losses
import BrowserSuite.Proofs.SuiteRun.Shape
import BrowserSuite.Proofs.SuiteRun.Course
import BrowserSuite.Proofs.Pool.Cancellation
import BrowserSuite.Proofs.Isolation.Parallel
import BrowserSuite.Proofs.Frames.Search
import BrowserSuite.Proofs.Pool.Sessions
import BrowserSuite.Proofs.Pool.Survival
import BrowserSuite.Proofs.Page.Stopping
import BrowserSuite.Proofs.CommandLine.Launch
import BrowserSuite.Proofs.UiMap.Dispatch
import BrowserSuite.Proofs.Wait.Course
import BrowserSuite.Proofs.Wait.Ready
import BrowserSuite.Proofs.Frames.Entering
import BrowserSuite.Proofs.Number.Rounding
import BrowserSuite.Proofs.WebDriver.Playing
import BrowserSuite.Proofs.Page.Pauses
import BrowserSuite.Proofs.Page.Parameters
import BrowserSuite.Proofs.Page.Faults
import BrowserSuite.Proofs.Page.Mistakes
import BrowserSuite.Proofs.Page.Assignments
import BrowserSuite.Proofs.UiMap.Acceptance
import BrowserSuite.Proofs.UiMap.Margins
import BrowserSuite.Proofs.Page.Clicks
import BrowserSuite.Proofs.Page.Surplus
import BrowserSuite.Proofs.Page.Pacing
import BrowserSuite.Proofs.Page.Aloof
import BrowserSuite.Proofs.Page.Stints
import BrowserSuite.Proofs.Page.Gestures
import BrowserSuite.Proofs.Report.Groups
import BrowserSuite.Proofs.UiMap.Splitting
import BrowserSuite.Proofs.UiMap.Keys
import BrowserSuite.Proofs.WebDriver.Naming
import BrowserSuite.Proofs.Store.Snapshot
import BrowserSuite.Proofs.Page.Chains
import BrowserSuite.Proofs.Browser.KeyLists
