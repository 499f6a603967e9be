import DynamicDns.Limits
import DynamicDns.Text.Blank
import DynamicDns.Text.Shown
import DynamicDns.Text.Quoted
import DynamicDns.Text.Terminal
import DynamicDns.Bounded
import DynamicDns.Base64
import DynamicDns.Endpoint
import DynamicDns.HttpClient
import DynamicDns.Credentials
import DynamicDns.Plugin
import DynamicDns.Plugin.Registry
import DynamicDns.Plugin.Builtin
import DynamicDns.Config
import DynamicDns.Diagnostic
import DynamicDns.Binary64
import DynamicDns.Toml.Value
import DynamicDns.Toml.Assembly
import DynamicDns.Toml.Scanner
import DynamicDns.Toml.Grammar
import DynamicDns.Toml.Misfit
import DynamicDns.Schema
import DynamicDns.FileTree
import DynamicDns.LoadError
import DynamicDns.Event
import DynamicDns.Traced
import DynamicDns.Validation
import DynamicDns.Record
import DynamicDns.Record.Build
import DynamicDns.Registry
import DynamicDns.Load
import DynamicDns.Plugin.Installation
import DynamicDns.Json
import DynamicDns.Dump
import DynamicDns.Daemon
import DynamicDns.CommandLine
import DynamicDns.Program
import DynamicDns.Main
import DynamicDns.Proofs.SectionVerdict
import DynamicDns.Proofs.TracedItems
import DynamicDns.Proofs.ConfigVerdict
import DynamicDns.Proofs.RecordMerge
import DynamicDns.Proofs.TracedAgreement
import DynamicDns.Proofs.CheckedConfig
import DynamicDns.Proofs.BuildSafety
import DynamicDns.Proofs.LoadOutcome
import DynamicDns.Proofs.SectionIndependence
import DynamicDns.Proofs.RefusalReport
import DynamicDns.Proofs.AskedPlugins
import DynamicDns.Proofs.LookupProtocol
import DynamicDns.Proofs.AliasSynonym
import DynamicDns.Proofs.PluginLookup
import DynamicDns.Proofs.UpdateHost
import DynamicDns.Proofs.CursorCalls
import DynamicDns.Proofs.GrowingWalk
import DynamicDns.Proofs.PasswordSecrecy
import DynamicDns.Proofs.RegistryJournal
import DynamicDns.Proofs.BoundedOffers
import DynamicDns.Proofs.EndpointShape
import DynamicDns.Proofs.RecordShape
import DynamicDns.Proofs.PluginGrowth
import DynamicDns.Proofs.JsonReading
import DynamicDns.Proofs.DumpReading
import DynamicDns.Proofs.SchemaReading
import DynamicDns.Proofs.BuildReference
import DynamicDns.Proofs.DaemonRun
import DynamicDns.Proofs.LoadEvents
import DynamicDns.Proofs.LoadLog
import DynamicDns.Proofs.DumpOutput
import DynamicDns.Proofs.FirstMisfit
import DynamicDns.Proofs.PasswordDisclosure
import DynamicDns.Proofs.DecimalText
import DynamicDns.Proofs.EndpointGrammar
import DynamicDns.Proofs.EndpointDisplay
import DynamicDns.Proofs.UrlParts
import DynamicDns.Proofs.SectionChecks
import DynamicDns.Proofs.GivenPorts
import DynamicDns.Proofs.ResponseSelection
import DynamicDns.Proofs.BuildLosses
import DynamicDns.Proofs.ClampedPeriod
import DynamicDns.Proofs.SettledSections
import DynamicDns.Proofs.RepeatedChecks
import DynamicDns.Proofs.GlobalSettings
import DynamicDns.Proofs.Base64Text
import DynamicDns.Proofs.AccountToken
