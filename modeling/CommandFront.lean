import CommandFront.Application.Basic
import CommandFront.Application.Error
import CommandFront.Application.Help
import CommandFront.Application.Invocation
import CommandFront.Application.Run
import CommandFront.Arguments.CommandLine
import CommandFront.Arguments.Error
import CommandFront.Arguments.Matches
import CommandFront.Arguments.Scan
import CommandFront.Arguments.Token
import CommandFront.Bootstrap
import CommandFront.Build
import CommandFront.Command.Basic
import CommandFront.Command.Registry
import CommandFront.CompilerVersion
import CommandFront.Config.Basic
import CommandFront.Config.Decode
import CommandFront.Config.Load
import CommandFront.Config.Location
import CommandFront.Diagnostics
import CommandFront.ErrorChain
import CommandFront.FileSystem
import CommandFront.Flag.Basic
import CommandFront.Flag.Registry
import CommandFront.Identity
import CommandFront.Journal
import CommandFront.Json.Basic
import CommandFront.Json.Printer
import CommandFront.Launch
import CommandFront.Log.Filter
import CommandFront.Log.Record
import CommandFront.Machine
import CommandFront.Main
import CommandFront.Numeric.Binary64
import CommandFront.Numeric.ByteSize
import CommandFront.Numeric.Shortest
import CommandFront.Pattern.Basic
import CommandFront.Pattern.CharClass
import CommandFront.Pattern.Error
import CommandFront.Pattern.Reader
import CommandFront.PrefixTrie.Basic
import CommandFront.Proofs.Admission
import CommandFront.Proofs.BraceFree
import CommandFront.Proofs.ByteSizeText
import CommandFront.Proofs.ByteTenths
import CommandFront.Proofs.CommandStores
import CommandFront.Proofs.CompilerCheck
import CommandFront.Proofs.ConfigChecks
import CommandFront.Proofs.ConfigDecoding
import CommandFront.Proofs.DebugScan
import CommandFront.Proofs.DeclaredLevels
import CommandFront.Proofs.Delivery
import CommandFront.Proofs.Effects
import CommandFront.Proofs.Escape
import CommandFront.Proofs.ExitStatus
import CommandFront.Proofs.FlagSpellings
import CommandFront.Proofs.FrontTokens
import CommandFront.Proofs.HelpRequests
import CommandFront.Proofs.HelpSections
import CommandFront.Proofs.HelpTopic
import CommandFront.Proofs.InvocationView
import CommandFront.Proofs.JsonReading
import CommandFront.Proofs.JsonReport
import CommandFront.Proofs.LateOperand
import CommandFront.Proofs.LeadingSwitch
import CommandFront.Proofs.LevelEntries
import CommandFront.Proofs.LevelReading
import CommandFront.Proofs.ListedTopics
import CommandFront.Proofs.Lists
import CommandFront.Proofs.Phrase
import CommandFront.Proofs.PhraseLoops
import CommandFront.Proofs.PhraseReading
import CommandFront.Proofs.PhraseScan
import CommandFront.Proofs.PhraseTokens
import CommandFront.Proofs.RegisteredLevels
import CommandFront.Proofs.RejectedToken
import CommandFront.Proofs.Relocation
import CommandFront.Proofs.Rounding
import CommandFront.Proofs.RunOutcome
import CommandFront.Proofs.ScopeIsolation
import CommandFront.Proofs.ScopePartition
import CommandFront.Proofs.Sentence
import CommandFront.Proofs.SentenceLevels
import CommandFront.Proofs.ServiceReport
import CommandFront.Proofs.SlotFilling
import CommandFront.Proofs.SpellingUse
import CommandFront.Proofs.Startup
import CommandFront.Proofs.TableKeys
import CommandFront.Proofs.TrieArena
import CommandFront.Proofs.TrieGrowth
import CommandFront.Proofs.TrieListing
import CommandFront.Proofs.TrieMap
import CommandFront.Proofs.TrieTree
import CommandFront.Proofs.TrieWalk
import CommandFront.Proofs.Truncation
import CommandFront.Proofs.UnknownCommand
import CommandFront.Proofs.VersionReading
import CommandFront.RegistrationError
import CommandFront.Registry
import CommandFront.Services.Catalog
import CommandFront.Services.Output
import CommandFront.Services.Report
import CommandFront.Text.Blank
import CommandFront.Text.CaseFolding
import CommandFront.Text.Category
import CommandFront.Text.Decimal
import CommandFront.Text.Invisible
import CommandFront.Text.OsText
import CommandFront.Text.Quoted
import CommandFront.Text.RangeTable
import CommandFront.Text.Split
import CommandFront.Text.Substitution
import CommandFront.Text.Terminal
import CommandFront.Toml.Basic
import CommandFront.Toml.Document
import CommandFront.Toml.Number
import CommandFront.Toml.Text
import CommandFront.Toml.Value
