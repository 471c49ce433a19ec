import ReleaseNotes.CommandLine.Arguments
import ReleaseNotes.CommandLine.Options
import ReleaseNotes.CommandLine.Run
import ReleaseNotes.CommandLine.Session
import ReleaseNotes.CommandLine.Stage
import ReleaseNotes.Commit
import ReleaseNotes.Files
import ReleaseNotes.History.Git
import ReleaseNotes.History.GitHub
import ReleaseNotes.Json.Basic
import ReleaseNotes.Json.Reader
import ReleaseNotes.Main
import ReleaseNotes.Number
import ReleaseNotes.Proofs.ChangelogFile.Accumulated
import ReleaseNotes.Proofs.ChangelogFile.Earlier
import ReleaseNotes.Proofs.ChangelogFile.Stored
import ReleaseNotes.Proofs.ChangelogFile.Writing
import ReleaseNotes.Proofs.CommandLine.AllOrNothing
import ReleaseNotes.Proofs.CommandLine.Calls
import ReleaseNotes.Proofs.CommandLine.Codes
import ReleaseNotes.Proofs.CommandLine.Contents
import ReleaseNotes.Proofs.CommandLine.DryRun
import ReleaseNotes.Proofs.CommandLine.FromGit
import ReleaseNotes.Proofs.CommandLine.FromServer
import ReleaseNotes.Proofs.CommandLine.Loading
import ReleaseNotes.Proofs.CommandLine.Pipeline
import ReleaseNotes.Proofs.CommandLine.Stages
import ReleaseNotes.Proofs.CommandLine.TagRange
import ReleaseNotes.Proofs.Commit.Grammar
import ReleaseNotes.Proofs.Commit.Grouping
import ReleaseNotes.Proofs.Commit.Mapping
import ReleaseNotes.Proofs.Commit.Spelling
import ReleaseNotes.Proofs.Files.Asked
import ReleaseNotes.Proofs.Files.Descent
import ReleaseNotes.Proofs.Files.Folders
import ReleaseNotes.Proofs.Files.Frame
import ReleaseNotes.Proofs.Files.Parent
import ReleaseNotes.Proofs.Files.Reading
import ReleaseNotes.Proofs.History.Nearest
import ReleaseNotes.Proofs.History.Pages
import ReleaseNotes.Proofs.History.Paging
import ReleaseNotes.Proofs.History.ReadBack
import ReleaseNotes.Proofs.History.Repository
import ReleaseNotes.Proofs.History.SoundPages
import ReleaseNotes.Proofs.History.SoundSearch
import ReleaseNotes.Proofs.History.Survey
import ReleaseNotes.Proofs.History.TagWalk
import ReleaseNotes.Proofs.Json.Limits
import ReleaseNotes.Proofs.Json.Members
import ReleaseNotes.Proofs.Number.Integers
import ReleaseNotes.Proofs.Release.ByType
import ReleaseNotes.Proofs.Release.Dated
import ReleaseNotes.Proofs.Release.Lines
import ReleaseNotes.Proofs.Release.Notes
import ReleaseNotes.Proofs.Release.Sources
import ReleaseNotes.Proofs.Settings.Faults
import ReleaseNotes.Proofs.Settings.Precedence
import ReleaseNotes.Proofs.Settings.Validity
import ReleaseNotes.Proofs.Template.FilledFirst
import ReleaseNotes.Proofs.Template.Filling
import ReleaseNotes.Proofs.Template.Grammar
import ReleaseNotes.Proofs.Template.OnePass
import ReleaseNotes.Proofs.Template.Tiling
import ReleaseNotes.Proofs.Text.Capitals
import ReleaseNotes.Proofs.Text.Encodable
import ReleaseNotes.Proofs.Text.LineEnds
import ReleaseNotes.Proofs.Text.Occurrence
import ReleaseNotes.Proofs.Text.Pieces
import ReleaseNotes.Proofs.Text.Replacement
import ReleaseNotes.Proofs.Text.Stretches
import ReleaseNotes.Proofs.Text.Trimming
import ReleaseNotes.Release
import ReleaseNotes.Settings.Basic
import ReleaseNotes.Settings.Load
import ReleaseNotes.Table
import ReleaseNotes.Template
import ReleaseNotes.Text.Basic
import ReleaseNotes.Text.Cut
import ReleaseNotes.Text.Shown
import ReleaseNotes.Text.Uppercase
import ReleaseNotes.Text.Utf8
