import PostMortem.Main
import PostMortem.Reporter.Step
import PostMortem.Store.Session
import PostMortem.Proofs.Store.Codec
import PostMortem.Proofs.Store.Resets
import PostMortem.Proofs.FileTree.Contents
import PostMortem.Proofs.FileTree.Growth
import PostMortem.Proofs.Store.Opening
import PostMortem.Proofs.Store.Registers
import PostMortem.Proofs.Store.Changes
import PostMortem.Proofs.Store.Ranges
import PostMortem.Proofs.Reporter.Effects
import PostMortem.Proofs.Store.Mappings
import PostMortem.Proofs.Reporter.Reachable
import PostMortem.Proofs.Reporter.Routing
import PostMortem.Proofs.Reporter.Handling
import PostMortem.Proofs.Reporter.Raised
import PostMortem.Proofs.Reporter.Runs
import PostMortem.Proofs.Writer
import PostMortem.Proofs.Inspector.Erasure
import PostMortem.Proofs.Inspector.Runs
import PostMortem.Proofs.Inspector.AfterFaults
import PostMortem.Proofs.Report.Unambiguous
import PostMortem.Proofs.Store.Backends
import PostMortem.Proofs.Reporter.Builds
import PostMortem.Proofs.Reporter.Sinks
import PostMortem.Proofs.Reporter.Checks
import PostMortem.Proofs.Reporter.Halting
import PostMortem.Proofs.Reporter.Faulted
import PostMortem.Proofs.Inspector.Outcomes
import PostMortem.Proofs.Report.Agreement
import PostMortem.Proofs.Config.Decoding
import PostMortem.Proofs.Config.Loading
import PostMortem.Proofs.Store.Sharing
import PostMortem.Proofs.FileTree.Parents
import PostMortem.Proofs.Store.Exactness
import PostMortem.Proofs.Store.Layout
import PostMortem.Proofs.Reporter.Installing
import PostMortem.Proofs.Report.CutOff
import PostMortem.Proofs.Text.Numerals
import PostMortem.Proofs.Report.Records
import PostMortem.Proofs.Report.Fields
import PostMortem.Proofs.Inspector.Switches
import PostMortem.Proofs.Inspector.Verbosity
