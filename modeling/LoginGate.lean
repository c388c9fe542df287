import LoginGate.Console
import LoginGate.Settings
import LoginGate.Main
import LoginGate.Proofs.Gate.Bound
import LoginGate.Proofs.Registry.Counting
import LoginGate.Proofs.Registry.Expiry
import LoginGate.Registry
import LoginGate.RuleStore
import LoginGate.Session
import LoginGate.Settings.Text
import LoginGate.Proofs.Address.RoundTrip
import LoginGate.Proofs.Gate.Lists
import LoginGate.Proofs.Gate.Range
import LoginGate.Proofs.RuleBook.Effect
import LoginGate.Proofs.RuleBook.Uniqueness
import LoginGate.Proofs.RuleBook.Ledger
import LoginGate.Proofs.Service.Line
import LoginGate.Proofs.Service.Refinement
import LoginGate.Proofs.RuleBook.Atomicity
import LoginGate.Proofs.Service.Atomicity
import LoginGate.Proofs.Gate.Reset
import LoginGate.Proofs.Session.Framing
import LoginGate.Proofs.Console.Agreement
import LoginGate.Proofs.Session.Overlong
import LoginGate.Proofs.Daemon.Reliability
import LoginGate.Proofs.RuleBook.Overlap
import LoginGate.Proofs.Gate.Concurrency
import LoginGate.Proofs.Registry.Independence
import LoginGate.Proofs.Gate.Origin
import LoginGate.Proofs.Client.Exchange
import LoginGate.Proofs.Procedure
import LoginGate.Proofs.RuleBook.Explanations
import LoginGate.Proofs.Service.Discretion
import LoginGate.Proofs.Gate.Opacity
import LoginGate.Proofs.Gate.Accounting
import LoginGate.Proofs.RuleBook.Failures
import LoginGate.Proofs.Service.Taxonomy
import LoginGate.Proofs.RuleBook.Classification
import LoginGate.Proofs.RuleBook.Deletion
import LoginGate.Proofs.Network.Canonical
import LoginGate.Proofs.RuleStore.Standing
import LoginGate.Proofs.Registry.Timeline
import LoginGate.Proofs.Registry.Idleness
import LoginGate.Proofs.Settings.Completion
