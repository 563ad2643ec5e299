import AssistiveTree.Config.Document
import AssistiveTree.Proofs.Bridge.Account
import AssistiveTree.Proofs.Bridge.Admission
import AssistiveTree.Proofs.Bridge.Contents
import AssistiveTree.Proofs.Bridge.Delivery
import AssistiveTree.Proofs.Bridge.Delta
import AssistiveTree.Proofs.Bridge.Drops
import AssistiveTree.Proofs.Bridge.Entries
import AssistiveTree.Proofs.Bridge.Export
import AssistiveTree.Proofs.Bridge.Fidelity
import AssistiveTree.Proofs.Bridge.Groups
import AssistiveTree.Proofs.Bridge.Observation
import AssistiveTree.Proofs.Bridge.Redelivery
import AssistiveTree.Proofs.Bridge.Renaming
import AssistiveTree.Proofs.Bridge.Restart
import AssistiveTree.Proofs.Bridge.Reversal
import AssistiveTree.Proofs.Bridge.Routing
import AssistiveTree.Proofs.Bridge.Selections
import AssistiveTree.Proofs.Bridge.Staleness
import AssistiveTree.Proofs.Bridge.Subscribers
import AssistiveTree.Proofs.Config
import AssistiveTree.Proofs.Config.Fields
import AssistiveTree.Proofs.Export.Builder
import AssistiveTree.Proofs.Node.Key
import AssistiveTree.Proofs.Registry
import AssistiveTree.Proofs.Session.Activation
import AssistiveTree.Proofs.Tree.Assignment
import AssistiveTree.Proofs.Tree.Ledger
import AssistiveTree.Registry.History
import AssistiveTree.Session
