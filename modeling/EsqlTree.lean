import EsqlTree.Cli.Directory
import EsqlTree.Main
import EsqlTree.Tree.Equality
import EsqlTree.Tree.Standalone
import EsqlTree.Proofs.Walk.Preorder
import EsqlTree.Proofs.Load.Fields
import EsqlTree.Proofs.Tree.Places
import EsqlTree.Proofs.Tree.Reload
import EsqlTree.Proofs.Load.Faults
import EsqlTree.Proofs.Load.FirstFault
import EsqlTree.Proofs.Text.Numeral
import EsqlTree.Proofs.Tree.Steps
import EsqlTree.Proofs.Load.FaultSite
import EsqlTree.Proofs.Load.Reading
import EsqlTree.Proofs.Walk.Notes
import EsqlTree.Proofs.Json.Tokens
import EsqlTree.Proofs.Json.Rereading
import EsqlTree.Proofs.Load.Canonical
import EsqlTree.Proofs.Load.Leaves
import EsqlTree.Proofs.Tree.AtomMap
import EsqlTree.Proofs.Load.SecondLoad
import EsqlTree.Proofs.Load.TextReload
import EsqlTree.Proofs.Walk.Queries
import EsqlTree.Proofs.Cli.Reading
import EsqlTree.Proofs.Cli.Status
import EsqlTree.Proofs.Cli.Printing
import EsqlTree.Proofs.Cli.Agreement
import EsqlTree.Proofs.Json.Layout
import EsqlTree.Proofs.Load.Subtree
import EsqlTree.Proofs.Cli.Extraction
import EsqlTree.Proofs.Config.Settings
import EsqlTree.Proofs.Cli.Configuration
import EsqlTree.Proofs.Walk.Positions
import EsqlTree.Proofs.Walk.Listing
import EsqlTree.Proofs.Text.LetterCase
import EsqlTree.Proofs.Walk.CommandWalkers
import EsqlTree.Proofs.Tree.Embedding
import EsqlTree.Proofs.Load.Unread
import EsqlTree.Proofs.Walk.Calls
import EsqlTree.Proofs.Walk.Sequences
import EsqlTree.Proofs.Walk.Blocks
import EsqlTree.Proofs.Walk.Pairs
import EsqlTree.Proofs.Walk.Casts
import EsqlTree.Proofs.Text.Integers
import EsqlTree.Proofs.Json.Integers
import EsqlTree.Proofs.Load.Integers
import EsqlTree.Proofs.Load.Replaced
import EsqlTree.Proofs.Load.Numbers
import EsqlTree.Proofs.Load.Minimal
import EsqlTree.Proofs.Cli.Lines
import EsqlTree.Proofs.Load.Relocation
