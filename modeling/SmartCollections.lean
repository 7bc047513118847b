import SmartCollections.Main
import SmartCollections.Disk.Tree
import SmartCollections.Store.Memory
import SmartCollections.Proofs.Outcome
import SmartCollections.Proofs.JsonRoundTrip
import SmartCollections.Proofs.Durability
import SmartCollections.Proofs.Likeness
import SmartCollections.Proofs.Mirror
import SmartCollections.Proofs.Interchange
import SmartCollections.Proofs.Independence
import SmartCollections.Proofs.Grammar
import SmartCollections.Proofs.Parsing
import SmartCollections.Proofs.Lexing
import SmartCollections.Proofs.Printing
import SmartCollections.Proofs.Stillness
import SmartCollections.Proofs.Convergence
import SmartCollections.Proofs.Forecast
import SmartCollections.Proofs.Effectiveness
import SmartCollections.Proofs.Compilation
import SmartCollections.Proofs.Canonical
import SmartCollections.Proofs.Protocol
import SmartCollections.Proofs.Honesty
import SmartCollections.Proofs.Accounts
import SmartCollections.Proofs.CaseFolding
import SmartCollections.Proofs.Execution
import SmartCollections.Proofs.Deletion
import SmartCollections.Proofs.FilePasses
import SmartCollections.Proofs.Program
import SmartCollections.Proofs.DiskTree
import SmartCollections.Proofs.Difference
import SmartCollections.Proofs.Moves
import SmartCollections.Proofs.Placement
import SmartCollections.Proofs.Diagnostics
import SmartCollections.Proofs.Brackets
import SmartCollections.Proofs.Interruptions
import SmartCollections.Proofs.Strays
import SmartCollections.Proofs.Selection
import SmartCollections.Proofs.Enrichment
import SmartCollections.Proofs.Concatenation
import SmartCollections.Proofs.Composition
import SmartCollections.Proofs.Slices
import SmartCollections.Proofs.Alignment
import SmartCollections.Proofs.Correction
import SmartCollections.Proofs.Respelling
import SmartCollections.Proofs.Layout
import SmartCollections.Proofs.Records
import SmartCollections.Proofs.Activations
import SmartCollections.Proofs.Returns
import SmartCollections.Proofs.Descent
import SmartCollections.Proofs.Journal
