import RelStore.Main
import RelStore.Reference
import RelStore.Statement.Grammar
import RelStore.Token.Spelling
import RelStore.Proofs.IndexScan
import RelStore.Proofs.IndexUse
import RelStore.Proofs.UncheckedRows
import RelStore.Proofs.Reachable
import RelStore.Proofs.Refinement.Run
import RelStore.Proofs.Store
import RelStore.Proofs.Statement.Read
import RelStore.Proofs.Statement.Form
import RelStore.Proofs.Token.Layout
import RelStore.Proofs.Token.Concatenation
import RelStore.Proofs.Statement.Spelled
import RelStore.Proofs.Durability
import RelStore.Proofs.Join
import RelStore.Proofs.Loading
import RelStore.Proofs.Answering
import RelStore.Proofs.Files.Path
import RelStore.Proofs.Interruption
import RelStore.Proofs.Modification
import RelStore.Proofs.Literal
import RelStore.Proofs.Comparison
import RelStore.Proofs.Selection
import RelStore.Proofs.Retrieval
import RelStore.Proofs.JoinedRow
import RelStore.Proofs.Grown
import RelStore.Proofs.Canonical
import RelStore.Proofs.Commutation
import RelStore.Proofs.JoinSymmetry
import RelStore.Proofs.ResultTable
import RelStore.Proofs.Session
