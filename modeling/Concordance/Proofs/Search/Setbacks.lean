import Concordance.Proofs.Paging.Serving
import Concordance.Proofs.Search.Ledger

/-! How the calls of a source fail, and what a failure leaves of the walk. -/

namespace Concordance.Search

open Corpus (Candidate)
open Paging (given)
open Store (RetrievalError)

/-- The violations that a reply to a question shows. -/
def Question.check : Question → Json → Schema.Checked Unit
  | .books, reply => (Corpus.BooksReply.ofJson reply).map fun _ => ()
  | .blocks _, reply => (Corpus.BlocksReply.ofJson reply).map fun _ => ()

namespace Source

variable {src : Source} {store : Store}

end Source

end Concordance.Search
