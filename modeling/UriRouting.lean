import UriRouting.Config.Load
import UriRouting.Unicode.Naming
import UriRouting.Proofs.Template.Key
import UriRouting.Proofs.Trie.Edges
import UriRouting.Proofs.Trie.Valid
import UriRouting.Proofs.Trie.Insertion
import UriRouting.Proofs.Trie.History
import UriRouting.Proofs.Trie.Reach
import UriRouting.Proofs.Trie.Lookup
import UriRouting.Proofs.Builder.Tables
import UriRouting.Proofs.Builder.Order
import UriRouting.Proofs.Regex.Visits
import UriRouting.Proofs.Regex.Chain
import UriRouting.Proofs.Regex.ChainSearch
import UriRouting.Proofs.Regex.Reading
import UriRouting.Proofs.Template.Links
import UriRouting.Proofs.Template.Segments
import UriRouting.Proofs.Trie.Precedence
import UriRouting.Proofs.Trie.WholeSegments
import UriRouting.Proofs.Trie.Representation
import UriRouting.Proofs.Path.Canonical
import UriRouting.Proofs.Trie.FirstWins
import UriRouting.Proofs.Router.Redirect
import UriRouting.Proofs.Builder.Operations
import UriRouting.Proofs.Router.Aliased
import UriRouting.Proofs.Trie.SingleRoute
import UriRouting.Proofs.Builder.Registration
import UriRouting.Proofs.Router.Literal
import UriRouting.Proofs.Trie.Relabel
import UriRouting.Proofs.Router.Alike
import UriRouting.Proofs.Builder.Deduplication
import UriRouting.Proofs.Builder.Isolation
import UriRouting.Proofs.Regex.Meaning
import UriRouting.Proofs.Regex.Soundness
import UriRouting.Proofs.Regex.Locality
import UriRouting.Proofs.Regex.Edits
import UriRouting.Proofs.Regex.Anchors
import UriRouting.Proofs.Regex.Unanchored
import UriRouting.Proofs.Template.Validation
import UriRouting.Proofs.Builder.Bookkeeping
import UriRouting.Proofs.Trie.LiteralRoutes
import UriRouting.Proofs.Trie.Capacity
import UriRouting.Proofs.Trie.Stars
import UriRouting.Proofs.Path.Cleaning
import UriRouting.Proofs.Regex.GroupNames
import UriRouting.Proofs.Template.Variables
import UriRouting.Proofs.Template.Substitution
import UriRouting.Proofs.Template.Outline
import UriRouting.Proofs.Builder.Refusal
import UriRouting.Proofs.Builder.Collisions
import UriRouting.Proofs.Router.LongestAlias
import UriRouting.Proofs.Regex.Respelling
import UriRouting.Proofs.Template.Escaping
import UriRouting.Proofs.Config.Loading
import UriRouting.Text.Access
import UriRouting.Trie.Offsets
import UriRouting.Proofs.Trie.Offsets
import UriRouting.Path.Scan
import UriRouting.Proofs.Path.Scan
import UriRouting.Proofs.Regex.NormalForm
