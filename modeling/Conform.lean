import Conform.Check
import Conform.Datum.Basic
import Conform.Evidence.Basic
import Conform.Evidence.Stack
import Conform.Kind
import Conform.Label.Basic
import Conform.Label.Expansion
import Conform.Label.Identifier
import Conform.Label.Keyword
import Conform.Label.Spelling
import Conform.Number.Binary
import Conform.Number.Digits
import Conform.Number.Layout
import Conform.Number.Shortest
import Conform.Primitive
import Conform.Proofs.Evidence.Assembly
import Conform.Proofs.Evidence.Locality
import Conform.Proofs.Label.Decoding
import Conform.Proofs.Label.Expansion
import Conform.Proofs.Label.Grammar
import Conform.Proofs.Label.Spelling
import Conform.Proofs.Matching
import Conform.Proofs.Relation.Agreement
import Conform.Proofs.Relation.Bounds
import Conform.Proofs.Relation.Context
import Conform.Proofs.Relation.Equality
import Conform.Proofs.Relation.Partition
import Conform.Proofs.Relation.Typing
import Conform.Proofs.Shape.Assignability
import Conform.Proofs.Shape.Irredundant
import Conform.Proofs.Shape.Order
import Conform.Proofs.Shape.Rearrangement
import Conform.Proofs.Ty.Branches
import Conform.Proofs.Ty.Canonical
import Conform.Proofs.Ty.Chains
import Conform.Proofs.Ty.Enrichment
import Conform.Proofs.Ty.Equality
import Conform.Proofs.Ty.Exchange
import Conform.Proofs.Ty.FirstMatch
import Conform.Proofs.Ty.Interchange
import Conform.Proofs.Ty.Nodes
import Conform.Proofs.Ty.Reading
import Conform.Proofs.Ty.Refusal
import Conform.Proofs.Ty.Soundness
import Conform.Proofs.Ty.Unambiguous
import Conform.Proofs.Ty.Unmistakable
import Conform.Proofs.Value.Enrichment
import Conform.Proofs.Value.Equality
import Conform.Proofs.Value.Projection
import Conform.Proofs.Value.Reordering
import Conform.Proofs.Witness.Invariant
import Conform.Proofs.Witness.Provenance
import Conform.Proofs.Witness.Recovery
import Conform.Proofs.Witness.RoundTrip
import Conform.Proofs.Witness.Steps
import Conform.Proofs.Witness.Totality
import Conform.Relation.Basic
import Conform.Relation.Proof
import Conform.Relation.Verdict
import Conform.Scalar.Basic
import Conform.Scalar.Text
import Conform.Shape.Basic
import Conform.Text.Blank
import Conform.Text.CharClass
import Conform.Text.Identifier
import Conform.Text.Quoted
import Conform.Text.Unshown
import Conform.Token.Basic
import Conform.Token.Comment
import Conform.Token.Lexer
import Conform.Token.Literal
import Conform.Token.Reader
import Conform.Truth
import Conform.Ty.Basic
import Conform.Ty.Read
import Conform.Value.Basic
import Conform.Value.Debug
import Conform.Witness.Basic
import Conform.Witness.Session
