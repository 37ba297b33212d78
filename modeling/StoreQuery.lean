import StoreQuery.Main
import StoreQuery.Predicate.Draft
import StoreQuery.Wire.Record
import StoreQuery.Text.CharSet
import StoreQuery.Text.Property
import StoreQuery.Proofs.Encoding.Failure
import StoreQuery.Proofs.Plan.Meaning
import StoreQuery.Proofs.Plan.Removal
import StoreQuery.Proofs.Plan.FullScan
import StoreQuery.Proofs.Plan.Rearrangement
import StoreQuery.Proofs.Wire.Basic
import StoreQuery.Proofs.Wire.Predicate
import StoreQuery.Proofs.Wire.Expr
import StoreQuery.Proofs.Encoding.Bounds
import StoreQuery.Proofs.Wire.Plan
import StoreQuery.Proofs.Index.Written
import StoreQuery.Proofs.Encoding.Items
import StoreQuery.Proofs.Encoding.Complement
import StoreQuery.Proofs.Encoding.ByKey
import StoreQuery.Proofs.Encoding.Presence
import StoreQuery.Proofs.Encoding.Pattern
import StoreQuery.Proofs.Encoding.Absent
import StoreQuery.Proofs.Expr.Inward
import StoreQuery.Proofs.Expr.Extension
import StoreQuery.Proofs.Predicate.Kleene
import StoreQuery.Proofs.Predicate.Valid
import StoreQuery.Proofs.Wire.Draft
import StoreQuery.Proofs.Wire.Valid
import StoreQuery.Proofs.Encoding.Valid
import StoreQuery.Proofs.Path.Text
import StoreQuery.Proofs.Path.Resolve
import StoreQuery.Proofs.Index.Statistics
import StoreQuery.Proofs.Encoding.ExactRange
import StoreQuery.Proofs.Plan.Relevance
import StoreQuery.Proofs.Regex.BasicMatch
import StoreQuery.Proofs.Regex.SetMeaning
