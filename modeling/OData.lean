import OData.Aggregate
import OData.Fallible
import OData.Limits.Document
import OData.Limits.Validate
import OData.Log
import OData.Query.Grammar
import OData.Query.Step
import OData.Schema.Expansion
import OData.Proofs.Scan
import OData.Proofs.Cut
import OData.Proofs.Literal
import OData.Proofs.Containment
import OData.Proofs.Reading
import OData.Proofs.Precedence
import OData.Proofs.Conjunction
import OData.Proofs.Faithful
import OData.Proofs.Outcome
import OData.Proofs.Levels
import OData.Proofs.Violation
import OData.Proofs.Readback
import OData.Proofs.Casing
import OData.Proofs.Accessors
import OData.Proofs.Canonical
import OData.Proofs.Agreement
import OData.Proofs.Numeral
import OData.Proofs.DayCount
import OData.Proofs.Timestamp
import OData.Proofs.Denotation
import OData.Proofs.Delimited
import OData.Proofs.Wrapping
import OData.Proofs.Cutoff
import OData.Proofs.Growth
import OData.Proofs.Grouping
import OData.Proofs.Diagnosis
import OData.Proofs.Collision
import OData.Proofs.Recased
import OData.Proofs.Legality
import OData.Proofs.Forms
import OData.Proofs.Wellformed
import OData.Proofs.Spelling
import OData.Proofs.Skipping
import OData.Proofs.Remainder
import OData.Proofs.WholeNumber
import OData.Proofs.Brackets
import OData.Proofs.Members
import OData.Proofs.Configuration
