import StarPlan.Calculation
import StarPlan.Comparison
import StarPlan.Config
import StarPlan.Content.Fault
import StarPlan.Fault
import StarPlan.FieldKind
import StarPlan.Files.Pattern
import StarPlan.Files.Tree
import StarPlan.Json.Document
import StarPlan.Json.Number
import StarPlan.Json.Reading
import StarPlan.Json.Token
import StarPlan.Json.Value
import StarPlan.Keyed
import StarPlan.Name
import StarPlan.Number.Binary
import StarPlan.Number.Float
import StarPlan.Number.Layout
import StarPlan.Number.Shortest
import StarPlan.Plan.Basic
import StarPlan.Plan.Builder
import StarPlan.Plan.Entry
import StarPlan.Plan.Event
import StarPlan.Plan.Lowering
import StarPlan.Plan.Resolution
import StarPlan.Plan.Source
import StarPlan.Request.Basic
import StarPlan.Request.Json
import StarPlan.Request.Text
import StarPlan.Schema.Basic
import StarPlan.Schema.Catalog
import StarPlan.Schema.Dimension
import StarPlan.Schema.Fact
import StarPlan.Schema.Fault
import StarPlan.SchemaFolder
import StarPlan.Sql.Dialect
import StarPlan.Sql.Query
import StarPlan.Sql.Render
import StarPlan.TableFile.Basic
import StarPlan.TableFile.Conversion
import StarPlan.TableFile.Toml
import StarPlan.TableFile.Yaml
import StarPlan.Text.Blank
import StarPlan.Text.Hidden
import StarPlan.Text.Quoted
import StarPlan.Toml.Document
import StarPlan.Toml.Lexeme
import StarPlan.Toml.Scalar
import StarPlan.Toml.Statement
import StarPlan.Toml.Value
import StarPlan.Yaml.BlockScalar
import StarPlan.Yaml.Core
import StarPlan.Yaml.Cursor
import StarPlan.Yaml.Document
import StarPlan.Yaml.Folding
import StarPlan.Yaml.Layout
import StarPlan.Yaml.PlainScalar
import StarPlan.Yaml.Property
import StarPlan.Yaml.QuotedScalar
import StarPlan.Yaml.Reading
import StarPlan.Yaml.Token
import StarPlan.Proofs.Keyed
import StarPlan.Proofs.Schema.Built
import StarPlan.Proofs.Plan.Course
import StarPlan.Proofs.Plan.Joins
import StarPlan.Proofs.Plan.Grain
import StarPlan.Proofs.Plan.Answer
import StarPlan.Proofs.Plan.Survival
import StarPlan.Proofs.Plan.Lowering
import StarPlan.Proofs.Sql.Grouping
import StarPlan.Proofs.Sql.Semantics
import StarPlan.Proofs.Request.Answer
import StarPlan.Proofs.Plan.Scopes
import StarPlan.Proofs.Plan.Meaning
import StarPlan.Proofs.Request.Rollup
import StarPlan.Proofs.Plan.Rollup
import StarPlan.Proofs.Plan.Independence
import StarPlan.Proofs.Plan.Contents
import StarPlan.Proofs.Plan.Order
import StarPlan.Proofs.Plan.Resolves
import StarPlan.Proofs.Plan.Stored
import StarPlan.Proofs.Plan.References
import StarPlan.Proofs.Plan.Qualifiers
import StarPlan.Proofs.Plan.Switch
import StarPlan.Proofs.Plan.Priority
import StarPlan.Proofs.Schema.Consistent
import StarPlan.Proofs.Schema.Order
import StarPlan.Proofs.Files.Renaming
import StarPlan.Proofs.Schema.Folder
import StarPlan.Proofs.Json.Text
import StarPlan.Proofs.Json.Written
import StarPlan.Proofs.Plan.Growth
import StarPlan.Proofs.Json.Reading
import StarPlan.Proofs.Request.Text
import StarPlan.Proofs.Plan.Log
import StarPlan.Proofs.Sql.Scanner
import StarPlan.Proofs.Sql.Unambiguous
import StarPlan.Proofs.Json.Grammar
import StarPlan.Proofs.Json.Rewriting
import StarPlan.Proofs.Request.Presentation
import StarPlan.Proofs.Number.Rounding
import StarPlan.Proofs.Number.Shortest
import StarPlan.Proofs.Json.Denotation
import StarPlan.Proofs.Json.Magnitude
import StarPlan.Proofs.Json.Places
import StarPlan.Proofs.Request.Literals
import StarPlan.Proofs.Plan.GroupClause
import StarPlan.Proofs.Plan.Unused
import StarPlan.Proofs.Schema.Fields
import StarPlan.Proofs.TableFile.Conversion
import StarPlan.Proofs.Schema.Catalog
import StarPlan.Proofs.Sql.Quoting
import StarPlan.Proofs.Config
import StarPlan.Proofs.Plan.Attempts
import StarPlan.Proofs.Plan.OutputNames
