import Attest.Dump.Context
import Attest.Dump.Plan
import Attest.Schema.Document
import Attest.Validator
import Attest.Proofs.Plan.Chain
import Attest.Proofs.Report.Grouping
import Attest.Proofs.Task.Result
import Attest.Proofs.Call.Log
import Attest.Proofs.Validator.Report
import Attest.Proofs.Call.Satisfaction
import Attest.Proofs.Interleaving.Poll
import Attest.Proofs.Validator.Satisfaction
import Attest.Proofs.Call.Raised
import Attest.Proofs.Interleaving.System
import Attest.Proofs.Json.Grammar
import Attest.Proofs.Validator.Schedule
import Attest.Proofs.Json.Scan
import Attest.Proofs.Json.Recognition
import Attest.Proofs.Pattern.Store
import Attest.Proofs.Plan.Settling
import Attest.Proofs.Plan.Transparency
import Attest.Proofs.Plan.Admission
import Attest.Proofs.Gate.Accounts
import Attest.Proofs.Task.Begun
import Attest.Proofs.Interleaving.Permits
import Attest.Proofs.Call.Completion
import Attest.Proofs.Call.Standalone
import Attest.Proofs.Call.Policy
import Attest.Proofs.Validator.Policy
import Attest.Proofs.Interleaving.Termination
import Attest.Proofs.Plan.Correspondence
import Attest.Proofs.Call.Depth
import Attest.Proofs.Validator.Depth
import Attest.Proofs.Json.Encoding
import Attest.Proofs.Json.Lookahead
import Attest.Proofs.Json.Breaking
import Attest.Proofs.Json.Viability
import Attest.Proofs.Json.Nesting
import Attest.Proofs.Number.Reading
import Attest.Proofs.Number.Rounding
import Attest.Proofs.Number.Shortest
import Attest.Proofs.Number.Denotation
import Attest.Proofs.Number.Layout
import Attest.Proofs.Json.Spelling
import Attest.Proofs.Json.Proper
import Attest.Proofs.Json.Decoding
import Attest.Proofs.Rule.Document
import Attest.Proofs.Schema.Equality
import Attest.Proofs.Schema.Depth
import Attest.Proofs.Schema.Document
import Attest.Proofs.Report.Muting
import Attest.Proofs.Call.Muting
import Attest.Proofs.Validator.Messages
import Attest.Proofs.Plan.Isolation
import Attest.Proofs.Validator.Isolation
import Attest.Proofs.Rule.Comparison
import Attest.Proofs.Plan.Faithfulness
import Attest.Proofs.Json.Tokens
import Attest.Proofs.Report.Document
import Attest.Proofs.Report.Silence
import Attest.Proofs.Settings.Start
import Attest.Proofs.Plan.Questions
import Attest.Proofs.Plan.Halting
import Attest.Proofs.Pattern.Place
import Attest.Proofs.Pattern.Verdict
import Attest.Proofs.Pattern.Embedding
import Attest.Proofs.Pattern.Enclosure
import Attest.Proofs.Pattern.Grouping
import Attest.Proofs.Message.Template
import Attest.Proofs.Message.Catalog
import Attest.Proofs.Plan.Evaluation
import Attest.Proofs.Rule.Divisibility
import Attest.Proofs.Number.Nearest
import Attest.Proofs.Rule.Bounds
import Attest.Proofs.Format.Email
import Attest.Proofs.Rule.DecimalPlaces
import Attest.Proofs.Json.Injectivity
import Attest.Proofs.Rule.Uniqueness
import Attest.Proofs.Message.Lookup
import Attest.Proofs.Report.Merging
import Attest.Proofs.Report.Location
import Attest.Proofs.Pattern.Outline
