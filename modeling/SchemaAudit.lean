import SchemaAudit.Label
import SchemaAudit.Main
import SchemaAudit.Proofs.BadCatalog
import SchemaAudit.Proofs.Catalog
import SchemaAudit.Proofs.Comparison
import SchemaAudit.Proofs.CopyRules
import SchemaAudit.Proofs.Counters
import SchemaAudit.Proofs.Ending
import SchemaAudit.Proofs.EntryNames
import SchemaAudit.Proofs.EntryOrder
import SchemaAudit.Proofs.Escapes
import SchemaAudit.Proofs.Expected.Loading
import SchemaAudit.Proofs.Field.Bag
import SchemaAudit.Proofs.Field.Refusal
import SchemaAudit.Proofs.Http.Fetching
import SchemaAudit.Proofs.Log.Redaction
import SchemaAudit.Proofs.Missing
import SchemaAudit.Proofs.NormalForm
import SchemaAudit.Proofs.Property.Meaning
import SchemaAudit.Proofs.ReportText
import SchemaAudit.Proofs.Settings
import SchemaAudit.Proofs.TraceContext
import SchemaAudit.Proofs.Unrelated
import SchemaAudit.Proofs.Verdict
import SchemaAudit.Trace.Span
