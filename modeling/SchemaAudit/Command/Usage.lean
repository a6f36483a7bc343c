/-
What the program says about how it is called.
-/

namespace SchemaAudit.Usage

/-- The name of the program. -/
def program : String := "search-schema-check"

/-- How the program is called. -/
def usageLines : List String :=
  ["usage: search-schema-check [-h] [--solr-url SOLR_URL]",
   "                           [--collection COLLECTION] [--catalog CATALOG]",
   "                           [--timeout TIMEOUT] [--json] [--fail-on-warning]",
   "                           [--metrics-file METRICS_FILE]"]

/-- What the program does and what each switch means. -/
def helpLines : List String :=
  ["",
   "Fetch the Solr schema and validate it against the metadata field catalog",
   "",
   "options:",
   "  -h, --help            show this help message and exit",
   "  --solr-url SOLR_URL   Solr base URL (default: SOLR_URL or",
   "                        http://localhost:8983/solr)",
   "  --collection COLLECTION",
   "                        Collection or core name (default: SOLR_COLLECTION)",
   "  --catalog CATALOG     JSON metadata field catalog; without it only internal",
   "                        consistency is checked",
   "  --timeout TIMEOUT     Schema request timeout in seconds",
   "  --json                Emit JSON logs instead of plain text",
   "  --fail-on-warning     Exit non-zero on warnings as well as errors",
   "  --metrics-file METRICS_FILE",
   "                        Write Prometheus metrics of the run to this file (text",
   "                        exposition format)"]

/-- Lines as one text, each with its end. -/
def textOf (lines : List String) : String :=
  String.join (lines.map (· ++ "\n"))

/-- The help text. -/
def help : String := textOf (usageLines ++ helpLines)

/-- The text of a refusal of the command line. -/
def refusal (message : String) : String :=
  textOf (usageLines ++ [program ++ ": error: " ++ message])

end SchemaAudit.Usage
