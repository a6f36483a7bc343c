/-
Lines of the log: how grave a line is, which part of the program wrote
it, and what it says.
-/

namespace SchemaAudit

/-- How grave a line of the log is. -/
inductive Level where
  | debug
  | info
  | warning
  | error
  deriving DecidableEq, Repr

/-- The word for a level. -/
def Level.word : Level → String
  | .debug => "DEBUG"
  | .info => "INFO"
  | .warning => "WARNING"
  | .error => "ERROR"

/-- The weight of a level; a logger passes lines of at least its own
weight. -/
def Level.weight : Level → Int
  | .debug => 10
  | .info => 20
  | .warning => 30
  | .error => 40

/-- The parts of the program that write to the log. -/
inductive Writer where
  | cache
  | checker
  | client
  | command
  | tracing
  deriving DecidableEq, Repr

/-- The name of a writer's logger. -/
def Writer.logger : Writer → String
  | .cache => "search_schema.schema_cache"
  | .checker => "search_schema.checker"
  | .client => "search_schema.admin_client"
  | .command => "search_schema.cli"
  | .tracing => "search_schema.observability.tracing"

/-- A line of the log. -/
structure LogLine where
  level : Level
  writer : Writer
  message : String
  deriving DecidableEq

end SchemaAudit
