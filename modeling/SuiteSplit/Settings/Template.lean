/-!
The settings file that a new project starts from.
-/

namespace SuiteSplit.Settings

/-- The lines of the template. -/
def templateLines : List String :=
  ["# testbatch configuration file",
    "",
    "[batching]",
    "# Number of parallel workers. Can be overridden with --batches or",
    "# the NUMBER_OF_BATCHES environment variable.",
    "number_of_batches = 4",
    "",
    "# JUnit reports from the previous run. A missing directory means no history",
    "# yet; every batch is then empty and workers run all tests.",
    "results_dir = \"test-results\"",
    "",
    "# Where batch-<n>.json, batch-<n>.txt and index.json are written.",
    "output_dir = \"batches\"",
    "",
    "# Regex matched against report file names.",
    "report_pattern = '^TEST-.*\\.xml$'",
    "",
    "# \"fail\" aborts on an unparsable report, \"skip\" logs a warning and continues.",
    "on_malformed_report = \"fail\"",
    "",
    "# Fail instead of producing empty batches when results_dir is missing.",
    "require_results = false"]

/-- Settings with four batches, every other setting at its default, and what each of them means. -/
def template : String := String.join (templateLines.map (· ++ "\n"))

end SuiteSplit.Settings
