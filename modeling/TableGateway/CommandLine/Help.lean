import TableGateway.CommandLine.Arguments

/-!
# Help

The descriptions of the tool and of its commands, and the version of the tool.
-/

namespace TableGateway.CommandLine

/-- The line that tells the version of the tool. -/
def versionText : String :=
  "tbl 0.1.0\n"

/-- The description of the tool. -/
def overviewText : String :=
  "Tabula CLI - query string to SQL inspector

Usage: tbl [OPTIONS] <COMMAND>

Commands:
  explain  Print the SQL and arguments a request would produce
  catalog  Validate a catalog file and list its tables
  help     Print this message or the help of the given subcommand(s)

Options:
      --format <FORMAT>  Output format [default: text] [possible values: text, json]
  -h, --help             Print help
  -V, --version          Print version
"

/-- The description of the command `explain`. -/
def explainText : String :=
  "Print the SQL and arguments a request would produce

Usage: tbl explain [OPTIONS] --catalog <CATALOG> <PATH>

Arguments:
  <PATH>  Request path with query string, e.g. \"/authors?where=surname==Tolkien\"

Options:
      --catalog <CATALOG>  Catalog YAML file
      --format <FORMAT>    Output format [default: text] [possible values: text, json]
      --method <METHOD>    HTTP method (GET=select, POST=insert, PATCH/PUT=update, DELETE=delete) " ++
    "[default: get] [possible values: get, post, patch, put, delete]
      --body <BODY>        JSON body for POST/PATCH/PUT
  -h, --help               Print help
"

/-- The description of the command `catalog`. -/
def catalogText : String :=
  "Validate a catalog file and list its tables

Usage: tbl catalog [OPTIONS] --catalog <CATALOG>

Options:
      --catalog <CATALOG>  Catalog YAML file
      --format <FORMAT>    Output format [default: text] [possible values: text, json]
  -h, --help               Print help
"

/-- The description of a subject. -/
def Topic.text : Topic → String
  | overview => overviewText
  | explain => explainText
  | catalog => catalogText

end TableGateway.CommandLine
