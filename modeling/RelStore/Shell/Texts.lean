/-!
The fixed texts of the command line.
-/

namespace RelStore.Shell
set_option autoImplicit false

/-- Lines as one text, each with its end. -/
def unlines (lines : List String) : String :=
  String.join (lines.map (· ++ "\n"))

def banner : String :=
  unlines
    ["",
     " _     _ _       ____  ____",
     "| |   (_) |_ ___|  _ \\| __ )",
     "| |   | | __/ _ \\ | | |  _ \\",
     "| |___| | ||  __/ |_| | |_) |",
     "|_____|_|\\__\\___|____/|____/",
     "",
     " A minimal embedded relational data store in Rust",
     " Type '.help' for help, '.quit' to exit",
     ""]

def helpText : String :=
  unlines
    ["",
     "Commands:",
     "  .help              Show this help message",
     "  .quit              Exit LiteDB",
     "  .tables            List all tables",
     "  .schema [table]    Show table schema",
     "",
     "SQL Commands:",
     "  CREATE TABLE ...   Create a new table",
     "  INSERT INTO ...    Insert one row",
     "  SELECT * FROM ...  Query data, with optional JOIN and WHERE",
     "  DELETE FROM ...    Delete rows",
     "",
     "Examples:",
     "  CREATE TABLE users (id int, name text) PRIMARY KEY id;",
     "  INSERT INTO users VALUES (1, 'Alice');",
     "  SELECT * FROM users WHERE id=1;",
     ""]

def usage : String :=
  unlines
    ["Usage: litedb-cli [--db <path>]",
     "",
     "Options:",
     "  -d, --db <path>   Checkpoint file (default: $LITEDB_PATH or db_meta.json)",
     "  -h, --help        Show this message"]

end RelStore.Shell
