import BlockMail.Project.Arguments

/-!
# Usage texts

What is printed when help or the version is asked for.
-/

set_option autoImplicit false

namespace BlockMail.Project

/-- Lines, each with a line break behind it. -/
def lines (texts : List String) : String :=
  String.join (texts.map fun text => text ++ "\n")

def versionText : String := "mailforge 0.1.0\n"

def programUsage : String :=
  lines
    ["MailForge CLI - block-based email templates",
      "",
      "Usage: mailforge <COMMAND>",
      "",
      "Commands:",
      "  init     Initialize a new MailForge project",
      "  compile  Compile template files to HTML",
      "  serve    Run the template HTTP API",
      "  help     Print this message or the help of the given subcommand(s)",
      "",
      "Options:",
      "  -h, --help     Print help",
      "  -V, --version  Print version"]

def startUsage : String :=
  lines
    ["Initialize a new MailForge project",
      "",
      "Usage: mailforge init [OPTIONS]",
      "",
      "Options:",
      "  -s, --src-dir <SRC_DIR>  Template directory [default: templates]",
      "  -f, --force              Force overwrite existing config",
      "  -h, --help               Print help"]

def compileUsage : String :=
  lines
    ["Compile template files to HTML",
      "",
      "Usage: mailforge compile [OPTIONS] [PATH]",
      "",
      "Arguments:",
      "  [PATH]  Template file or directory (defaults to the configured " ++
        "source directory)",
      "",
      "Options:",
      "      --stdout             Output to stdout instead of files",
      "  -o, --out-dir <OUT_DIR>  Output directory (overrides config)",
      "  -c, --context <CONTEXT>  JSON file with context values",
      "      --text               Also write a plain-text version next to " ++
        "each HTML file",
      "      --compact            Emit HTML without indentation or newlines",
      "  -h, --help               Print help"]

def serveUsage : String :=
  lines
    ["Run the template HTTP API",
      "",
      "Usage: mailforge serve [OPTIONS]",
      "",
      "Options:",
      "  -p, --port <PORT>  Port to listen on (overrides config)",
      "      --host <HOST>  Address to bind (overrides config)",
      "  -h, --help         Print help"]

def helpUsage : String :=
  lines
    ["Print this message or the help of the given subcommand(s)",
      "",
      "Usage: mailforge help [COMMAND]...",
      "",
      "Arguments:",
      "  [COMMAND]...  Print help for the subcommand(s)"]

def Topic.text : Topic → String
  | .program => programUsage
  | .command .start => startUsage
  | .command .compile => compileUsage
  | .command .serve => serveUsage
  | .help => helpUsage

def misuseText : String :=
  lines
    ["error: the arguments are not valid",
      "",
      "For more information, try '--help'."]

def serverUsage : String :=
  lines
    ["Usage: mailforge-server [OPTIONS]",
      "",
      "Options:",
      "  -p, --port <PORT>       Port to listen on (default: 5000)",
      "  --host <HOST>           Address to bind (default: 127.0.0.1)",
      "  --database <PATH>       SQLite database file, or :memory: " ++
        "(default: mailforge.db)",
      "  --outbox <DIR>          Directory for sent mail (default: outbox)",
      "  --sender <ADDRESS>      From address for sent mail",
      "  --smtp                  Deliver through the relay named by " ++
        "SMTP_HOST/SMTP_PORT/SMTP_USER/SMTP_PASSWORD/SMTP_TLS",
      "  -h, --help              Show this help message"]

end BlockMail.Project
