import ZoneKeeper.Command.Arguments

/-!
# Usage

What the command says of itself.
-/

namespace ZoneKeeper.Command

open Text

/-- The name of the command. -/
def commandName : Text := "bindzone".toList

/-- How the command is called. -/
def usage : List Text :=
  ["usage: bindzone [-h] -c CONFIG [-t TARGET_DIR] [--dry-run]",
   "                [--log-level LOG_LEVEL]"].map String.toList

/-- What the command does and what its options mean. -/
def explanation : List Text :=
  usage ++
  ["",
   "Generate BIND zone files from an XML domain configuration.",
   "",
   "options:",
   "  -h, --help            show this help message and exit",
   "  -c CONFIG, --config CONFIG",
   "                        XML domain configuration file.",
   "  -t TARGET_DIR, --target-dir TARGET_DIR",
   "                        Target directory for generated zone files (must exist,",
   "                        default from ZONE_TARGET_DIR).",
   "  --dry-run             Report zone files that would change.",
   "  --log-level LOG_LEVEL",
   "                        Override log level (default from config)."].map String.toList

/-- What the command says of a misuse. -/
def Misuse.report (m : Misuse) : List Text :=
  usage ++ [commandName ++ ": error: ".toList ++ m.message]

end ZoneKeeper.Command
