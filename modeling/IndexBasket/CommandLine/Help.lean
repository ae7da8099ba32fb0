import IndexBasket.CommandLine.Arguments

namespace IndexBasket

namespace CommandLine

def versionText : String := "rebalancer 0.1.0\n"

def scenarioHelp (about usage : String) : List String :=
  [about, "", "Usage: rebalancer " ++ usage ++ " <SCENARIO>", "", "Arguments:",
   "  <SCENARIO>  Path to scenario.json", "", "Options:"]

def helpLines : Topic → List String
  | .program =>
    ["Rebalance keeper: trades a basket toward its target units", "",
     "Usage: rebalancer [OPTIONS] <COMMAND>", "", "Commands:",
     "  run      Plan, confirm, and trade until targets are met",
     "  plan     Show the next trade of every component",
     "  targets  Compare current units against scaled targets",
     "  help     Print this message or the help of the given subcommand(s)", "", "Options:",
     "      --config <CONFIG>  Path to config.toml [default: config.toml]",
     "  -h, --help             Print help",
     "  -V, --version          Print version"]
  | .run => scenarioHelp "Plan, confirm, and trade until targets are met" "run [OPTIONS]" ++
    ["      --dry-run                  Show plan without trading",
     "      --force                    Skip confirmation prompt (for automation/cron)",
     "      --max-rounds <MAX_ROUNDS>  Override bot.max_rounds",
     "  -h, --help                     Print help"]
  | .plan => scenarioHelp "Show the next trade of every component" "plan" ++
    ["  -h, --help  Print help"]
  | .targets => scenarioHelp "Compare current units against scaled targets" "targets" ++
    ["  -h, --help  Print help"]
  | .help =>
    ["Print this message or the help of the given subcommand(s)", "",
     "Usage: rebalancer help [COMMAND]...", "", "Arguments:",
     "  [COMMAND]...  Print help for the subcommand(s)"]

def helpText (topic : Topic) : String := String.join ((helpLines topic).map (· ++ "\n"))

end CommandLine

end IndexBasket
