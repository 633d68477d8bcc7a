import FederatedLedger.Cli.Arguments

/-!
# Help on commands

The text that explains a command: what it is about, how it is called, and its commands, arguments and options.
-/

namespace FederatedLedger
namespace Help

/-- An option's name for its value, which is also the name of an argument. -/
def valueName (s : Slot) : String :=
  String.ofList (s.name.toList.map fun c => if c = '-' then '_' else c.toUpper)

/-- How an option is written. -/
def spelling (s : Slot) : String :=
  (match s.short with
    | some c => "-" ++ String.singleton c ++ ", "
    | none => "    ") ++ "--" ++ s.name ++ " <" ++ valueName s ++ ">"

/-- Rows of two columns. -/
def table (rows : List (String × String)) : String :=
  let width := (rows.map fun r => r.1.length).foldl max 0
  String.join (rows.map fun (a, b) =>
    let line := "  " ++ a ++ "".pushn ' ' (width - a.length + 2) ++ b
    line ++ "\n")

/-- A part of the help, if it has rows. -/
def part (title : String) (rows : List (String × String)) : String :=
  if rows = [] then "" else "\n" ++ title ++ ":\n" ++ table rows

/-- How a command is called. -/
def usage (parents : List String) (c : CommandSpec) : String :=
  let required := c.options.filter Slot.isRequired
  String.intercalate " " (parents ++ [c.name] ++
    (if required.length = c.options.length then [] else ["[OPTIONS]"]) ++
    required.map (fun s => "--" ++ s.name ++ " <" ++ valueName s ++ ">") ++
    c.arguments.map (fun s => "<" ++ valueName s ++ ">") ++
    (if c.commands.isEmpty then [] else ["<COMMAND>"]))

/-- The help on a command. -/
def text (parents : List String) (c : CommandSpec) : String :=
  let commands := c.commands.map fun d => (d.name, d.about)
  let commands := if commands = [] then [] else
    commands ++ [("help", "Print this message or the help of the given subcommand(s)")]
  c.about ++ "\n\nUsage: " ++ usage parents c ++ "\n" ++
    part "Commands" commands ++
    part "Arguments" (c.arguments.map fun s => ("<" ++ valueName s ++ ">", s.about)) ++
    part "Options" (c.options.map (fun s => (spelling s, s.about)) ++ [("-h, --help", "Print help")])

end Help
end FederatedLedger
