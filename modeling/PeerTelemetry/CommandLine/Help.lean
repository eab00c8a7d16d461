import PeerTelemetry.CommandLine.Command

/-!
# Help

The help is written from the commands themselves: what a command is for, how it is used, and
its options, each with what it says of itself, in two columns.
-/

namespace PeerTelemetry.CommandLine

/-- The name of the program. -/
def programName : String := "sense-stats"

/-- What the version option prints. -/
def versionText : String := s!"{programName} 0.1.0\n"

/-- What the program is for. -/
def programAbout : String := "Sense stats: prints per-peer RTT/loss reports received over UDP"

/-- **Rows in two columns**, the second beginning two blanks behind the longest entry of the
first. -/
def columns (rows : List (String × String)) : String :=
  let width := rows.foldl (fun n (left, _) => max n left.length) 0
  String.join (rows.map fun (left, right) =>
    let blanks := String.ofList (List.replicate (width - left.length + 2) ' ')
    s!"  {left}{blanks}{right}\n")

/-- The row of an option. -/
def OptionSpec.row {δ : Type} (o : OptionSpec δ) : String × String :=
  let short := match o.short with
    | some c => s!"-{c}, "
    | none => "    "
  (short ++ o.label, o.about)

/-- The help on a command: its purpose, its use, and a table. -/
def helpPage (about use title : String) (rows : List (String × String)) : String :=
  s!"{about}\n\nUsage: {programName} {use}\n\n{title}:\n{columns rows}"

/-- The help on one of the commands with options. -/
def CommandSpec.page {δ : Type} (spec : CommandSpec δ) : String :=
  let required := spec.options.filter (·.required)
  let use := String.join (s!"{spec.name} [OPTIONS]" :: required.map fun o => s!" {o.label}")
  helpPage spec.about use "Options" (spec.options.map OptionSpec.row)

/-- What the help command is for. -/
def helpAbout : String := "Print this message or the help of the given subcommand(s)"

/-- **The help on a topic.** -/
def Topic.page : Topic → String
  | program =>
    let commands := [(listenSpec.name, listenSpec.about), (validateSpec.name, validateSpec.about),
      (sendSpec.name, sendSpec.about), ("help", helpAbout)]
    helpPage programAbout "[COMMAND]" "Commands" commands ++ "\nOptions:\n" ++
      columns (programOptions.map OptionSpec.row)
  | listen => listenSpec.page
  | validate => validateSpec.page
  | send => sendSpec.page
  | help =>
    helpPage helpAbout "help [COMMAND]..." "Arguments"
      [("[COMMAND]...", "Print help for the subcommand(s)")]

end PeerTelemetry.CommandLine
