import AccessPolicy.Command.Words

namespace AccessPolicy.Command

def versionText : String := "rightsgate 0.1.0\n"

namespace Key

def shape (k : Key) : String :=
  let short := match k.letter with
    | some c => String.ofList ['-', c] ++ ", "
    | none => "    "
  short ++ "--" ++ k.name ++ if k.takesValue then " <" ++ k.name.map Char.toUpper ++ ">" else ""

def about (t : Topic) : Key → String
  | .config => "YAML config file. Defaults apply when omitted"
  | .context => "JSON file holding one policy context"
  | .policies =>
    if t = .verb .eval then "JSON array of policy records; overrides `store.policies_file`" else ""
  | .metrics => "Print engine metrics (Prometheus text) to stderr afterwards"
  | .tenant => ""
  | .help => "Print help"
  | .version => "Print version"

end Key

def Verb.about : Verb → String
  | .eval => "Evaluate a request context and print the decision as JSON"
  | .check => "Compile a tenant's stored policies and list them in evaluation order"

def helpAbout : String := "Print this message or the help of the given subcommand(s)"

def columns (rows : List (String × String)) : List String :=
  let width := (rows.map fun r => r.1.length).foldl max 0
  rows.map fun r => "  " ++ r.1.pushn ' ' (width - r.1.length) ++ "  " ++ r.2

def options (g : Grammar) : List String := "Options:" :: columns (g.keys.map fun k => (k.shape, k.about g.topic))

def Topic.lines : Topic → List String
  | .program =>
    ["Multi-tenant authorization policy engine", "", "Usage: rightsgate [OPTIONS] <COMMAND>", "", "Commands:"]
      ++ columns (Verb.all.map (fun v => (v.name, v.about)) ++ [("help", helpAbout)])
      ++ "" :: options .program
  | .verb v =>
    let needed := match v with
      | .eval => "--context <CONTEXT>"
      | .check => "--tenant <TENANT>"
    [v.about, "", "Usage: rightsgate " ++ v.name ++ " [OPTIONS] " ++ needed, ""] ++ options (.ofVerb v)
  | .help =>
    [helpAbout, "", "Usage: rightsgate help [COMMAND]...", "", "Arguments:"]
      ++ columns [("[COMMAND]...", "Print help for the subcommand(s)")]

def Topic.text (t : Topic) : String := String.join (t.lines.map fun l => l ++ "\n")

end AccessPolicy.Command
