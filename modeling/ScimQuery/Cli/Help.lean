import ScimQuery.Cli.Args

/-! # Help and version texts

The help of the program lists its commands and its options; the help of a command lists
its options. An option is shown with its short letter, its long name and the name of its
value, padded to the widest of its section, then its description, its default and the
values it accepts.
-/

namespace ScimQuery.Cli

/-- The version line. -/
def versionText : String := "scimql 0.1.0\n"

/-- An option line of a help section. -/
structure HelpLine where
  short : Option Char
  spec : String
  text : String

/-- Pads a text with spaces to a width. -/
def padTo (width : Nat) (s : String) : String :=
  s ++ String.ofList (List.replicate (width - s.length) ' ')

/-- The lines of a section of options, their descriptions aligned. -/
def optionLines (lines : List HelpLine) : String :=
  let width := lines.foldl (fun w l => max w l.spec.length) 0
  String.join (lines.map fun l =>
    let short := match l.short with
      | some c => "-" ++ String.singleton c ++ ", "
      | none => "    "
    "  " ++ short ++ padTo width l.spec ++ "  " ++ l.text ++ "\n")

/-- The help line of an option. -/
def OptionSpec.helpLine (o : OptionSpec) : HelpLine :=
  let text := match o.long with
    | "config" => "Settings file (defaults to SCIMQL_CONFIG, ./scimql.toml, then the user config dir)"
    | "catalog" => "Resource catalog replacing the built-in Keycloak mappings"
    | "resource" => "Resource type name or endpoint (User, Groups, ...)"
    | "tenant" => "Tenant (realm) id"
    | "filter" => "Filter tree as JSON"
    | "sort-by" => "Attribute path to sort by"
    | "sort-order" => "Sort direction [possible values: asc, desc]"
    | "start-index" => "1-based index of the first result [default: 1]"
    | "count" => "Page size"
    | "dialect" =>
      "SQL dialect to generate (defaults to query.dialect from settings) [possible values: postgres, mysql, sqlite, tsql]"
    | "db" => "SQLite database file (defaults to database.path from settings)"
    | _ => ""
  ⟨o.short, "--" ++ o.long ++ " <" ++ o.valueName ++ ">", text⟩

/-- The help line of `--help`. -/
def helpFlag : HelpLine := ⟨some 'h', "--help", "Print help"⟩

/-- The help of a topic. -/
def helpText : HelpTopic → String
  | .program =>
    "scimql - compile SCIM resource queries to multi-dialect SQL\n\n" ++
    "Usage: scimql [OPTIONS] <COMMAND>\n\n" ++
    "Commands:\n" ++
    "  check  Run the catalog self-check and list resource types\n" ++
    "  plan   Print the SQL generated for a request\n" ++
    "  query  Execute a request against a SQLite database and print JSON\n" ++
    "  help   Print this message or the help of the given subcommand(s)\n\n" ++
    "Options:\n" ++
    optionLines (globalOptions.map OptionSpec.helpLine ++
      [helpFlag, ⟨some 'V', "--version", "Print version"⟩])
  | .help =>
    "Print this message or the help of the given subcommand(s)\n\n" ++
    "Usage: scimql help [COMMAND]...\n\n" ++
    "Arguments:\n" ++
    "  [COMMAND]...  Print help for the subcommand(s)\n"
  | .check =>
    "Run the catalog self-check and list resource types\n\n" ++
    "Usage: scimql check [OPTIONS]\n\n" ++
    "Options:\n" ++ optionLines ((optionsOf .check).map OptionSpec.helpLine ++ [helpFlag])
  | .plan =>
    "Print the SQL generated for a request\n\n" ++
    "Usage: scimql plan [OPTIONS] --resource <RESOURCE> --tenant <TENANT>\n\n" ++
    "Options:\n" ++ optionLines ((optionsOf .plan).map OptionSpec.helpLine ++ [helpFlag])
  | .query =>
    "Execute a request against a SQLite database and print JSON\n\n" ++
    "Usage: scimql query [OPTIONS] --resource <RESOURCE> --tenant <TENANT>\n\n" ++
    "Options:\n" ++ optionLines ((optionsOf .query).map OptionSpec.helpLine ++ [helpFlag])

end ScimQuery.Cli
