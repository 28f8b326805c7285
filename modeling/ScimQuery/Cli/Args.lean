import ScimQuery.Sql.Dialect
import ScimQuery.Plan.SortKey
import ScimQuery.Decimal.Parse

/-! # Command-line arguments

The command line has three commands: `check`, `plan` and `query`, and `help` to show the
help of one. The options `--config` and `--catalog` may stand before or after the
command. `plan` and `query` describe a request with `--resource` and `--tenant`, which
are required, and `--filter`, `--sort-by`, `--sort-order`, `--start-index` and `--count`;
`plan` takes `--dialect` and `query` takes `--db`.

An option's value follows it, as the next argument or after `=`; a short option may also
carry it directly (`-rUser`). The next argument is not taken as a value when it looks
like an option, unless the option takes numbers and it is a negative number. An option
given twice, an unknown option, a stray argument, a value of the wrong kind, an empty
path and a missing required option are usage errors. `-h` or `--help` shows the help of
the command it follows and `-V` or `--version` the version; they end the reading at
once, as an error does.
-/

namespace ScimQuery.Cli

/-- The options that describe a request. -/
structure RequestOptions where
  resource : String
  tenant : String
  filter : Option String := none
  sortBy : Option String := none
  sortOrder : Option SortOrder := none
  startIndex : Int := 1
  count : Option Int := none
deriving Repr

/-- A command with its options. -/
inductive Command where
  | check
  | plan (request : RequestOptions) (dialect : Option Sql.Dialect)
  | query (request : RequestOptions) (database : Option String)
deriving Repr

/-- A run of the program as its arguments describe it. -/
structure Invocation where
  config : Option String := none
  catalog : Option String := none
  command : Command
deriving Repr

/-- The topics of the help. -/
inductive HelpTopic where
  | program
  | check
  | plan
  | query
  | help
deriving DecidableEq, Repr

/-- What the arguments ask for. -/
inductive Parsed where
  | run (inv : Invocation)
  | help (topic : HelpTopic)
  | version
  | usage (message : String)
deriving Repr

/-- The kinds of values options take. -/
inductive ValueKind where
  | text
  | path
  | integer
  | sortOrder
  | dialect
deriving DecidableEq, Repr

/-- An option: its long name, its short letter, the name of its value and the kind. -/
structure OptionSpec where
  long : String
  short : Option Char
  valueName : String
  kind : ValueKind

/-- `--config` and `--catalog`, which every command takes. -/
def globalOptions : List OptionSpec :=
  [⟨"config", none, "CONFIG", .path⟩, ⟨"catalog", none, "CATALOG", .path⟩]

/-- The options of a request. -/
def requestOptions : List OptionSpec :=
  [⟨"resource", some 'r', "RESOURCE", .text⟩, ⟨"tenant", some 't', "TENANT", .text⟩,
   ⟨"filter", some 'f', "FILTER", .text⟩, ⟨"sort-by", none, "SORT_BY", .text⟩,
   ⟨"sort-order", none, "SORT_ORDER", .sortOrder⟩,
   ⟨"start-index", none, "START_INDEX", .integer⟩, ⟨"count", none, "COUNT", .integer⟩]

/-- The options of a command. -/
def optionsOf : HelpTopic → List OptionSpec
  | .plan => requestOptions ++ [⟨"dialect", some 'd', "DIALECT", .dialect⟩] ++ globalOptions
  | .query => requestOptions ++ [⟨"db", none, "DB", .path⟩] ++ globalOptions
  | _ => globalOptions

/-- Reads a sort order as the command line names it. -/
def sortOrderArg? : String → Option SortOrder
  | "asc" => some .ascending
  | "desc" => some .descending
  | _ => none

/-- Whether a value is of its option's kind. -/
def ValueKind.accepts : ValueKind → String → Bool
  | .text, _ => true
  | .path, v => !v.isEmpty
  | .integer, v => (Decimal.parseInt64? v).isSome
  | .sortOrder, v => (sortOrderArg? v).isSome
  | .dialect, v => (Sql.Dialect.ofName? v).isSome

/-- Whether an argument reads as a number after a minus sign: digits, at most one point
after the first of them, and at most one `e` that is neither first nor last. -/
def isNegativeNumber (arg : String) : Bool :=
  match arg.toList with
  | '-' :: body =>
    let ePositions := (List.range body.length).filter fun i => body[i]? = some 'e'
    let dotPositions := (List.range body.length).filter fun i => body[i]? = some '.'
    body.all (fun c => c.isDigit || c = '.' || c = 'e') &&
      ePositions.length ≤ 1 && dotPositions.length ≤ 1 &&
      ePositions.all (fun i => 0 < i && i + 1 < body.length) &&
      dotPositions.all (fun i => 0 < i && ePositions.all (i < ·))
  | _ => false

/-- Whether the argument after an option may be its value. -/
def takesAsValue (spec : OptionSpec) (arg : String) : Bool :=
  if arg.startsWith "-" && arg.length > 1 then
    spec.kind = .integer && isNegativeNumber arg
  else true

/-- What reading the options of a command finds. -/
inductive Scan where
  | values (given : List (String × String))
  | help
  | version
  | fail (message : String)

/-- Records an option's value: refused when the option was given before or the value is
not of its kind. -/
def record (spec : OptionSpec) (value : String) (given : List (String × String)) :
    Except String (List (String × String)) :=
  if given.any (·.1 = spec.long) then
    .error ("the argument '--" ++ spec.long ++ " <" ++ spec.valueName ++ ">' cannot be used multiple times")
  else if !spec.kind.accepts value then
    .error ("invalid value '" ++ value ++ "' for '--" ++ spec.long ++ " <" ++ spec.valueName ++ ">'")
  else .ok (given ++ [(spec.long, value)])

/-- The message for an option without its value. -/
def missingValue (spec : OptionSpec) : String :=
  "a value is required for '--" ++ spec.long ++ " <" ++ spec.valueName ++ ">' but none was supplied"

/-- Splits `--name=value` into the name and the value after the first `=`. -/
def splitLong (body : String) : String × Option String :=
  match body.splitOn "=" with
  | [] => (body, none)
  | [name] => (name, none)
  | name :: rest => (name, some ("=".intercalate rest))

/-- Takes an option's value, attached to it or as the next argument, and says whether
the next argument was taken. -/
def takeValue (spec : OptionSpec) (attached : Option String) (rest : List String)
    (given : List (String × String)) : Except String (List (String × String) × Bool) :=
  match attached with
  | some v => (record spec v given).map (·, false)
  | none =>
    match rest with
    | v :: _ =>
      if takesAsValue spec v then (record spec v given).map (·, true) else .error (missingValue spec)
    | [] => .error (missingValue spec)

/-- The arguments left after a value, `taken` saying whether the next one was it. -/
def afterValue (rest : List String) (taken : Bool) : List String :=
  if taken then rest.drop 1 else rest

theorem afterValue_length_le (rest : List String) (taken : Bool) :
    (afterValue rest taken).length ≤ rest.length := by
  unfold afterValue
  split <;> simp

/-- What one argument among a command's options is: an option with the value attached to
it, if any, or an outcome that ends the reading. -/
def classify (specs : List OptionSpec) (version : Bool) (arg : String) :
    Except Scan (OptionSpec × Option String) :=
  let unexpected : Scan := .fail ("unexpected argument '" ++ arg ++ "' found")
  if arg.startsWith "--" then
    let (name, attached) := splitLong (arg.drop 2).toString
    if name = "help" && attached.isNone then .error .help
    else if name = "version" && version && attached.isNone then .error .version
    else
      match specs.find? (·.long = name) with
      | some spec => .ok (spec, attached)
      | none => .error unexpected
  else if arg.startsWith "-" && arg.length > 1 then
    match (arg.drop 1).toString.toList with
    | [] => .error unexpected
    | c :: tail =>
      if c = 'h' then .error .help
      else if c = 'V' then (if version then .error .version else .error unexpected)
      else
        match specs.find? (·.short = some c) with
        | some spec =>
          let attached := match tail with
            | [] => none
            | '=' :: v => some (String.ofList v)
            | v => some (String.ofList v)
          .ok (spec, attached)
        | none => .error unexpected
  else .error unexpected

/-- Reads the options of a command; `version` says whether `-V` is known. -/
def scan (specs : List OptionSpec) (version : Bool) :
    List String → List (String × String) → Scan
  | [], given => .values given
  | arg :: rest, given =>
    if arg = "--" then
      match rest with
      | [] => .values given
      | stray :: _ => .fail ("unexpected argument '" ++ stray ++ "' found")
    else
      match classify specs version arg with
      | .error outcome => outcome
      | .ok (spec, attached) =>
        match takeValue spec attached rest given with
        | .ok (g, taken) =>
          have := afterValue_length_le rest taken
          scan specs version (afterValue rest taken) g
        | .error m => .fail m
termination_by args => args.length

/-- The value of an option, when given. -/
def valueOf (given : List (String × String)) (name : String) : Option String :=
  (given.find? (·.1 = name)).map (·.2)

/-- The request options among the given ones; `--resource` and `--tenant` are required. -/
def requestOf (given : List (String × String)) : Except String RequestOptions := do
  let resource ← match valueOf given "resource" with
    | some r => pure r
    | none => throw "the following required arguments were not provided: --resource <RESOURCE>"
  let tenant ← match valueOf given "tenant" with
    | some t => pure t
    | none => throw "the following required arguments were not provided: --tenant <TENANT>"
  pure { resource, tenant,
         filter := valueOf given "filter",
         sortBy := valueOf given "sort-by",
         sortOrder := (valueOf given "sort-order").bind sortOrderArg?,
         startIndex := ((valueOf given "start-index").bind Decimal.parseInt64?).getD 1,
         count := (valueOf given "count").bind Decimal.parseInt64? }

/-- The command of a name. -/
def commandTopic? : String → Option HelpTopic
  | "check" => some .check
  | "plan" => some .plan
  | "query" => some .query
  | "help" => some .help
  | _ => none

/-- Reads the arguments after a command's name, with the global options given before it. -/
def commandArgs (topic : HelpTopic) (before : List (String × String)) (args : List String) : Parsed :=
  match topic with
  | .help =>
    match args with
    | [] => .help .program
    | [name] =>
      match commandTopic? name with
      | some t => .help t
      | none => .usage ("unrecognized subcommand '" ++ name ++ "'")
    | _ => .usage "unexpected argument"
  | _ =>
    match scan (optionsOf topic) false args [] with
    | .help => .help topic
    | .version => .version
    | .fail m => .usage m
    | .values given =>
      let clash := before.find? fun (k, _) => given.any (·.1 = k)
      match clash with
      | some (k, _) => .usage ("the argument '--" ++ k ++ "' cannot be used multiple times")
      | none =>
        let all := before ++ given
        let config := valueOf all "config"
        let catalog := valueOf all "catalog"
        let command : Except String Command := match topic with
          | .plan => do pure (.plan (← requestOf all) ((valueOf all "dialect").bind Sql.Dialect.ofName?))
          | .query => do pure (.query (← requestOf all) (valueOf all "db"))
          | _ => pure .check
        match command with
        | .ok c => .run { config, catalog, command := c }
        | .error m => .usage m

/-- Reads the arguments before the command's name. -/
def topLevel : List String → List (String × String) → Parsed
  | [], _ => .usage "a subcommand is required but one was not provided"
  | arg :: rest, given =>
    if arg = "-h" || arg = "--help" then .help .program
    else if arg = "-V" || arg = "--version" then .version
    else if arg.startsWith "-" && arg.length > 1 then
      let (name, attached) := splitLong (arg.drop 2).toString
      match globalOptions.find? (fun s => arg.startsWith "--" && s.long = name) with
      | none => .usage ("unexpected argument '" ++ arg ++ "' found")
      | some spec =>
        -- a command's name after an option is the command, not the option's value
        let next := if attached.isNone && (rest.head?.bind commandTopic?).isSome then [] else rest
        match takeValue spec attached next given with
        | .ok (g, taken) =>
          have := afterValue_length_le rest taken
          topLevel (afterValue rest taken) g
        | .error m => .usage m
    else
      match commandTopic? arg with
      | some topic => commandArgs topic given rest
      | none => .usage ("unrecognized subcommand '" ++ arg ++ "'")
termination_by args => args.length

/-- Reads the arguments of the program, its name left out. -/
def parseArgs (args : List String) : Parsed := topLevel args []

end ScimQuery.Cli
