import DynamicFeeWallet.CommandLine.Arguments

/-!
# Help

The text that tells how the program is called: what it does, its usage, and its commands, words and options in two
columns.
-/

namespace DynamicFeeWallet.CommandLine

/-- The name of the program. -/
def programName : String := "eth-wallet"

/-- What the program does. -/
def programAbout : String := "Build, price, sign and submit EIP-1559 transactions"

/-- Lines of two columns; the second one starts two blanks after the longest text of the first. -/
def columns (rows : List (String × String)) : List String :=
  let width := (rows.map fun row => row.1.length).foldl max 0
  rows.map fun (left, right) => "  " ++ left ++ String.ofList (List.replicate (width - left.length) ' ') ++ "  " ++ right

/-- A part of the text under its heading. -/
def headed (heading : String) (rows : List (String × String)) : List String :=
  if rows.isEmpty then [] else ["", heading ++ ":"] ++ columns rows

/-- The name of an option as the name of its value. -/
def valueName (name : String) : String :=
  String.ofList (name.toList.map fun c => if c = '-' then '_' else c.toUpper)

/-- An option in two columns. -/
def OptionSpec.row (option : OptionSpec) : String × String :=
  let letter := match option.letter with
    | some c => String.ofList ['-', c, ',', ' ']
    | none => "    "
  let value := if option.kind.isSome then " <" ++ valueName option.name ++ ">" else ""
  let fallback := option.fallback.map fun value => "[default: " ++ value ++ "]"
  (letter ++ "--" ++ option.name ++ value,
    " ".intercalate ((if option.about.isEmpty then [] else [option.about]) ++ fallback.toList))

/-- The shared options and those of a command in turns; of two in the same turn the one of the lesser name is first. -/
def interleaved : List OptionSpec → List OptionSpec → List OptionSpec
  | shared :: moreShared, own :: moreOwn =>
    (if shared.name < own.name then [shared, own] else [own, shared]) ++ interleaved moreShared moreOwn
  | shared, [] => shared
  | [], own => own

/-- The options in two columns, the one for help last. -/
def optionRows (own : List OptionSpec) : List (String × String) :=
  (interleaved sharedOptions own).map OptionSpec.row ++ [("-h, --help", "Print help")]

/-- What is said of the command for help. -/
def helpAbout : String := "Print this message or the help of the given subcommand(s)"

/-- Help about everything. -/
def generalHelp : List String :=
  [programAbout, "", "Usage: " ++ programName ++ " [OPTIONS] <COMMAND>"] ++
    headed "Commands" (commands.map (fun c => (c.name, c.about)) ++ [("help", helpAbout)]) ++
    headed "Options" (optionRows [])

/-- Help about a command. -/
def CommandSpec.help (c : CommandSpec) : List String :=
  let words := c.words.map fun word => "<" ++ word ++ ">"
  [c.about, "", " ".intercalate (["Usage:", programName, c.name, "[OPTIONS]"] ++ words)] ++
    headed "Arguments" (words.map fun word => (word, "")) ++
    headed "Options" (optionRows c.options)

/-- Help about the command for help. -/
def helpHelp : List String :=
  [helpAbout, "", "Usage: " ++ programName ++ " help [COMMAND]..."] ++
    headed "Arguments" [("[COMMAND]...", "Print help for the subcommand(s)")]

/-- Help about a topic. -/
def help : Option String → List String
  | none => generalHelp
  | some topic =>
    match commands.find? (·.name == topic) with
    | some c => c.help
    | none => helpHelp

end DynamicFeeWallet.CommandLine
