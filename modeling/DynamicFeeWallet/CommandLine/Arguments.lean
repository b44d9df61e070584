import DynamicFeeWallet.FeeLevel
import DynamicFeeWallet.Wallet.Basic

/-!
# The arguments of the command line

A command and its options. Options that every command knows may stand before the command or after it, and the one
after it counts. A value follows its option after an equals sign or as the next argument, which then does not start
with a hyphen unless it is one; two hyphens end the options. No option may be given twice in one place.
-/

namespace DynamicFeeWallet.CommandLine

/-- What the value of an option has to be. -/
inductive ValueKind where
  /-- Any text. -/
  | text
  /-- The path of a file. -/
  | path
  /-- A number of 64 bits. -/
  | number
  /-- A fee level. -/
  | feeLevel
deriving DecidableEq

/-- An option. -/
structure OptionSpec where
  /-- The name after two hyphens. -/
  name : String
  /-- The letter after one hyphen. -/
  letter : Option Char := none
  /-- What its value has to be; there is none for an option that is only given or not. -/
  kind : Option ValueKind := some .text
  /-- The value when it is not given. -/
  fallback : Option String := none
  /-- What it is for. -/
  about : String := ""

/-- A command. -/
structure CommandSpec where
  /-- The name. -/
  name : String
  /-- What it does. -/
  about : String
  /-- The names of its words. -/
  words : List String := []
  /-- The options that only this command knows. -/
  options : List OptionSpec := []

/-- The options that every command knows. -/
def sharedOptions : List OptionSpec :=
  [{ name := "config", letter := some 'c', kind := some .path, about := "TOML configuration file" },
    { name := "rpc-url", about := "Override the configured RPC endpoint" },
    { name := "chain-id", kind := some .number, about := "Override the configured chain id" }]

/-- The options of a transfer. -/
def transferOptions : List OptionSpec :=
  [{ name := "to", about := "Destination; omit for contract creation" },
    { name := "value", fallback := some "0", about := "Amount in wei (decimal or 0x-hex)" },
    { name := "data", about := "Call data as hex" },
    { name := "fee-level", kind := some .feeLevel, fallback := some "medium" },
    { name := "dry-run", kind := none, about := "Print the signed encoding without submitting" },
    { name := "wait", kind := some .number, about := "Seconds to wait for a receipt after submitting" }]

/-- The commands, in the order in which they are shown. -/
def commands : List CommandSpec :=
  [{ name := "new-account"
     about := "Generate an account, optionally from a BIP-39 phrase"
     options := [{ name := "name", fallback := some "default" }, { name := "seed" }] },
    { name := "balance", about := "Query the balance of an address", words := ["ADDRESS"] },
    { name := "sign-message", about := "Sign a message with the key in WALLET_PRIVATE_KEY", words := ["MESSAGE"] },
    { name := "recover", about := "Recover the signer of a message", words := ["MESSAGE", "SIGNATURE"] },
    { name := "decode", about := "Decode a signed transaction", words := ["ENCODED"] },
    { name := "transfer"
      about := "Build, price, sign and submit a transaction from WALLET_PRIVATE_KEY"
      options := transferOptions },
    { name := "drop", about := "Drop a pending transaction (development nodes)", words := ["HASH"] }]

/-- The number of 64 bits that a text writes in decimal; a plus may stand before it. -/
def number? (text : String) : Option UInt64 :=
  let digits := match text.toList with
    | '+' :: rest => rest
    | all => all
  if digits.isEmpty || !digits.all Char.isDigit then none
  else
    let n := Nat.ofDigitChars 10 digits 0
    if n < UInt64.size then some (UInt64.ofNat n) else none

/-- The text is a value of the kind. -/
def ValueKind.accepts : ValueKind → String → Bool
  | text, _ => true
  | path, s => !s.isEmpty
  | number, s => (number? s).isSome
  | feeLevel, s => (FeeLevel.ofText? s).isSome

/-- Why the arguments name no command to carry out. -/
inductive Ending where
  /-- Help is asked for, about everything or about one command. -/
  | help (topic : Option String)
  /-- They are not as they have to be. -/
  | misuse
deriving DecidableEq

/-- What was given: options with their values, and words. -/
structure Given where
  (options : List (String × String) := []) (words : List String := [])

/-- The value of an option. -/
def Given.value? (g : Given) (name : String) : Option String := g.options.lookup name

/-- One place where options may stand: all of the program, or one command. -/
structure Place where
  /-- The options. -/
  options : List OptionSpec
  /-- How many words there may be. -/
  words : Nat
  /-- The names of commands that may follow. -/
  commands : List String
  /-- The command whose place it is. -/
  topic : Option String

/-- Takes in the value of an option. -/
def Given.take (g : Given) (option : OptionSpec) (value : String) : Except Ending Given :=
  if (g.value? option.name).isSome then .error .misuse
  else if (option.kind.map (·.accepts value)).getD true then .ok { g with options := (option.name, value) :: g.options }
  else .error .misuse

/-- An argument that can be a value: it does not start with a hyphen, unless it is one. -/
def isValue (argument : String) : Bool := argument.toList.head? != some '-' || argument == "-"

/-- What an argument looks like. -/
inductive Token where
  /-- It ends the options. -/
  | ending
  /-- It names an option, with its value or without. -/
  | long (name : String) (value : Option String)
  /-- It gives the letter of an option, and what follows the letter. -/
  | short (letter : Char) (text : List Char)
  /-- It is anything else. -/
  | word
deriving DecidableEq

/-- What an argument looks like. -/
def Token.of (argument : String) : Token :=
  match argument.toList with
  | ['-', '-'] => ending
  | '-' :: '-' :: text =>
    match text.dropWhile (· != '=') with
    | [] => long (String.ofList text) none
    | _ :: value => long (String.ofList (text.takeWhile (· != '='))) (some (String.ofList value))
  | '-' :: letter :: text => short letter text
  | _ => word

/-- The argument asks for help. -/
def Token.asksHelp : Token → Bool
  | long name value => name == "help" && value.isNone
  | short letter _ => letter == 'h'
  | _ => false

/-- The option that an argument names in a place, and the value that is attached to it. -/
def Place.option? (place : Place) : Token → Option (OptionSpec × Option String)
  | .long name value => do return (← place.options.find? (·.name == name), value)
  | .short letter text => do
    let option ← place.options.find? (·.letter == some letter)
    match text with
    | [] => return (option, none)
    | '=' :: value => return (option, some (String.ofList value))
    | value => return (option, some (String.ofList value))
  | _ => none

/-- Takes in a word. -/
def Place.takeWord (place : Place) (g : Given) (word : String) : Except Ending Given :=
  if g.words.length < place.words then .ok { g with words := g.words ++ [word] } else .error .misuse

/-- Takes in the arguments of a place, up to a command with what follows it; after the end of the options all are
words. -/
def Place.scan (place : Place) : Bool → Given → List String → Except Ending (Given × Option (String × List String))
  | _, g, [] => .ok (g, none)
  | true, g, argument :: rest => do place.scan true (← place.takeWord g argument) rest
  | false, g, argument :: rest =>
    if place.commands.contains argument then .ok (g, some (argument, rest))
    else
      match Token.of argument with
      | .ending => place.scan true g rest
      | .word => do place.scan false (← place.takeWord g argument) rest
      | token =>
        if token.asksHelp then .error (.help place.topic)
        else
          match place.option? token with
          | none => .error .misuse
          | some (option, attached) =>
            match option.kind, attached, rest with
            | none, none, rest => do place.scan false (← g.take option "") rest
            | some _, some value, rest => do place.scan false (← g.take option value) rest
            | some _, none, value :: rest =>
              if isValue value then do place.scan false (← g.take option value) rest else .error .misuse
            | _, _, _ => .error .misuse

/-- The place before the command. -/
def front : Place := ⟨sharedOptions, 0, commands.map (·.name) ++ ["help"], none⟩

/-- The place after a command. -/
def CommandSpec.place (c : CommandSpec) : Place := ⟨c.options ++ sharedOptions, c.words.length, [], some c.name⟩

/-- What help is asked for after the word for it. -/
def helpTopic : List String → Ending
  | [] => .help none
  | [topic] => if front.commands.contains topic then .help (some topic) else .misuse
  | _ => .misuse

/-- The command with what was given before it and after it. -/
def scanAll (arguments : List String) : Except Ending (CommandSpec × Given × Given) := do
  match ← front.scan false {} arguments with
  | (_, none) => throw .misuse
  | (before, some (name, rest)) =>
    match commands.find? (·.name == name) with
    | none => throw (helpTopic rest)
    | some command => return (command, before, (← command.place.scan false {} rest).1)

end DynamicFeeWallet.CommandLine
