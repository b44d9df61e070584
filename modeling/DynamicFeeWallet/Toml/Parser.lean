import DynamicFeeWallet.Toml.Literal

/-!
# Reading settings documents

A document is a row of lines: headers, keys with values, comments. Values may go on over lines only within brackets
and within texts of three quotes. Arrays and tables nest less than 80 deep, and a path has less than 80 keys.
-/

namespace DynamicFeeWallet.Toml

/-- A blank within a line. -/
def isBlank (c : Char) : Bool := c == ' ' || c == '\t'

/-- What is left after the blanks in front. -/
def skipBlanks (input : List Char) : List Char := input.dropWhile isBlank

/-- What is left after the end of a line in front. -/
def afterNewline? : List Char → Option (List Char)
  | '\n' :: rest => some rest
  | '\r' :: '\n' :: rest => some rest
  | _ => none

/-- A character that may stand in a comment: any but control characters, a tab excepted. -/
def isPlain (c : Char) : Bool := c == '\t' || 0x20 ≤ c.toNat && c != '\x7f'

/-- What is left after a comment in front, if there is one. -/
def skipComment : List Char → List Char
  | '#' :: rest => rest.dropWhile isPlain
  | input => input

/-- What is left after the rest of a line that says nothing more. -/
def endOfLine? (input : List Char) : Option (List Char) :=
  match skipComment (skipBlanks input) with
  | [] => some []
  | rest => afterNewline? rest

/-- What is left after blanks, comments and ends of lines; `fuel` bounds the number of lines. -/
def skipFiller : Nat → List Char → List Char
  | 0, input => input
  | fuel + 1, input =>
    let rest := skipBlanks input
    match afterNewline? (skipComment rest) with
    | some rest => skipFiller fuel rest
    | none => rest

/-! ## Texts -/

/-- The character that hexadecimal digits number, and what is left after them. -/
def numbered? (count : Nat) (input : List Char) : Option (Char × List Char) :=
  let digits := input.take count
  if digits.length = count ∧ digits.all Hex.isDigit then
    let n := ofDigits 16 digits
    if n.isValidChar then some (Char.ofNat n, input.drop count) else none
  else none

/-- The character that is written after a backslash, and what is left after it. -/
def escaped? : List Char → Option (Char × List Char)
  | 'b' :: rest => some ('\x08', rest)
  | 't' :: rest => some ('\t', rest)
  | 'n' :: rest => some ('\n', rest)
  | 'f' :: rest => some ('\x0c', rest)
  | 'r' :: rest => some ('\r', rest)
  | '"' :: rest => some ('"', rest)
  | '\\' :: rest => some ('\\', rest)
  | 'u' :: rest => numbered? 4 rest
  | 'U' :: rest => numbered? 8 rest
  | _ => none

/-- The rest of a text in double quotes, with the characters before it in reverse. -/
def readBasic : Nat → List Char → List Char → Option (String × List Char)
  | 0, _, _ => none
  | _, _, [] => none
  | _, seen, '"' :: rest => some (String.ofList seen.reverse, rest)
  | fuel + 1, seen, '\\' :: rest => do
    let (c, rest) ← escaped? rest
    readBasic fuel (c :: seen) rest
  | fuel + 1, seen, c :: rest => if isPlain c then readBasic fuel (c :: seen) rest else none

/-- The rest of a text in single quotes, where nothing is escaped. -/
def readRaw (input : List Char) : Option (String × List Char) :=
  match input.dropWhile fun c => isPlain c && c != '\'' with
  | '\'' :: rest => some (String.ofList (input.takeWhile fun c => isPlain c && c != '\''), rest)
  | _ => none

/-- Three quotes in front that end a text: up to two more before them belong to it. -/
def atClose? (quote : Char) (input : List Char) : Option (List Char × List Char) :=
  let run := min (input.takeWhile (· == quote)).length 5
  if 3 ≤ run then some (List.replicate (run - 3) quote, input.drop run) else none

/-- What is left after blanks and ends of lines. -/
def skipBlankLines : List Char → List Char
  | '\n' :: rest => skipBlankLines rest
  | '\r' :: '\n' :: rest => skipBlankLines rest
  | c :: rest => if isBlank c then skipBlankLines rest else c :: rest
  | [] => []

/-- What is left after a backslash that ends a line, and after all blanks and ends of lines that follow. -/
def afterLineEscape? (input : List Char) : Option (List Char) := (afterNewline? (skipBlanks input)).map skipBlankLines

/-- The rest of a text in three quotes, with the characters before it in reverse. -/
def readLines (quote : Char) : Nat → List Char → List Char → Option (String × List Char)
  | 0, _, _ => none
  | _, _, [] => none
  | fuel + 1, seen, c :: rest =>
    match atClose? quote (c :: rest) with
    | some (last, rest) => some (String.ofList (seen.reverse ++ last), rest)
    | none =>
      if c = '\\' ∧ quote = '"' then
        match afterLineEscape? rest with
        | some rest => readLines quote fuel seen rest
        | none => do
          let (c, rest) ← escaped? rest
          readLines quote fuel (c :: seen) rest
      else
        match afterNewline? (c :: rest) with
        | some rest => readLines quote fuel ('\n' :: seen) rest
        | none => if isPlain c then readLines quote fuel (c :: seen) rest else none

/-- What is left after an end of a line right after the opening quotes. -/
def skipFirstNewline (input : List Char) : List Char := (afterNewline? input).getD input

/-- The text in front. -/
def readText : List Char → Option (String × List Char)
  | '"' :: '"' :: '"' :: rest => readLines '"' (rest.length + 1) [] (skipFirstNewline rest)
  | '\'' :: '\'' :: '\'' :: rest => readLines '\'' (rest.length + 1) [] (skipFirstNewline rest)
  | '"' :: rest => readBasic (rest.length + 1) [] rest
  | '\'' :: rest => readRaw rest
  | _ => none

/-! ## Keys and values -/

/-- A character of a key without quotes. -/
def isKeyChar (c : Char) : Bool := c.isAlphanum || c == '_' || c == '-'

/-- The key in front. -/
def readKey (input : List Char) : Option (String × List Char) :=
  match input with
  | '"' :: rest => readBasic (rest.length + 1) [] rest
  | '\'' :: rest => readRaw rest
  | _ =>
    let key := input.takeWhile isKeyChar
    if key.isEmpty then none else some (String.ofList key, input.dropWhile isKeyChar)

/-- The keys in front with points between them: the path and the last one. -/
def readPath : Nat → List Char → Option (List String × String × List Char)
  | 0, _ => none
  | fuel + 1, input => do
    let (key, rest) ← readKey (skipBlanks input)
    match skipBlanks rest with
    | '.' :: rest =>
      let (path, last, rest) ← readPath fuel rest
      return (key :: path, last, rest)
    | rest => return ([], key, rest)

/-- How deep values may nest, and how many keys a path may have, is below this. -/
def depthLimit : Nat := 80

/-- A character of a literal. -/
def isLiteralChar (c : Char) : Bool := isKeyChar c || c == '+' || c == '.' || c == ':'

/-- The literal in front; a date and a time may have a blank between them. -/
def readLiteral (input : List Char) : Option (Toml × List Char) := do
  let literal := input.takeWhile isLiteralChar
  let rest := input.dropWhile isLiteralChar
  match rest with
  | ' ' :: after =>
    let time := after.takeWhile isLiteralChar
    if isDate literal && isZonedTime time then
      return (.date (String.ofList (literal ++ ' ' :: time)), after.dropWhile isLiteralChar)
    else return (← ofLiteral? literal, rest)
  | _ => return (← ofLiteral? literal, rest)

mutual

/-- The value in front; `fuel` bounds the values still to come, `depth` how deep they may nest. -/
def readValue : Nat → Nat → List Char → Option (Toml × List Char)
  | 0, _, _ => none
  | fuel + 1, depth, input =>
    match input with
    | '"' :: _ => (readText input).map fun (s, rest) => (.text s, rest)
    | '\'' :: _ => (readText input).map fun (s, rest) => (.text s, rest)
    | '[' :: rest =>
      if depth ≤ 1 then none
      else (readItems fuel (depth - 1) rest).map fun (items, rest) => (.array items, rest)
    | '\x7b' :: rest =>
      if depth ≤ 1 then none
      else
        match skipBlanks rest with
        | '\x7d' :: rest => some (.table .closed [], rest)
        | rest => (readEntries fuel (depth - 1) [] rest).map fun (entries, rest) => (.table .closed entries, rest)
    | _ => readLiteral input

/-- The items in front, up to the closing bracket; a comma may follow the last one. -/
def readItems : Nat → Nat → List Char → Option (List Toml × List Char)
  | 0, _, _ => none
  | fuel + 1, depth, input =>
    match skipFiller input.length input with
    | ']' :: rest => some ([], rest)
    | input => do
      let (item, rest) ← readValue fuel depth input
      match skipFiller rest.length rest with
      | ',' :: rest =>
        let (items, rest) ← readItems fuel depth rest
        return (item :: items, rest)
      | ']' :: rest => return ([item], rest)
      | _ => none

/-- The entries in front, at least one more, up to the closing brace. -/
def readEntries : Nat → Nat → Entries → List Char → Option (Entries × List Char)
  | 0, _, _, _ => none
  | fuel + 1, depth, entries, input => do
    let (path, key, rest) ← readPath (depthLimit - 1) input
    match rest with
    | '=' :: rest =>
      let (value, rest) ← readValue fuel depth (skipBlanks rest)
      let entries ← define path key value .stated entries
      match skipBlanks rest with
      | ',' :: rest => readEntries fuel depth entries rest
      | '\x7d' :: rest => return (entries, rest)
      | _ => none
    | _ => none

end

/-! ## Lines -/

/-- Takes in a key and its value. -/
def readDefinition (d : Draft) (input : List Char) : Option (Draft × List Char) := do
  let (path, key, rest) ← readPath (depthLimit - 1) input
  match rest with
  | '=' :: rest =>
    let (value, rest) ← readValue (2 * rest.length + 2) depthLimit (skipBlanks rest)
    let rest ← endOfLine? rest
    return (← d.define path key value, rest)
  | _ => none

/-- Takes in a header. -/
def readHeader (d : Draft) (input : List Char) : Option (Draft × List Char) := do
  match input with
  | '[' :: rest =>
    let (path, key, rest) ← readPath (depthLimit - 1) rest
    match rest with
    | ']' :: ']' :: rest =>
      let rest ← endOfLine? rest
      return (← d.openRow path key, rest)
    | _ => none
  | rest =>
    let (path, key, rest) ← readPath (depthLimit - 1) rest
    match rest with
    | ']' :: rest =>
      let rest ← endOfLine? rest
      return (← d.openTable path key, rest)
    | _ => none

/-- Takes in the lines that are left; `fuel` bounds their number. -/
def readAll : Nat → Draft → List Char → Option Entries
  | 0, _, _ => none
  | fuel + 1, d, input =>
    match skipBlanks input with
    | [] => d.close
    | '[' :: rest => do
      let (d, rest) ← readHeader d rest
      readAll fuel d rest
    | rest =>
      match endOfLine? rest with
      | some rest => readAll fuel d rest
      | none => do
        let (d, rest) ← readDefinition d rest
        readAll fuel d rest

/-- The document that a text writes; a mark of the byte order may stand in front. -/
def parse? (document : String) : Option Toml :=
  let input := match document.toList with
    | '\ufeff' :: rest => rest
    | all => all
  (readAll (input.length + 1) {} input).map (.table .stated)

end DynamicFeeWallet.Toml
