import DynamicFeeWallet.Json.Basic

/-!
# The text of a document

Documents are written without blanks, members in their order. In a text the quote, the backslash and the control
characters below the blank are escaped; everything else stands for itself.
-/

namespace DynamicFeeWallet.Json

/-- A character as it stands in a text. -/
def escapedChar (c : Char) : List Char :=
  if c = '"' then ['\\', '"']
  else if c = '\\' then ['\\', '\\']
  else if c = '\n' then ['\\', 'n']
  else if c = '\t' then ['\\', 't']
  else if c = '\r' then ['\\', 'r']
  else if c = '\x08' then ['\\', 'b']
  else if c = '\x0c' then ['\\', 'f']
  else if c.toNat < 0x20 then
    ['\\', 'u', '0', '0', Nat.digitChar (c.toNat / 16), Nat.digitChar (c.toNat % 16)]
  else [c]

/-- A text between its quotes. -/
def renderText (s : String) : List Char := '"' :: s.toList.flatMap escapedChar ++ ['"']

mutual

/-- The characters of a document. -/
def renderChars : Json → List Char
  | .null => "null".toList
  | .bool true => "true".toList
  | .bool false => "false".toList
  | .number n => n.render.toList
  | .text s => renderText s
  | .array items => '[' :: renderItems items
  | .members fields => '\x7b' :: renderMembers fields

/-- The items of an array, up to its closing bracket. -/
def renderItems : List Json → List Char
  | [] => [']']
  | [j] => renderChars j ++ [']']
  | j :: rest => renderChars j ++ ',' :: renderItems rest

/-- The members of an object, up to its closing brace. -/
def renderMembers : List (String × Json) → List Char
  | [] => ['\x7d']
  | [(name, j)] => renderText name ++ ':' :: renderChars j ++ ['\x7d']
  | (name, j) :: rest => renderText name ++ ':' :: renderChars j ++ ',' :: renderMembers rest

end

/-- The text of a document. -/
def render (j : Json) : String := String.ofList j.renderChars

/-- A document is written without blanks. -/
instance : ToString Json where
  toString := render

end DynamicFeeWallet.Json
