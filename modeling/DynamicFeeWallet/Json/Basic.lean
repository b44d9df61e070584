import DynamicFeeWallet.Json.Number

/-!
# Documents

JSON values. The members of an object stand in the order of their names, one member to a name: `Json.insert` keeps
that order, and `Json.object` puts any list of members into it, the last one of a name winning.
-/

namespace DynamicFeeWallet

/-- A JSON value. -/
inductive Json where
  /-- The value `null`. -/
  | null
  /-- A truth value. -/
  | bool (b : Bool)
  /-- A number. -/
  | number (n : Number)
  /-- A text. -/
  | text (s : String)
  /-- A row of values. -/
  | array (items : List Json)
  /-- Named values, in the order of their names. -/
  | members (fields : List (String × Json))

/-- Named values, in the order of their names. -/
abbrev Members := List (String × Json)

namespace Members

/-- The value of a name. -/
def get? (fields : Members) (name : String) : Option Json := List.lookup name fields

/-- The members with one more, in place of the one of the same name if there is one. -/
def insert (name : String) (value : Json) : Members → Members
  | [] => [(name, value)]
  | (n, v) :: rest =>
    if n = name then (name, value) :: rest
    else if name < n then (name, value) :: (n, v) :: rest
    else (n, v) :: insert name value rest

/-- The members in the order of their names, the last one of a name. -/
def ofList (fields : List (String × Json)) : Members := fields.foldl (fun m (name, value) => insert name value m) []

end Members

namespace Json

/-- The object with these members, given in any order. -/
def object (fields : List (String × Json)) : Json := .members (Members.ofList fields)

/-- A whole number. -/
def natural (n : UInt64) : Json := .number (.natural n)

/-- The member of an object; there is none in other values. -/
def get? (j : Json) (name : String) : Option Json :=
  match j with
  | .members fields => Members.get? fields name
  | _ => none

/-- The member of an object, `null` when there is none. -/
def getD (j : Json) (name : String) : Json := (j.get? name).getD .null

/-- The text, if the value is one. -/
def asText? : Json → Option String
  | .text s => some s
  | _ => none

/-- The items, if the value is an array. -/
def asArray? : Json → Option (List Json)
  | .array items => some items
  | _ => none

/-- The value is `null`. -/
def isNull : Json → Bool
  | .null => true
  | _ => false

end Json

end DynamicFeeWallet
