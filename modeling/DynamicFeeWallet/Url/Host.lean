import DynamicFeeWallet.Url.Domain
import DynamicFeeWallet.Url.Error
import DynamicFeeWallet.Url.IPv4
import DynamicFeeWallet.Url.IPv6
import DynamicFeeWallet.Url.Percent

/-!
# Hosts

A host is a name or an address. In a URL of a special scheme a name is a domain name, and one that ends in a number
has to be an IPv4 address; in other URLs a name is any text without certain characters.
-/

namespace DynamicFeeWallet

/-- A host. -/
inductive Host where
  /-- No host at all. -/
  | none
  /-- A name. -/
  | name (text : String)
  /-- An address of four bytes. -/
  | ipv4 (address : IPv4)
  /-- An address of eight units. -/
  | ipv6 (address : IPv6)
deriving DecidableEq

namespace Host

/-- The text of a host; an IPv6 address stands in brackets. -/
def render : Host → String
  | none => ""
  | name text => text
  | ipv4 address => address.render
  | ipv6 address => "[" ++ address.render ++ "]"

/-- Reads what starts with a bracket. -/
def parseBrackets (text : List Char) : Except UrlError Host :=
  match text.drop 1, text.getLast? with
  | inside, some ']' =>
    match IPv6.parse? inside.dropLast with
    | some address => .ok (ipv6 address)
    | Option.none => .error .badIPv6
  | _, _ => .error .badIPv6

/-- Reads the host of a special scheme. -/
def parseSpecial (text : List Char) : Except UrlError Host :=
  if text.head? = some '[' then parseBrackets text
  else
    match Domain.ofBytes? (Percent.decode (text.flatMap String.utf8EncodeChar)) with
    | Option.none => .error .badDomainName
    | some [] => .error .emptyHost
    | some domain =>
      if IPv4.endsInNumber domain then
        match IPv4.parse? domain with
        | some address => .ok (ipv4 address)
        | Option.none => .error .badIPv4
      else .ok (name (String.ofList domain))

/-- Characters that no host may hold. -/
def isForbidden (c : Char) : Bool :=
  ['\x00', '\t', '\n', '\r', ' ', '#', '/', ':', '<', '>', '?', '@', '[', '\\', ']', '^', '|'].contains c

/-- Reads the host of a scheme that is not special. -/
def parsePlain (text : List Char) : Except UrlError Host :=
  if text.head? = some '[' then parseBrackets text
  else if text.any isForbidden then .error .badHostCharacter
  else if text.isEmpty then .ok none
  else .ok (name (String.ofList (Percent.encode Percent.isControl text)))

end Host

end DynamicFeeWallet
