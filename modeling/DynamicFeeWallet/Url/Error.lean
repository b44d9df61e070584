/-!
# Why a text is no URL
-/

namespace DynamicFeeWallet

/-- Why a text is no URL. -/
inductive UrlError where
  /-- The text has no scheme and there is nothing that it could be relative to. -/
  | relative
  /-- The scheme asks for a host and there is none. -/
  | emptyHost
  /-- The number after the host is no number or too large. -/
  | badPortNumber
  /-- The host ends in a number and is no address of four bytes. -/
  | badIPv4
  /-- The host in brackets is no address of eight units. -/
  | badIPv6
  /-- The host is no domain name. -/
  | badDomainName
  /-- The host holds a character that no host may hold. -/
  | badHostCharacter
deriving DecidableEq

/-- What is said of a text that is no URL. -/
def UrlError.message : UrlError → String
  | .relative => "relative URL without a base"
  | .emptyHost => "empty host"
  | .badPortNumber => "invalid port number"
  | .badIPv4 => "invalid IPv4 address"
  | .badIPv6 => "invalid IPv6 address"
  | .badDomainName => "invalid international domain name"
  | .badHostCharacter => "invalid domain character"

end DynamicFeeWallet
