/-!
# Why a text is no URL
-/
namespace ImageBot.Url

/-- A reason to refuse a URL. -/
inductive Fault
  | emptyHost
  | internationalName
  | invalidPort
  | invalidIpv4
  | invalidIpv6
  | invalidDomainCharacter
  | relativeWithoutBase
  | noHierarchy
  | tooLong
  deriving Repr, DecidableEq

/-- The wording of a reason. -/
def Fault.message : Fault → String
  | emptyHost => "empty host"
  | internationalName => "invalid international domain name"
  | invalidPort => "invalid port number"
  | invalidIpv4 => "invalid IPv4 address"
  | invalidIpv6 => "invalid IPv6 address"
  | invalidDomainCharacter => "invalid domain character"
  | relativeWithoutBase => "relative URL without a base"
  | noHierarchy => "relative URL with a cannot-be-a-base base"
  | tooLong => "URLs more than 4 GB are not supported"

end ImageBot.Url
