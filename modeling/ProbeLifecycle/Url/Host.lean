import ProbeLifecycle.Url.Domain
import ProbeLifecycle.Url.Ipv4
import ProbeLifecycle.Url.Ipv6

/-!
# Hosts

The host of a web address is an IPv6 address between brackets, an IPv4 address
or a domain.  Domains are percent-decoded and brought to their ASCII form; some
characters never occur in that, and its encoded labels have to be fit for a name.
Addresses of other kinds have opaque hosts, which are only checked.
-/

namespace ProbeLifecycle.Host

open Text

/-- The characters, besides controls, that no host may contain. -/
def forbiddenChars : List Char :=
  [' ', '#', '/', ':', '<', '>', '?', '@', '[', '\\', ']', '^', '|']

/-- Whether a character may occur in the ASCII form of a domain. -/
def isDomainChar (char : Char) : Bool :=
  0x20 < char.toNat && char.toNat < 0x7F && !char.isUpper && char != '%' &&
    !forbiddenChars.contains char

/-- Reads what stands between brackets, given the text after the first. -/
def readBracketed (chars : List Char) : Except UrlError String :=
  if chars.getLast? = some ']' then Ipv6.read chars.dropLast
  else .error .invalidIpv6

def readDomain (chars : List Char) : Except UrlError String :=
  match decodeUtf8? (percentDecode chars) with
  | none => .error .invalidDomain
  | some domain =>
      let domain := Domain.asciiForm domain
      if !domain.all isDomainChar || !Domain.isFit domain then .error .invalidDomain
      else if domain.isEmpty then .error .emptyHost
      else if Ipv4.endsInNumber domain then Ipv4.read domain
      else .ok (.ofList domain)

def read : List Char → Except UrlError String
  | '[' :: chars => readBracketed chars
  | chars => readDomain chars

def isForbiddenInOpaque (char : Char) : Bool :=
  char == '\x00' || forbiddenChars.contains char

def readOpaque : List Char → Except UrlError String
  | '[' :: chars => readBracketed chars
  | chars =>
      if chars.any isForbiddenInOpaque then .error .invalidDomainCharacter
      else .ok (.ofList chars)

end ProbeLifecycle.Host
