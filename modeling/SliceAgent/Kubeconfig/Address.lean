import SliceAgent.Web.Url
import SliceAgent.Decimal.Basic

/-!
# Addresses in a configuration

A token that has expired is renewed by its issuer, who tells under a path of its URL how that is
done. Nobody is asked here: `Issuer.check` tells what is wrong with the URL before anything is sent.

A cluster may be reached through a proxy, which is given by a URL. `Proxy.check` tells what is wrong
with that URL when the connection is made. Variables of the environment may give the URL. A server
whose URL names no host is not reached through any proxy, nor one whose host is exempt
(`Proxy.isBypassed`). Variables of the environment list the hosts that are exempt.

An entry of the list exempts the hosts that it is the end of. Addresses of four numbers are compared
with entries as a whole, or lie in the network that an entry names. The list is looked at once more
for all hosts alike: then an entry exempts the host of its name and those that belong to it, and a
list of one asterisk exempts every host.
-/

namespace SliceAgent.Issuer

/-! ### Issuers -/

open Text (CodeText)

/-- Why an issuer cannot be asked. -/
inductive Fault where
  /-- The URL of the issuer is none. -/
  | url (fault : Web.UrlFault)
  /-- The URL has no host. -/
  | noHost
  /-- The scheme of the URL is of no kind that is known. -/
  | scheme (name : String)
  deriving DecidableEq, Repr

/-- The wording of a fault. -/
def Fault.message : Fault → String
  | .url f => f.message
  | .noHost => "No host specified."
  | .scheme name => s!"Not supported URL scheme {name}"

/-- The path under which an issuer tells about itself. -/
def aboutPath : String := "/.well-known/openid-configuration"

/-- Checks the URL of an issuer. -/
def check (issuer : CodeText) : Except Fault Unit := do
  let url ← (Web.Url.read (issuer ++ CodeText.ofString aboutPath)).mapError .url
  if (url.host.getD []).isEmpty then throw .noHost
  if let some name := url.scheme then
    if !Web.isNamedScheme url.scheme then throw (.scheme name)

end SliceAgent.Issuer

namespace SliceAgent.Proxy

/-! ### Proxies -/

open Text (CodeText)

/-- Why a proxy is not used. -/
inductive Fault where
  /-- Proxies of this kind need a library. -/
  | noLibrary
  /-- The scheme of the URL, if it has one, is of no kind that is known. -/
  | scheme (name : Option String)
  /-- The URL of the proxy is none. -/
  | url (fault : Web.UrlFault)
  /-- The URL of the server is none. -/
  | server (fault : Web.PlaceFault)
  deriving DecidableEq, Repr

/-- The wording of a fault. -/
def Fault.message : Fault → String
  | .noLibrary => "No module named 'socks'"
  | .scheme none => "Proxy URL had no scheme, should start with http:// or https://"
  | .scheme (some name) =>
    s!"Proxy URL had unsupported scheme {name}, should use http:// or https://"
  | .url f => f.message
  | .server f => f.message

/-- The schemes of proxies that need a library. -/
def libraryScheme (url : CodeText) : Bool :=
  let name := url.takeWhile (· != .char ':')
  ["socks5", "socks5h", "socks4", "socks4a"].contains (Web.small name) &&
    (CodeText.ofString "://").isPrefixOf (url.drop name.length)

/-- Checks the URL of a proxy. -/
def check (text : CodeText) : Except Fault Unit := do
  if libraryScheme text then throw .noLibrary
  let url ← (Web.Url.read text).mapError .url
  if url.scheme != some "http" && url.scheme != some "https" then
    -- A host without a scheme and with a port looks like a scheme.
    throw (.scheme (url.scheme.filter (· != "localhost")))

/-! ### Variables -/

/-- The variables that give the URL of a proxy. -/
def urlVariables : List String := ["HTTPS_PROXY", "https_proxy", "HTTP_PROXY", "http_proxy"]

/-- The value of the last of some variables that is not empty. -/
def lastValue? (environment : List (String × String)) (names : List String) : Option String :=
  ((names.filterMap fun name => environment.lookup name).filter (· != "")).getLast?

/-- The variables that list the hosts that are exempt. -/
def exemptVariables : List String := ["NO_PROXY", "no_proxy"]

/-! ### Networks -/

/-- The bits of an address. -/
def addressBits : Nat := 32

/-- A network: the addresses that agree with one in their first bits. -/
structure Network where
  address : Nat
  bits : Nat
  deriving DecidableEq, Repr

namespace Network

/-- Whether an address lies in a network. -/
def holds (n : Network) (address : Nat) : Bool :=
  let size := Nat.pow 2 (addressBits - n.bits)
  address / size == n.address / size

/-- The network that an entry names: an address, a slash and a number of bits. -/
def ofEntry? (entry : List Char) : Option Network :=
  match Text.parts '/' entry with
  | [address, bits] => do
    let n ← Numeral.int? 10 bits
    if n < 1 ∨ addressBits < n then none
    else some ⟨← Web.addressNumber? (.ofChars address), n.toNat⟩
  | _ => none

/-- A network holds the address that it is named by. -/
theorem holds_address (n : Network) : n.holds n.address = true := by
  simp [holds]

end Network

/-! ### Entries -/

/-- The entries of a list, without spaces. -/
def entries (exempt : String) : List CodeText :=
  ((Text.parts ',' (exempt.toList.filter (· != ' '))).filter (!·.isEmpty)).map .ofChars

/-- Whether an entry exempts an address, which stands for a number. -/
def exemptsAddress (address : CodeText) (number : Nat) (entry : CodeText) : Bool :=
  match entry.characters?.bind Network.ofEntry? with
  | some network => network.holds number
  | none => entry == address

/-- A name with its port, which does not count if it is zero. -/
def withPort (name : CodeText) (port : Option Nat) : CodeText :=
  match port with
  | none | some 0 => name
  | some n => name ++ .char ':' :: CodeText.ofString (toString n)

/-- What stands in front of a port at the end of a name. -/
def withoutPort (name : CodeText) : CodeText :=
  let backward := name.reverse
  let digits := backward.takeWhile (·.satisfies Char.isDigit)
  match digits, backward.drop digits.length with
  | _ :: _, .char ':' :: r => r.reverse
  | _, _ => name

/-- The entry that exempts all hosts. -/
def everyHost : String := "*"

/-- Whether a name is that of an entry or belongs to it. Points in front of an entry do not
count. -/
def belongsTo (name entry : CodeText) : Bool :=
  name == entry || (.char '.' :: entry).isSuffixOf name

/-- Whether a list exempts a host by its name. -/
def exemptsName (exempt : String) (name : CodeText) : Bool :=
  let name := Text.lowercase name
  let listed := (Text.parts ',' exempt.toList).map (Text.dropEnds Text.isBlank)
  exempt == everyHost || (listed.filter (!·.isEmpty)).any fun cs =>
    let entry := Text.lowercase (.ofChars (cs.dropWhile (· == '.')))
    belongsTo name entry || belongsTo (withoutPort name) entry

/-! ### Servers -/

/-- Whether a server is reached without a proxy: its URL names no host, or one that is exempt. -/
def isBypassed (exempt : String) (server : CodeText) : Except Web.PlaceFault Bool := do
  match ← Web.namedHost? server with
  | none => return true
  | some host =>
    if exempt = "" then return false
    let name := host.smallName
    if name.contains (.char (Char.ofNat 0)) then throw .nullCharacter
    let isListed ← match Web.addressNumber? name with
      | some number => pure ((entries exempt).any (exemptsAddress name number))
      | none =>
        let full := withPort name (← host.portNumber?)
        pure ((entries exempt).any fun entry => entry.isSuffixOf name || entry.isSuffixOf full)
    return isListed || exemptsName exempt name

end SliceAgent.Proxy
