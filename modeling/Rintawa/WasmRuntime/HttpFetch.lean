/-
# Bounded fetches

A component with the permission for it fetches a document over HTTPS. The host follows
redirects itself: for every URL it builds a client that is bound to one address, which a
filter has accepted, and sends one request. Parsing and joining of URLs, the resolution of
names and the answers of servers are all given from outside.
-/

import Rintawa.Lib.IpAddress
import Rintawa.Sdk.Contracts

namespace Rintawa.WasmRuntime

open Rintawa.Lib Rintawa.Sdk

/-! ## Destinations -/

/-- Whether an address is in the range for benchmarks. -/
def isBenchmarkingIpv4 (address : Ipv4Addr) : Bool :=
  address.a.toNat == 198 && (address.b.toNat == 18 || address.b.toNat == 19)

/-- Addresses that are not set aside for a purpose. -/
def isAllowedPublicIpv4 (address : Ipv4Addr) : Bool :=
  let a := address.a.toNat
  let b := address.b.toNat
  let c := address.c.toNat
  !(a == 0 || a == 10 || a == 127 ||
    (a == 100 && (decide (64 ≤ b) && decide (b ≤ 127))) ||
    (a == 169 && b == 254) ||
    (a == 172 && (decide (16 ≤ b) && decide (b ≤ 31))) ||
    (a == 192 && b == 168) ||
    (a == 192 && b == 0 && c == 0) ||
    (a == 192 && b == 0 && c == 2) ||
    (a == 198 && (b == 18 || b == 19)) ||
    (a == 198 && b == 51 && c == 100) ||
    (a == 203 && b == 0 && c == 113) ||
    decide (224 ≤ a))

/-- The segments of an address. -/
def segments (address : Ipv6Addr) : List UInt16 :=
  [address.s0, address.s1, address.s2, address.s3, address.s4, address.s5, address.s6, address.s7]

/-- The address with all bits zero. -/
def isUnspecified (address : Ipv6Addr) : Bool :=
  segments address == [0, 0, 0, 0, 0, 0, 0, 0]

/-- The address of the machine itself. -/
def isLoopback (address : Ipv6Addr) : Bool :=
  segments address == [0, 0, 0, 0, 0, 0, 0, 1]

/-- Addresses of groups. -/
def isMulticast (address : Ipv6Addr) : Bool :=
  address.s0 &&& 0xff00 == 0xff00

/-- Of the forms that embed an address of version 4, the mapped one is looked into. -/
def isAllowedPublicIpv6 (address : Ipv6Addr) : Bool :=
  if isUnspecified address || isLoopback address || isMulticast address then false
  else if address.s0 &&& 0xfe00 == 0xfc00 || address.s0 &&& 0xffc0 == 0xfe80 ||
      address.s0 &&& 0xffc0 == 0xfec0 || (address.s0 == 0x2001 && address.s1 == 0x0db8) then
    false
  else if (segments address).take 5 == [0, 0, 0, 0, 0] && address.s5 == 0xffff then
    isAllowedPublicIpv4 (Ipv6Addr.octets address.s6 address.s7)
  else true

/-- Addresses that may be fetched from. -/
def isAllowedPublicIp : IpAddr → Bool
  | .v4 address => isAllowedPublicIpv4 address
  | .v6 address => isAllowedPublicIpv6 address

/-- Names may also resolve into the range for benchmarks when the route to it starts
there. -/
def isAllowedDomainDestinationWithSource (destination : IpAddr) (routedSource : Option IpAddr) :
    Bool :=
  isAllowedPublicIp destination ||
    match destination, routedSource with
    | .v4 destination, some (.v4 source) =>
        isBenchmarkingIpv4 destination && isBenchmarkingIpv4 source
    | _, _ => false

/-! ## URLs, names and servers -/

/-- The host of a URL: a name or an address. -/
inductive UrlHost
  | domain (domain : String)
  | ipv4 (address : Ipv4Addr)
  | ipv6 (address : Ipv6Addr)
  deriving DecidableEq

/-- A parsed URL. -/
structure Url where
  scheme : String
  username : String
  password : Option String
  host : Option UrlHost
  portOrKnownDefault : Option Nat
  path : String
  deriving DecidableEq

/-- An answer of a server. A header may be there without being a text. The body is what
arrives, and whether it arrives completely. -/
structure HttpResponse where
  status : Nat
  location : Option (Option String)
  contentLength : Option Nat
  contentType : Option (Option String)
  body : List UInt8
  complete : Bool

/-- Why a request has no answer. -/
inductive HttpRequestError
  | timeout
  | other
  deriving DecidableEq

/-- What the world outside does in one round: the addresses of a name, the source of the
route to a destination, whether a client can be built, and the answer to the request. -/
structure HttpRound where
  toSocketAddrs : String → Nat → Option (List IpAddr)
  routedSourceIp : IpAddr → Option IpAddr
  builds : Bool
  send : Url → IpAddr → Except HttpRequestError HttpResponse

/-- URLs as they are parsed, joined and displayed, and the rounds of one fetch. -/
structure HttpWorld where
  parse : String → Option Url
  join : Url → String → Option Url
  display : Url → String
  round : Nat → HttpRound

/-- Why a fetch fails. -/
inductive HttpFetchError
  | accessNotActive
  | permissionDenied
  | invalidUrl
  | forbiddenDestination
  | tooManyRedirects
  | responseTooLarge
  | timeout
  | unavailable
  deriving DecidableEq, Repr

/-! ## The fetch -/

/-- A document with the URL that it came from. -/
structure WitHttpResponse where
  status : Nat
  finalUrl : String
  contentType : Option String
  body : List UInt8
  deriving DecidableEq

/-- What a name may resolve to in a round. -/
def isAllowedDomainDestination (round : HttpRound) (destination : IpAddr) : Bool :=
  let routedSource :=
    match destination with
    | .v4 address => if isBenchmarkingIpv4 address then round.routedSourceIp destination else none
    | .v6 _ => none
  isAllowedDomainDestinationWithSource destination routedSource

/-- The address that the client of a host is bound to. -/
def boundDestination (round : HttpRound) (port : Nat) : UrlHost → Except HttpFetchError IpAddr
  | .domain domain =>
      match round.toSocketAddrs domain port with
      | none => .error .unavailable
      | some addresses =>
          match addresses.find? (isAllowedDomainDestination round) with
          | none => .error .forbiddenDestination
          | some allowed => .ok allowed
  | .ipv4 address =>
      if isAllowedPublicIp (.v4 address) then .ok (.v4 address)
      else .error .forbiddenDestination
  | .ipv6 address =>
      if isAllowedPublicIp (.v6 address) then .ok (.v6 address)
      else .error .forbiddenDestination

/-- Build the client for one URL. What it connects to is the address that it is bound to. -/
def buildBoundedHttpsClient (round : HttpRound) (url : Url) : Except HttpFetchError IpAddr :=
  if url.scheme ≠ "https" ∨ url.username ≠ "" ∨ url.password.isSome then .error .invalidUrl
  else
    match url.host, url.portOrKnownDefault with
    | none, _ => .error .invalidUrl
    | some _, none => .error .invalidUrl
    | some host, some port =>
        match boundDestination round port host with
        | .error error => .error error
        | .ok destination => if round.builds then .ok destination else .error .unavailable

/-- The redirects that are followed. -/
def isFollowedRedirect (status : Nat) : Bool :=
  [301, 302, 303, 307, 308].contains status

/-- What the guest gets to know of an error. -/
def mapHttpRequestError : HttpRequestError → HttpFetchError
  | .timeout => .timeout
  | .other => .unavailable

/-- Where a redirect leads to. -/
def redirectTarget (world : HttpWorld) (current : Url) (response : HttpResponse) :
    Except HttpFetchError Url :=
  match response.location with
  | some (some location) =>
      match world.join current location with
      | some next => .ok next
      | none => .error .invalidUrl
  | _ => .error .invalidUrl

/-- Read one byte more than the limit at most. -/
def readBody (limit : Nat) (response : HttpResponse) : Except HttpFetchError (List UInt8) :=
  if response.complete || decide (limit + 1 ≤ response.body.length) then
    .ok (response.body.take (limit + 1))
  else .error .unavailable

/-- The document of a response. -/
def completeResponse (world : HttpWorld) (limit : Nat) (current : Url) (response : HttpResponse) :
    Except HttpFetchError WitHttpResponse :=
  if response.contentLength.any fun length => decide (limit < length) then
    .error .responseTooLarge
  else
    match readBody limit response with
    | .error error => .error error
    | .ok body =>
        if limit < body.length then .error .responseTooLarge
        else
          .ok
            { status := response.status
              finalUrl := world.display current
              contentType := response.contentType.join
              body := body }

/-- A connection to a server in one round. -/
structure HttpConnection where
  round : Nat
  url : Url
  destination : IpAddr
  deriving DecidableEq

/-- The connections of a fetch, and its result. -/
abbrev FetchOutcome := List HttpConnection × Except HttpFetchError WitHttpResponse

/-- Fetch with a number of redirects left. -/
def fetchFrom (world : HttpWorld) (limit : Nat) : Nat → Nat → Url → FetchOutcome
  | redirects, round, current =>
      match buildBoundedHttpsClient (world.round round) current with
      | .error error => ([], .error error)
      | .ok destination =>
          let connection : HttpConnection := ⟨round, current, destination⟩
          match (world.round round).send current destination with
          | .error error => ([connection], .error (mapHttpRequestError error))
          | .ok response =>
              if isFollowedRedirect response.status then
                match redirects with
                | 0 => ([connection], .error .tooManyRedirects)
                | redirects + 1 =>
                    match redirectTarget world current response with
                    | .error error => ([connection], .error error)
                    | .ok next =>
                        let rest := fetchFrom world limit redirects (round + 1) next
                        (connection :: rest.1, rest.2)
              else ([connection], completeResponse world limit current response)

/-- Why a component does not have a permission. -/
inductive RuntimePermissionCheck
  | denied
  | unavailable
  deriving DecidableEq, Repr

/-- What the host knows of the calling component, and the limits of fetches. -/
structure HttpFetchHost where
  hostAccessActive : Bool
  runtimePermissionOwner : Except RuntimePermissionCheck ComponentRef
  maxHttpFetchBytes : Nat
  maxHttpRedirects : Nat

/-- The bytes that one fetch may return. -/
def HttpFetchHost.responseLimit (host : HttpFetchHost) (maxBytes : Nat) : Nat :=
  min maxBytes host.maxHttpFetchBytes

/-- Fetch a document. -/
def HttpFetchHost.get (host : HttpFetchHost) (world : HttpWorld) (url : String)
    (maxBytes : Nat) : FetchOutcome :=
  if host.hostAccessActive = false then ([], .error .accessNotActive)
  else
    match host.runtimePermissionOwner with
    | .error .denied => ([], .error .permissionDenied)
    | .error .unavailable => ([], .error .unavailable)
    | .ok _ =>
        match world.parse url with
        | none => ([], .error .invalidUrl)
        | some current =>
            fetchFrom world (host.responseLimit maxBytes) host.maxHttpRedirects 0 current

end Rintawa.WasmRuntime
