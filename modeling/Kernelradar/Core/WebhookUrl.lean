import Kernelradar.Core.Net

/-!
`webhook_url_security_issue` of `config.rs`: the guard on webhook destinations.

Everything is on the lower-cased URL; `hostOf` cuts the host out the way the
source does, `hostIssue` judges it.
-/

namespace Kernelradar

open Library Net

/-- The text before the first occurrence of a pattern, and after it. -/
def findPattern (pattern : Text) : Text → Option (Text × Text)
  | [] => if pattern = [] then some ([], []) else none
  | c :: s =>
      match Text.stripPrefix (c :: s) pattern with
      | some rest => some ([], rest)
      | none => (findPattern pattern s).map fun q => (c :: q.1, q.2)

/-- `host_is_inet_aton_shortcut`. -/
def hostIsInetAtonShortcut (host : Text) : Bool :=
  if host = [] then false
  else
    match (Text.stripPrefix host "0x").or (Text.stripPrefix host "0X") with
    | some rest => !rest.isEmpty && rest.all fun c => (toDigit 16 c).isSome
    | none =>
        if '.' ∈ host then false
        else host.all fun c => (toDigit 10 c).isSome

/-- What `ipv4_security_issue` finds wrong with an address. -/
inductive Ipv4Issue where
  | loopback
  | rfc1918
  | linkLocal
  | cgnat
  | nonRoutable
  deriving DecidableEq

/-- The reason as the source words it. -/
def Ipv4Issue.message : Ipv4Issue → Text
  | loopback => "loopback IPv4 (127.0.0.0/8)"
  | rfc1918 => "RFC1918 private IPv4"
  | linkLocal => "link-local IPv4 (169.254.0.0/16, includes cloud metadata)"
  | cgnat => "CGNAT shared-address IPv4 (100.64.0.0/10, RFC 6598)"
  | nonRoutable => "non-routable IPv4"

/-- What `webhook_url_security_issue` finds wrong with a URL. -/
inductive UrlIssue where
  | scheme (s : Text)
  | plainHttp
  | inetAton
  | percent
  | blockedHost (host : Text)
  | ipv4 (reason : Ipv4Issue)
  | mapped (reason : Ipv4Issue)
  | loopback6
  | nonRoutable6
  | linkLocal6
  | uniqueLocal6
  deriving DecidableEq

/-- The reason as the source words it; `dbg` is the format `{:?}` of a string. -/
def UrlIssue.message (dbg : Text → Text) : UrlIssue → Text
  | scheme s => "scheme " ++ dbg s ++ " not allowed (only http / https)"
  | plainHttp => "plain http (no TLS); use https"
  | inetAton => "integer / octal / hex IP form not allowed (inet_aton shortcut)"
  | percent => "percent-encoded host not allowed"
  | blockedHost host => "hostname " ++ dbg host ++ " is blocked"
  | ipv4 reason => reason.message
  | mapped reason => "IPv4-mapped IPv6 with " ++ reason.message
  | loopback6 => "loopback IPv6 (::1)"
  | nonRoutable6 => "non-routable IPv6"
  | linkLocal6 => "link-local IPv6 (fe80::/10)"
  | uniqueLocal6 => "unique-local IPv6 (fc00::/7)"

/-- `ipv4_security_issue`. -/
def ipv4SecurityIssue (v4 : Ipv4Addr) : Option Ipv4Issue :=
  if v4.isLoopback then some .loopback
  else if v4.isPrivate then some .rfc1918
  else if v4.isLinkLocal then some .linkLocal
  else if v4.o0 = 100 ∧ v4.o1 &&& 0xc0 = 0x40 then some .cgnat
  else if v4.o0 = 0 ∨ v4.isBroadcast ∨ v4.isMulticast ∨ v4.isUnspecified then
    some .nonRoutable
  else none

/-- The checks on an IPv6 host, by segments. -/
def ipv6SecurityIssue (v6 : List ℕ) : Option UrlIssue :=
  let seg0 := v6.headD 0
  match (toIpv4Mapped v6).bind ipv4SecurityIssue with
  | some reason => some (.mapped reason)
  | none =>
      if v6 = [0, 0, 0, 0, 0, 0, 0, 1] then some .loopback6
      else if v6 = List.replicate 8 0 ∨ seg0 &&& 0xff00 = 0xff00 then some .nonRoutable6
      else if seg0 &&& 0xffc0 = 0xfe80 then some .linkLocal6
      else if seg0 &&& 0xfe00 = 0xfc00 then some .uniqueLocal6
      else none

/-- `BLOCKED_HOSTNAMES`. -/
def blockedHostnames : List Text :=
  ["localhost", "ip6-localhost", "metadata", "metadata.google.internal", "metadata.azure.com",
    "169.254.169.254"]

/-- The host the guard judges: authority up to `/`, `?` or `#`, without userinfo,
brackets or port, without trailing dots. -/
def hostOf (afterScheme : Text) : Text :=
  let hostPart := Text.before (fun c => c = '/' || c = '?' || c = '#') afterScheme
  let host := Text.afterLast '@' hostPart
  let host :=
    match Text.stripPrefix host ['['] with
    | some stripped => Text.before (· = ']') stripped
    | none => Text.before (· = ':') host
  Text.trimEndMatches '.' host

/-- The checks on the host. -/
def hostIssue (host : Text) : Option UrlIssue :=
  if hostIsInetAtonShortcut host then some .inetAton
  else if '%' ∈ host then some .percent
  else if host ∈ blockedHostnames then some (.blockedHost host)
  else
    match parseIpv4 host with
    | some v4 => (ipv4SecurityIssue v4).map .ipv4
    | none => (parseIpv6 host).bind ipv6SecurityIssue

/-- `webhook_url_security_issue`. A URL without `://` is not judged at all. -/
def webhookUrlSecurityIssue (url : Text) : Option UrlIssue :=
  match findPattern "://" (Text.toAsciiLowercase url) with
  | none => none
  | some (scheme, afterScheme) =>
      if scheme ≠ "http" ∧ scheme ≠ "https" then some (.scheme scheme)
      else if scheme = "http" then some .plainHttp
      else hostIssue (hostOf afterScheme)

example : webhookUrlSecurityIssue "https://user@169.254.169.254:443/hook"
    = some (.blockedHost "169.254.169.254") := by decide

end Kernelradar
