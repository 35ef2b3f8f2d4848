import TopicShell.Text.Case
import TopicShell.Text.Integer
import TopicShell.Text.Literal
import TopicShell.Text.Pieces

/-!
# Uniform resource identifiers

`Uri.split` cuts a text into scheme, authority and path; a query and a fragment are left out.
Control characters and spaces in front, tabs and line ends anywhere do not count.  An authority
that holds a bracket must hold one host literal: an IPv6 address or a future address.
-/

namespace TopicShell.Broker

open TopicShell.Text

/-- Why a text is no identifier, or its authority has no port. -/
inductive UriError where
  | brackets
  | literal (host : String)
  | bracketedIPv4
  | futureAddress
  | expands (authority : String)
  | portText (port : String)
  | portDigits (count : Nat)
  | portRange
  deriving DecidableEq

def UriError.message : UriError → String
  | .brackets => "Invalid IPv6 URL"
  | .literal host => Literal.ofText host ++ " does not appear to be an IPv4 or IPv6 address"
  | .bracketedIPv4 => "An IPv4 address cannot be in brackets"
  | .futureAddress => "IPvFuture address is invalid"
  | .expands authority =>
    "netloc '" ++ authority ++ "' contains invalid characters under NFKC normalization"
  | .portText port => "Port could not be cast to integer value as " ++ Literal.ofText port
  | .portDigits count =>
    "Exceeds the limit (" ++ toString Integer.digitLimit
      ++ " digits) for integer string conversion: value has " ++ toString count
      ++ " digits; use sys.set_int_max_str_digits() to increase the limit"
  | .portRange => "Port out of range 0-65535"

structure Uri where
  scheme : List Char
  authority : List Char
  path : List Char
  deriving DecidableEq

/-! ## Host literals -/

namespace HostLiteral

/-- One number of a dotted address: up to three ASCII digits, no zero in front, at most 255. -/
def isByte (part : List Char) : Bool :=
  !part.isEmpty && part.all Char.isDigit && part.length ≤ 3
    && (part == ['0'] || part.head? != some '0')
    && Integer.value (part.filterMap asciiDigit?) ≤ 255

def isIPv4 (host : List Char) : Bool :=
  let parts := pieces '.' host
  parts.length == 4 && parts.all isByte

def isHexDigit (c : Char) : Bool :=
  c.isDigit || ('a' ≤ c && c ≤ 'f') || ('A' ≤ c && c ≤ 'F')

/-- A group of an IPv6 address. -/
def isGroup (part : List Char) : Bool :=
  part.length ≤ 4 && part.all isHexDigit

/-- The groups of an IPv6 address, with a dotted address at the end taken as two groups. -/
def groupsOf (address : List Char) : Option (List (List Char)) :=
  let parts := pieces ':' address
  if parts.length < 3 then none
  else
    match parts.getLast? with
    | some last =>
      if last.contains '.' then
        if isIPv4 last then some (parts.dropLast ++ [['0'], ['0']]) else none
      else some parts
    | none => none

/-- The positions of empty groups, the ends left out. -/
def innerGaps (parts : List (List Char)) : List Nat :=
  (List.range parts.length).filter fun i =>
    0 < i && i + 1 < parts.length && (parts[i]?.any List.isEmpty)

/-- Eight groups, or fewer with one gap that stands for the missing ones. -/
def isIPv6Groups (parts : List (List Char)) : Bool :=
  let first := parts.head?.any List.isEmpty
  let last := parts.getLast?.any List.isEmpty
  parts.length ≤ 9 &&
  match innerGaps parts with
  | [] => parts.length == 8 && !first && !last && parts.all isGroup
  | [gap] =>
    let high := if first then gap - 1 else gap
    let low := parts.length - gap - 1 - (if last then 1 else 0)
    (!first || high == 0) && (!last || low == 0) && high + low < 8 && parts.all isGroup
  | _ => false

/-- An IPv6 address with an optional zone after a percent sign. -/
def isIPv6 (host : List Char) : Bool :=
  let (address, zone) := cut '%' host
  !host.contains '/'
    && (match zone with
      | some z => !z.isEmpty && !z.contains '%'
      | none => true)
    && (match groupsOf address with
      | some parts => isIPv6Groups parts
      | none => false)

/-- `v`, hexadecimal digits, a point and something after it. -/
def isFuture (host : List Char) : Bool :=
  match host with
  | 'v' :: rest =>
    let (version, address) := cut '.' rest
    !version.isEmpty && version.all isHexDigit && address.any (!·.isEmpty)
  | _ => false

def check (host : List Char) : Except UriError Unit :=
  if host.head? = some 'v' then
    if isFuture host then .ok () else .error .futureAddress
  else if isIPv4 host then .error .bracketedIPv4
  else if isIPv6 host then .ok ()
  else .error (.literal (String.ofList host))

example : isIPv6 [':', ':', '1'] = true := by decide
example : isIPv6 ['1', ':', ':', '2', ':', ':'] = false := by decide

end HostLiteral

/-! ## Splitting -/

namespace Uri

def isSchemeChar (c : Char) : Bool :=
  c.isAlphanum || c = '+' || c = '-' || c = '.'

/-- The scheme in lower case and the rest, if the text starts with one. -/
def cutScheme (cs : List Char) : List Char × List Char :=
  match cut ':' cs with
  | (scheme, some rest) =>
    if scheme.head?.any Char.isAlpha && scheme.all isSchemeChar then
      (scheme.map Char.toLower, rest)
    else ([], cs)
  | (_, none) => ([], cs)

def endsAuthority (c : Char) : Bool :=
  c = '/' || c = '?' || c = '#'

/-- Characters that the compatibility form turns into one of `/?#@:`. -/
def expanding : List Nat := [
  0x2047, 0x2048, 0x2049, 0x2100, 0x2101, 0x2105, 0x2106, 0x2a74, 0xfe13, 0xfe16, 0xfe55, 0xfe56,
  0xfe5f, 0xfe6b, 0xff03, 0xff0f, 0xff1a, 0xff1f, 0xff20]

/-- Host and port of an authority: user data are dropped; a host in brackets ends at the closing
one. -/
def hostAndPort (authority : List Char) : List Char × List Char :=
  let info := afterLast '@' authority
  match cut '[' info with
  | (_, some bracketed) =>
    let (host, rest) := cut ']' bracketed
    (host, (cut ':' (rest.getD [])).2.getD [])
  | (_, none) =>
    let (host, port) := cut ':' info
    (host, port.getD [])

/-- Nothing but a port may stand around the brackets. -/
def checkBrackets (authority : List Char) : Except UriError Unit :=
  let opened := authority.contains '['
  let closed := authority.contains ']'
  if opened != closed then .error .brackets
  else if !opened then .ok ()
  else
    let info := afterLast '@' authority
    match cut '[' info with
    | (before, some bracketed) =>
      let (host, rest) := cut ']' bracketed
      if !before.isEmpty then .error .brackets
      else if (rest.getD []).head?.any (· ≠ ':') then .error .brackets
      else HostLiteral.check host
    | (_, none) => HostLiteral.check (cut ':' info).1

def split (text : List Char) : Except UriError Uri :=
  let cleaned := (text.dropWhile (·.toNat ≤ 0x20)).filter fun c => c ≠ '\t' && c ≠ '\r' && c ≠ '\n'
  let (scheme, rest) := cutScheme cleaned
  match rest with
  | '/' :: '/' :: rest =>
    let authority := rest.takeWhile (!endsAuthority ·)
    let path := (rest.dropWhile (!endsAuthority ·)).takeWhile fun c => c ≠ '?' && c ≠ '#'
    match checkBrackets authority with
    | .error e => .error e
    | .ok () =>
      if authority.any fun c => expanding.contains c.toNat then
        .error (.expands (String.ofList authority))
      else .ok { scheme, authority, path }
  | _ => .ok { scheme, authority := [], path := rest.takeWhile fun c => c ≠ '?' && c ≠ '#' }

/-- The host in lower case, but for the zone of an address. -/
def host (u : Uri) : List Char :=
  match cut '%' (hostAndPort u.authority).1 with
  | (name, some zone) => lower name ++ '%' :: zone
  | (name, none) => lower name

/-- The port, if one is written. -/
def port (u : Uri) : Except UriError (Option Nat) :=
  let text := (hostAndPort u.authority).2
  if text.isEmpty then .ok none
  else if !text.all Char.isDigit then .error (.portText (String.ofList text))
  else if Integer.digitLimit < text.length then .error (.portDigits text.length)
  else
    let n := Integer.value (text.filterMap asciiDigit?)
    if n ≤ 65535 then .ok (some n) else .error .portRange

end Uri

end TopicShell.Broker
