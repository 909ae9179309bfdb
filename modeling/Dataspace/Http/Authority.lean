/-
Authorities of URLs: perhaps a user, and then a host with perhaps a port.

An authority is read character by character.  The host has one colon at most, a
pair of brackets at most, and no percent sign; what stands before an `@` or a
closing bracket does not count as part of it.  The port is what follows the last
colon, if that is a number of 16 bits.
-/
import Dataspace.Http.Fault
import Dataspace.Text.Split

namespace Dataspace.Http

open Text

/-- The characters of authorities, but for the percent sign. -/
def isAuthorityChar (c : Char) : Bool :=
  c.isAlphanum || c ∈ "!$&'()*+,-.:;=@[]_~".toList

/-! ## Checking -/

/-- What the characters so far have shown: the colons and percent signs of the host,
the brackets, and whether an `@` came last. -/
structure AuthorityScan where
  colons : Nat
  percent : Bool
  opened : Bool
  closed : Bool
  atLast : Bool
deriving DecidableEq

namespace AuthorityScan

/-- Before the first character. -/
def start : AuthorityScan :=
  ⟨0, false, false, false, false⟩

/-- The greatest number of colons, even where they do not count in the end. -/
def maxColons : Nat := 8

/-- One more character. -/
def step (s : AuthorityScan) (c : Char) : Except UrlFault AuthorityScan :=
  let s := { s with atLast := false }
  if c = ':' then
    if s.colons < maxColons then .ok { s with colons := s.colons + 1 } else .error .badAuthority
  else if c = '[' then
    if s.percent || s.opened then .error .badAuthority else .ok { s with opened := true }
  else if c = ']' then
    if s.opened && ! s.closed then .ok { s with closed := true, colons := 0, percent := false }
    else .error .badAuthority
  else if c = '@' then .ok { s with atLast := true, colons := 0, percent := false }
  else if c = '%' then .ok { s with percent := true }
  else if isAuthorityChar c then .ok s
  else .error .badCharacter

/-- Whether the authority may end here. -/
def isComplete (s : AuthorityScan) : Bool :=
  s.opened == s.closed && s.colons ≤ 1 && ! s.atLast && ! s.percent

end AuthorityScan

/-- Refuses what is no authority. -/
def checkAuthority (cs : List Char) : Except UrlFault Unit := do
  let s ← cs.foldlM AuthorityScan.step AuthorityScan.start
  if s.isComplete then return () else throw .badAuthority

/-! ## Host and port -/

/-- What follows the last occurrence of `sep`; the whole text if there is none. -/
def afterLast (sep : Char) (cs : List Char) : List Char :=
  (cs.reverse.takeWhile (· != sep)).reverse

/-- A number of 16 bits, perhaps after a plus sign. -/
def port? (cs : List Char) : Option Nat :=
  let ds := match cs with
    | '+' :: rest => rest
    | cs => cs
  let n := ds.foldl (fun n c => 10 * n + (c.toNat - 0x30)) 0
  if ! ds.isEmpty && ds.all Char.isDigit && n < 0x10000 then some n else none

/-- The host of an authority. -/
def hostOf (authority : List Char) : List Char :=
  match afterLast '@' authority with
  | '[' :: rest => '[' :: rest.takeWhile (· != ']') ++ [']']
  | rest => rest.takeWhile (· != ':')

/-- The port of an authority, if it names one. -/
def portOf? (authority : List Char) : Option Nat :=
  if ':' ∈ authority then port? (afterLast ':' authority) else none

example : hostOf "u:p@h:80".toList = ['h'] ∧ portOf? "u:p@h:080".toList = some 80 := by
  decide +kernel
example : (checkAuthority "u:p:q@[::1]:80".toList).toBool = true := by decide +kernel
example : (checkAuthority "h:1:2".toList).toBool = false := by decide +kernel

end Dataspace.Http
