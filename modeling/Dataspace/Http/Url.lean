/-
URLs of the HTTP protocol.

A URL has a scheme, `http` or `https`, an authority, a path and perhaps a query;
a fragment is not part of what is asked for.  Most characters are taken as they
are written, so the target of a request is the text of the URL, with further query
parameters appended in percent-encoded form.
-/
import Dataspace.Http.Authority
import Dataspace.Text.Percent

namespace Dataspace.Http

open Text

/-- A URL, cut into its parts. -/
structure Url where
  secure : Bool
  host : String
  port : Nat
  path : String
  query : Option String
deriving DecidableEq

namespace Url

/-! ## Characters -/

/-- The number of a character lies in one of the ranges. -/
def within (ranges : List (Nat × Nat)) (c : Char) : Bool :=
  ranges.any fun r => r.1 ≤ c.toNat && c.toNat ≤ r.2

/-- The characters of paths: all but blanks, control characters and the marks `<`,
`>`, grave accent, `#` and `?`. -/
def isPathChar : Char → Bool :=
  within [(0x21, 0x22), (0x24, 0x3B), (0x3D, 0x3D), (0x40, 0x5F), (0x61, 0x7E),
    (0x80, 0x10FFFF)]

/-- The characters of queries. -/
def isQueryChar : Char → Bool :=
  within [(0x21, 0x21), (0x24, 0x3B), (0x3D, 0x3D), (0x3F, 0x7E), (0x80, 0x10FFFF)]

/-- The characters of schemes. -/
def isSchemeChar (c : Char) : Bool :=
  c.isAlphanum || c ∈ "+-.~".toList

/-! ## Schemes -/

/-- The schemes that can be asked, and any other. -/
inductive Scheme where
  | http
  | https
  | other (name : String)
deriving DecidableEq

namespace Scheme

/-- The longest name of a scheme. -/
def maxLength : Nat := 64

/-- The scheme with a name, in any letter case. -/
def ofName (name : List Char) : Scheme :=
  let lower := name.map Char.toLower
  if lower = "http".toList then .http
  else if lower = "https".toList then .https
  else .other (String.ofList name)

end Scheme

/-- The scheme of a text, if it begins with one, and what follows it. -/
def scheme? (cs : List Char) : Option (List Char × List Char) :=
  match cs.dropWhile isSchemeChar with
  | ':' :: '/' :: '/' :: rest => some (cs.takeWhile isSchemeChar, rest)
  | _ => none

/-! ## Reading -/

/-- The path and the query of what follows the authority. -/
def target? (cs : List Char) : Option (String × Option String) :=
  let cs := cs.takeWhile (· != '#')
  let path := cs.takeWhile (· != '?')
  let whole := if path.isEmpty then "/" else String.ofList path
  match cs.dropWhile (· != '?') with
  | [] => if path.all isPathChar then some (whole, none) else none
  | _ :: query =>
    if path.all isPathChar && query.all isQueryChar then some (whole, some (String.ofList query))
    else none

/-- The end of an authority. -/
def isEnd (c : Char) : Bool :=
  c = '/' || c = '?' || c = '#'

/-- A text without scheme, which cannot be asked. -/
def withoutScheme (cs : List Char) : UrlFault :=
  match cs with
  | '/' :: _ =>
    if (target? cs).isSome then .noScheme (String.ofList (cs.takeWhile (· != '#')))
    else .badCharacter
  | cs =>
    match checkAuthority (cs.takeWhile (! isEnd ·)) with
    | .error fault => fault
    | .ok () => if cs.any isEnd then .badForm else .noScheme (String.ofList cs)

/-- What follows the scheme. -/
def ofScheme (name cs : List Char) : Except UrlFault Url := do
  let scheme := Scheme.ofName name
  if Scheme.maxLength < name.length then throw .schemeTooLong
  let authority := cs.takeWhile (! isEnd ·)
  checkAuthority authority
  if authority.isEmpty then throw .badForm
  match target? (cs.dropWhile (! isEnd ·)) with
  | none => throw .badCharacter
  | some (path, query) =>
    let make (secure : Bool) (port : Nat) : Url :=
      ⟨secure, String.ofList (hostOf authority), (portOf? authority).getD port, path, query⟩
    match scheme with
    | .http => return make false 80
    | .https => return make true 443
    | .other name => throw (.unknownScheme name)

/-- The longest URL, in bytes. -/
def maxBytes : Nat := 65534

/-- The URL that a text is. -/
def parse (s : String) : Except UrlFault Url :=
  if maxBytes < (Utf8.encode s).length then .error .tooLong
  else if s.isEmpty then .error .empty
  else match scheme? s.toList with
    | some (name, rest) => ofScheme name rest
    | none => .error (withoutScheme s.toList)

/-! ## Asking -/

/-- The mark between a query and what is appended to it. -/
def joint (query : String) : String :=
  match query.toList.getLast? with
  | none => ""
  | some '&' => ""
  | some _ => "&"

/-- The query of a request: that of the URL and then the given parameters. -/
def fullQuery (u : Url) (parameters : List (String × String)) : Option String :=
  match u.query, parameters with
  | query, [] => query
  | none, parameters => some (Percent.query parameters)
  | some query, parameters => some (query ++ joint query ++ Percent.query parameters)

/-- The target of a request with further query parameters. -/
def target (u : Url) (parameters : List (String × String)) : String :=
  match u.fullQuery parameters with
  | some query => u.path ++ "?" ++ query
  | none => u.path

example : (parse "https://c/a?b#c").toOption.map (target · [("k", "v w")])
    = some "/a?b&k=v%20w" := by decide +kernel
example : (parse "https://c").toOption.map (target · []) = some "/" := by decide +kernel
example : (parse "c/a").toOption = none := by decide +kernel

end Url

end Dataspace.Http
