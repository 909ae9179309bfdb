/-
JSON text, compact and indented.

Compact text has no blanks at all.  Indented text puts each item on a line of
its own, two blanks deeper than its container, and writes an empty container as
its two brackets.  Both escape the quote, the backslash and the control
characters below U+0020, and nothing else.
-/
import Dataspace.Json.Basic
import Dataspace.Number.Shortest
import Dataspace.Text.Hex

namespace Dataspace.Json

open Number Text

/-! ## Numbers -/

/-- A decimal with its leading digit at `10^top`: positional for `top` from -5 to
15, with at least one digit on each side of the point, otherwise with an exponent
that shows its sign. -/
def decimalChars (d : Decimal) : List Char :=
  let ds := Nat.toDigits 10 d.digits
  let top : Int := d.exponent + ds.length - 1
  if 0 ≤ top ∧ top ≤ 15 then
    let whole := top.toNat + 1
    if ds.length ≤ whole then ds ++ List.replicate (whole - ds.length) '0' ++ ['.', '0']
    else ds.take whole ++ '.' :: ds.drop whole
  else if -5 ≤ top ∧ top < 0 then
    '0' :: '.' :: List.replicate (-top - 1).toNat '0' ++ ds
  else
    let tail := if ds.length ≤ 1 then [] else '.' :: ds.drop 1
    let sign := if top < 0 then '-' else '+'
    ds.take 1 ++ tail ++ 'e' :: sign :: Nat.toDigits 10 top.natAbs

/-- The shortest text that reads back as the float. -/
def floatChars (x : Binary64) : List Char :=
  let magnitude :=
    if x.units = 0 then ['0', '.', '0'] else decimalChars (Binary64.shortest x.units)
  if x.negative then '-' :: magnitude else magnitude

/-- An integer in decimal. -/
def intChars (n : Int) : List Char :=
  if n < 0 then '-' :: Nat.toDigits 10 n.natAbs else Nat.toDigits 10 n.natAbs

def numberChars : JsonNumber → List Char
  | .int n => intChars n
  | .float x => floatChars x

/-! ## Strings -/

/-- A character as it stands between quotes. -/
def escapeChar (c : Char) : List Char :=
  if c = '"' then ['\\', '"']
  else if c = '\\' then ['\\', '\\']
  else if c = '\n' then ['\\', 'n']
  else if c = '\r' then ['\\', 'r']
  else if c = '\t' then ['\\', 't']
  else if c = '\x08' then ['\\', 'b']
  else if c = '\x0c' then ['\\', 'f']
  else if c.toNat < 0x20 then '\\' :: 'u' :: hexDigits 4 c.toNat
  else [c]

/-- A text between quotes. -/
def quoted (s : String) : List Char :=
  '"' :: s.toList.flatMap escapeChar ++ ['"']

/-! ## Compact text -/

mutual

def compactChars : Json → List Char
  | .null => ['n', 'u', 'l', 'l']
  | .bool true => ['t', 'r', 'u', 'e']
  | .bool false => ['f', 'a', 'l', 's', 'e']
  | .num n => numberChars n
  | .str s => quoted s
  | .arr items => '[' :: compactItems items ++ [']']
  | .obj members => '{' :: compactMembers members ++ ['}']

def compactItems : List Json → List Char
  | [] => []
  | [v] => compactChars v
  | v :: rest => compactChars v ++ ',' :: compactItems rest

def compactMembers : List (String × Json) → List Char
  | [] => []
  | [(k, v)] => quoted k ++ ':' :: compactChars v
  | (k, v) :: rest => quoted k ++ ':' :: compactChars v ++ ',' :: compactMembers rest

end

/-- The value on one line without blanks. -/
def compact (v : Json) : String :=
  String.ofList (compactChars v)

/-! ## Indented text -/

/-- A new line at this depth. -/
def newline (depth : Nat) : List Char :=
  '\n' :: List.replicate (2 * depth) ' '

mutual

/-- The text of a value that starts on a line of this depth. -/
def indentedChars (depth : Nat) : Json → List Char
  | .null => ['n', 'u', 'l', 'l']
  | .bool true => ['t', 'r', 'u', 'e']
  | .bool false => ['f', 'a', 'l', 's', 'e']
  | .num n => numberChars n
  | .str s => quoted s
  | .arr [] => ['[', ']']
  | .arr items => '[' :: indentedItems (depth + 1) items ++ newline depth ++ [']']
  | .obj [] => ['{', '}']
  | .obj members => '{' :: indentedMembers (depth + 1) members ++ newline depth ++ ['}']

def indentedItems (depth : Nat) : List Json → List Char
  | [] => []
  | [v] => newline depth ++ indentedChars depth v
  | v :: rest => newline depth ++ indentedChars depth v ++ ',' :: indentedItems depth rest

def indentedMembers (depth : Nat) : List (String × Json) → List Char
  | [] => []
  | [(k, v)] => newline depth ++ quoted k ++ ':' :: ' ' :: indentedChars depth v
  | (k, v) :: rest =>
    newline depth ++ quoted k ++ ':' :: ' ' :: indentedChars depth v ++
      ',' :: indentedMembers depth rest

end

/-- The value laid out over several lines. -/
def pretty (v : Json) : String :=
  String.ofList (indentedChars 0 v)

example : compact (object [("b", .arr [.null, int (-1)]), ("a", .str "\"\n\x01é")])
    = "\x7b\"a\":\"\\\"\\n\\u0001é\",\"b\":[null,-1]\x7d" := by decide +kernel
example : pretty (object [("a", .arr []), ("b", .arr [.bool true])])
    = "\x7b\n  \"a\": [],\n  \"b\": [\n    true\n  ]\n\x7d" := by decide +kernel
example : String.ofList (decimalChars ⟨15, -8⟩) = "1.5e-7" := by decide +kernel
example : String.ofList (decimalChars ⟨1, 16⟩) = "1e+16" := by decide +kernel
example : String.ofList (decimalChars ⟨1, 15⟩) = "1000000000000000.0" := by decide +kernel
example : String.ofList (decimalChars ⟨1, -5⟩) = "0.00001" := by decide +kernel
example : String.ofList (decimalChars ⟨25, -1⟩) = "2.5" := by decide +kernel

end Dataspace.Json
