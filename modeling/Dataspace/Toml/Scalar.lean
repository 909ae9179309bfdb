/-
Strings, numbers and truth values of TOML.

There are four forms of string: with or without escapes, on one line or on
several.  A line end in a string is always read as a line feed.  Digits may be
grouped with underscores.  Integers have 64 bits; numbers with a fraction or an
exponent are floats, rounded to the nearest.  What is not finite is shown as the
first magnitude that is out of range: `inf`, `nan`, and a negative number too
large for a float, whereas a positive one is refused.
-/
import Dataspace.Json.Basic
import Dataspace.Text.Hex
import Dataspace.Text.Split

namespace Dataspace.Toml

open Number Text

/-! ## Characters -/

/-- Blanks within a line. -/
def isBlankInLine (c : Char) : Bool :=
  c = ' ' || c = '\t'

/-- The characters allowed within a line: no control characters but the tab. -/
def isInLine (c : Char) : Bool :=
  c = '\t' || (0x20 ≤ c.toNat && c.toNat != 0x7F)

def skipBlanks (cs : List Char) : List Char :=
  cs.dropWhile isBlankInLine

/-- What follows the line end at the beginning of the text. -/
def afterLineEnd? : List Char → Option (List Char)
  | '\n' :: cs => some cs
  | '\r' :: '\n' :: cs => some cs
  | _ => none

/-! ## Escapes -/

def shortEscape? (c : Char) : Option Char :=
  match c with
  | 'b' => some '\x08'
  | 't' => some '\t'
  | 'n' => some '\n'
  | 'f' => some '\x0c'
  | 'r' => some '\r'
  | '"' => some '"'
  | '\\' => some '\\'
  | _ => none

/-- The character with a code point, if there is one. -/
def char? (n : Nat) : Option Char :=
  if n.isValidChar then some (Char.ofNat n) else none

/-- The character of a long escape, from its digits. -/
def longEscape? (digits : List Char) : Option Char :=
  (hexNumber? digits).bind char?

/-! ## Strings

Each reader takes the text after the opening quotes and gives the characters of
the string and what follows the closing quotes.  `done` holds the characters so
far, in reverse. -/

/-- On one line, with escapes. -/
def basic? (done : List Char) : List Char → Option (List Char × List Char)
  | [] => none
  | c :: cs =>
    if c = '"' then some (done.reverse, cs)
    else if c = '\\' then
      match cs with
      | 'u' :: a :: b :: c :: d :: cs =>
        match longEscape? [a, b, c, d] with
        | some c => basic? (c :: done) cs
        | none => none
      | 'U' :: a :: b :: c :: d :: e :: f :: g :: h :: cs =>
        match longEscape? [a, b, c, d, e, f, g, h] with
        | some c => basic? (c :: done) cs
        | none => none
      | e :: cs =>
        match shortEscape? e with
        | some c => basic? (c :: done) cs
        | none => none
      | [] => none
    else if isInLine c then basic? (c :: done) cs
    else none

/-- On one line, without escapes. -/
def literal? (done : List Char) : List Char → Option (List Char × List Char)
  | [] => none
  | c :: cs =>
    if c = '\'' then some (done.reverse, cs)
    else if isInLine c then literal? (c :: done) cs
    else none

/-- The closing quotes of a string on several lines, of which up to two before the
last three belong to the string. -/
def closing? (quote : Char) (done : List Char) : List Char → Option (List Char × List Char)
  | a :: b :: c :: d :: e :: cs =>
    if a ≠ quote ∨ b ≠ quote ∨ c ≠ quote then none
    else if d ≠ quote then some (done.reverse, d :: e :: cs)
    else if e ≠ quote then some ((quote :: done).reverse, e :: cs)
    else some ((quote :: quote :: done).reverse, cs)
  | [a, b, c, d] =>
    if a ≠ quote ∨ b ≠ quote ∨ c ≠ quote then none
    else if d ≠ quote then some (done.reverse, [d])
    else some ((quote :: done).reverse, [])
  | [a, b, c] => if a ≠ quote ∨ b ≠ quote ∨ c ≠ quote then none else some (done.reverse, [])
  | _ => none

/-- A backslash before the end of a line leaves out all up to the next character that
is neither blank nor line end. -/
def continuesLine (cs : List Char) : Bool :=
  (afterLineEnd? (skipBlanks cs)).isSome

/-- On several lines, with escapes; `leaving` while a continued line is left out. -/
def multiBasic? (leaving : Bool) (done : List Char) : List Char → Option (List Char × List Char)
  | [] => none
  | c :: cs =>
    if leaving && (isBlankInLine c || c = '\n') then multiBasic? true done cs
    else if c = '\r' then
      match cs with
      | '\n' :: cs => multiBasic? leaving (if leaving then done else '\n' :: done) cs
      | _ => none
    else if c = '\n' then multiBasic? false ('\n' :: done) cs
    else if c = '"' then
      match closing? '"' done (c :: cs) with
      | some found => some found
      | none => multiBasic? false (c :: done) cs
    else if c = '\\' then
      if continuesLine cs then multiBasic? true done cs
      else match cs with
        | 'u' :: a :: b :: c :: d :: cs =>
          match longEscape? [a, b, c, d] with
          | some c => multiBasic? false (c :: done) cs
          | none => none
        | 'U' :: a :: b :: c :: d :: e :: f :: g :: h :: cs =>
          match longEscape? [a, b, c, d, e, f, g, h] with
          | some c => multiBasic? false (c :: done) cs
          | none => none
        | e :: cs =>
          match shortEscape? e with
          | some c => multiBasic? false (c :: done) cs
          | none => none
        | [] => none
    else if isInLine c then multiBasic? false (c :: done) cs
    else none

/-- On several lines, without escapes. -/
def multiLiteral? (done : List Char) : List Char → Option (List Char × List Char)
  | [] => none
  | c :: cs =>
    if c = '\r' then
      match cs with
      | '\n' :: cs => multiLiteral? ('\n' :: done) cs
      | _ => none
    else if c = '\n' then multiLiteral? ('\n' :: done) cs
    else if c = '\'' then
      match closing? '\'' done (c :: cs) with
      | some found => some found
      | none => multiLiteral? (c :: done) cs
    else if isInLine c then multiLiteral? (c :: done) cs
    else none

/-- The text without a line end at its beginning. -/
def dropLineEnd (cs : List Char) : List Char :=
  (afterLineEnd? cs).getD cs

/-- A string of any form, and the rest. -/
def string? : List Char → Option (List Char × List Char)
  | '"' :: '"' :: '"' :: cs => multiBasic? false [] (dropLineEnd cs)
  | '"' :: cs => basic? [] cs
  | '\'' :: '\'' :: '\'' :: cs => multiLiteral? [] (dropLineEnd cs)
  | '\'' :: cs => literal? [] cs
  | _ => none

/-! ## Numbers -/

/-- Digits, which may be grouped with underscores. -/
def digits? (isDigit : Char → Bool) (cs : List Char) : Option (List Char) :=
  let groups := pieces '_' cs
  if groups.all fun g => (! g.isEmpty) && g.all isDigit then some groups.flatten else none

/-- The number that digits stand for. -/
def digitsNumber (base : Nat) (ds : List Char) : Nat :=
  ds.foldl (fun n c => base * n + (hexValue? c).getD 0) 0

/-- A sign, if there is one, and the rest. -/
def sign : List Char → Bool × List Char
  | '-' :: cs => (true, cs)
  | '+' :: cs => (false, cs)
  | cs => (false, cs)

/-- The digits of a whole number: no zero before another digit. -/
def whole? (cs : List Char) : Option (List Char) :=
  match digits? Char.isDigit cs with
  | some ('0' :: _ :: _) => none
  | found => found

/-- An integer, if it has no more than 64 bits. -/
def int64? (negative : Bool) (n : Nat) : Option Json :=
  if negative then (if n ≤ 0x8000000000000000 then some (.int (-n)) else none)
  else if n < 0x8000000000000000 then some (.int n) else none

/-- The float that stands for what is not finite. -/
def notFinite : Json :=
  .num (.float ⟨false, Binary64.limit⟩)

/-- A float from its digits. -/
def float? (negative : Bool) (whole fraction : List Char) (exponent : Int) : Option Json :=
  match Binary64.unitsOfDecimal? (digitsNumber 10 (whole ++ fraction))
      (exponent - fraction.length) with
  | some units => some (.num (.float ⟨negative, units⟩))
  | none => if negative then some notFinite else none

/-- The exponent after its mark. -/
def exponent? (cs : List Char) : Option Int :=
  let (negative, cs) := sign cs
  (digits? Char.isDigit cs).map fun ds =>
    if negative then -(digitsNumber 10 ds : Int) else digitsNumber 10 ds

/-- A decimal number after its sign. -/
def decimal? (negative : Bool) (cs : List Char) : Option Json := do
  let isMark (c : Char) : Bool := c = 'e' || c = 'E'
  let mantissa := cs.takeWhile (! isMark ·)
  let whole ← whole? (mantissa.takeWhile (· != '.'))
  match mantissa.dropWhile (· != '.'), cs.dropWhile (! isMark ·) with
  | [], [] => int64? negative (digitsNumber 10 whole)
  | [], _ :: e => float? negative whole [] (← exponent? e)
  | _ :: f, [] => float? negative whole (← digits? Char.isDigit f) 0
  | _ :: f, _ :: e => float? negative whole (← digits? Char.isDigit f) (← exponent? e)

/-- A non-negative integer in another base. -/
def inBase? (base : Nat) (cs : List Char) : Option Json :=
  (digits? (fun c => (hexValue? c).any (· < base)) cs).bind fun ds =>
    int64? false (digitsNumber base ds)

/-- The value of a word that is no string. -/
def word? (cs : List Char) : Option Json :=
  if cs = "true".toList then some (.bool true)
  else if cs = "false".toList then some (.bool false)
  else if (sign cs).2 = "inf".toList ∨ (sign cs).2 = "nan".toList then some notFinite
  else match cs with
    | '0' :: 'x' :: cs => inBase? 16 cs
    | '0' :: 'o' :: cs => inBase? 8 cs
    | '0' :: 'b' :: cs => inBase? 2 cs
    | cs => decimal? (sign cs).1 (sign cs).2

/-- The characters of words. -/
def isWordChar (c : Char) : Bool :=
  c.isAlphanum || c = '_' || c = '+' || c = '-' || c = '.'

example : (string? "'''\na\r\n''b''''x".toList).map (String.ofList ·.1)
    = some "a\n''b'" := by decide +kernel
example : (string? "\"\"\"a\\ \n  b\\u00e9\"\"\"".toList).map (String.ofList ·.1)
    = some "abé" := by decide +kernel

end Dataspace.Toml
