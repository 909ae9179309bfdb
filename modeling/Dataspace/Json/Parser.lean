/-
Reading JSON text.

The grammar is the strict one: blanks are space, tab, line feed and carriage
return; no comments, no trailing commas, no leading zeros or plus signs, no
unescaped control characters, no lone surrogate escapes, and nothing after the
value.  An integer from -2^63 to 2^64 - 1 is kept as one; every other number is
a float whose value is found in steps, and one too large for a float is refused.
Of two members with one key the later counts.  Arrays and objects may be nested
127 deep.
-/
import Dataspace.Json.Basic
import Dataspace.Number.Decimal
import Dataspace.Text.Hex

namespace Dataspace.Json

open Number Text

/-- The deepest nesting that is read. -/
def maxDepth : Nat := 127

def isSpace (c : Char) : Bool :=
  c = ' ' || c = '\t' || c = '\n' || c = '\r'

/-- The text without the blanks it begins with. -/
def skip (cs : List Char) : List Char :=
  cs.dropWhile isSpace

/-! ## Numbers -/

/-- The value of decimal digits. -/
def digitsValue (ds : List Char) : Nat :=
  ds.foldl (fun n c => 10 * n + digitValue c) 0

/-- The digits at the beginning of the text, at least one, and the rest. -/
def digits? (cs : List Char) : Option (List Char × List Char) :=
  match cs.takeWhile Char.isDigit with
  | [] => none
  | ds => some (ds, cs.dropWhile Char.isDigit)

/-- The digits of a whole number: no zero before another digit. -/
def whole? (cs : List Char) : Option (List Char × List Char) :=
  match digits? cs with
  | some ('0' :: _ :: _, _) => none
  | found => found

/-- The digits after a point, if there is a point. -/
def fraction? : List Char → Option (List Char × List Char)
  | '.' :: cs => digits? cs
  | cs => some ([], cs)

/-- A sign and digits. -/
def signed? : List Char → Option (Int × List Char)
  | '-' :: cs => (digits? cs).map fun (ds, rest) => (-(digitsValue ds : Int), rest)
  | '+' :: cs => (digits? cs).map fun (ds, rest) => ((digitsValue ds : Int), rest)
  | cs => (digits? cs).map fun (ds, rest) => ((digitsValue ds : Int), rest)

/-- The exponent, if there is one. -/
def exponent? : List Char → Option (Option Int × List Char)
  | 'e' :: cs => (signed? cs).map fun (n, rest) => (some n, rest)
  | 'E' :: cs => (signed? cs).map fun (n, rest) => (some n, rest)
  | cs => some (none, cs)

/-- The float that a decimal is, unless that is out of range. -/
def float? (negative : Bool) (d : Decimal) : Option JsonNumber :=
  d.units?.map fun units => .float ⟨negative, units⟩

/-- A number without fraction and exponent: an integer within 64 bits, else a float;
a negative zero is a float. -/
def ofWhole? (negative : Bool) (digits : List Char) : Option JsonNumber :=
  let n := digitsValue digits
  if negative && n != 0 && n ≤ 0x8000000000000000 then some (.int (-n))
  else if ! negative && n < wordLimit then some (.int n)
  else float? negative (.ofDigits digits [] 0)

/-- A number after its sign. -/
def unsigned? (negative : Bool) (cs : List Char) : Option (JsonNumber × List Char) := do
  let (ds, cs) ← whole? cs
  let (fs, cs) ← fraction? cs
  let (e, cs) ← exponent? cs
  let n ← match fs, e with
    | [], none => ofWhole? negative ds
    | _, _ => float? negative (.ofDigits ds fs (e.getD 0))
  return (n, cs)

/-- A number and the rest. -/
def number? : List Char → Option (JsonNumber × List Char)
  | '-' :: cs => unsigned? true cs
  | cs => unsigned? false cs

/-! ## Strings -/

/-- The character of a one-letter escape. -/
def shortEscape? (c : Char) : Option Char :=
  match c with
  | '"' => some '"'
  | '\\' => some '\\'
  | '/' => some '/'
  | 'b' => some '\x08'
  | 'f' => some '\x0c'
  | 'n' => some '\n'
  | 'r' => some '\r'
  | 't' => some '\t'
  | _ => none

/-- The character of two UTF-16 units, the first high and the second low. -/
def pair? (high low : Nat) : Option Char :=
  if 0xDC00 ≤ low ∧ low ≤ 0xDFFF then
    some (Char.ofNat (0x10000 + (high - 0xD800) * 0x400 + (low - 0xDC00)))
  else none

/-- The characters up to the closing quote, in reverse after those of `done`, and
the rest. -/
def stringChars? (done : List Char) : List Char → Option (List Char × List Char)
  | [] => none
  | c :: cs =>
    if c = '"' then some (done.reverse, cs)
    else if c = '\\' then
      match cs with
      | 'u' :: c₁ :: c₂ :: c₃ :: c₄ :: cs =>
        match hexNumber? [c₁, c₂, c₃, c₄] with
        | none => none
        | some unit =>
          if 0xD800 ≤ unit ∧ unit ≤ 0xDBFF then
            match cs with
            | '\\' :: 'u' :: d₁ :: d₂ :: d₃ :: d₄ :: cs =>
              match (hexNumber? [d₁, d₂, d₃, d₄]).bind (pair? unit) with
              | some c => stringChars? (c :: done) cs
              | none => none
            | _ => none
          else if 0xDC00 ≤ unit ∧ unit ≤ 0xDFFF then none
          else stringChars? (Char.ofNat unit :: done) cs
      | e :: cs =>
        match shortEscape? e with
        | some c => stringChars? (c :: done) cs
        | none => none
      | [] => none
    else if c.toNat < 0x20 then none
    else stringChars? (c :: done) cs

/-- The text after an opening quote, and the rest. -/
def string? (cs : List Char) : Option (String × List Char) :=
  (stringChars? [] cs).map fun (text, rest) => (String.ofList text, rest)

/-! ## Values

`fuel` bounds the number of steps; twice the length of the text is enough, since
at most two steps are taken for one character.  `room` is the number of arrays
and objects that may still be opened. -/

mutual

def value? (fuel room : Nat) (cs : List Char) : Option (Json × List Char) :=
  match fuel with
  | 0 => none
  | fuel + 1 =>
    match skip cs with
    | 'n' :: 'u' :: 'l' :: 'l' :: rest => some (.null, rest)
    | 't' :: 'r' :: 'u' :: 'e' :: rest => some (.bool true, rest)
    | 'f' :: 'a' :: 'l' :: 's' :: 'e' :: rest => some (.bool false, rest)
    | '"' :: rest => (string? rest).map fun (s, rest) => (.str s, rest)
    | '[' :: rest =>
      match room with
      | 0 => none
      | room + 1 =>
        match skip rest with
        | ']' :: rest => some (.arr [], rest)
        | rest => (items? fuel room rest).map fun (vs, rest) => (.arr vs, rest)
    | '{' :: rest =>
      match room with
      | 0 => none
      | room + 1 =>
        match skip rest with
        | '}' :: rest => some (.obj [], rest)
        | rest => (members? fuel room rest).map fun (ms, rest) => (.object ms, rest)
    | rest => (number? rest).map fun (n, rest) => (.num n, rest)

/-- The items of an array up to its closing bracket. -/
def items? (fuel room : Nat) (cs : List Char) : Option (List Json × List Char) :=
  match fuel with
  | 0 => none
  | fuel + 1 =>
    match value? fuel room cs with
    | none => none
    | some (v, rest) =>
      match skip rest with
      | ']' :: rest => some ([v], rest)
      | ',' :: rest => (items? fuel room rest).map fun (vs, rest) => (v :: vs, rest)
      | _ => none

/-- The members of an object up to its closing brace, in the order of the text. -/
def members? (fuel room : Nat) (cs : List Char) : Option (List (String × Json) × List Char) :=
  match fuel with
  | 0 => none
  | fuel + 1 =>
    match skip cs with
    | '"' :: rest =>
      match string? rest with
      | none => none
      | some (k, rest) =>
        match skip rest with
        | ':' :: rest =>
          match value? fuel room rest with
          | none => none
          | some (v, rest) =>
            match skip rest with
            | '}' :: rest => some ([(k, v)], rest)
            | ',' :: rest => (members? fuel room rest).map fun (ms, rest) => ((k, v) :: ms, rest)
            | _ => none
        | _ => none
    | _ => none

end

/-- The value that a text is the JSON text of. -/
def parse? (s : String) : Option Json :=
  let cs := s.toList
  match value? (2 * cs.length + 2) maxDepth cs with
  | some (v, rest) => if (skip rest).isEmpty then some v else none
  | none => none

/-- The value that UTF-8 bytes are the JSON text of. -/
def parseBytes? (bytes : Bytes) : Option Json :=
  (Utf8.decode? bytes).bind parse?

end Dataspace.Json
