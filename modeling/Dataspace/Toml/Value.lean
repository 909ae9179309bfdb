/-
Keys and values of TOML.

A key is a dotted sequence of parts, bare or quoted.  A value is a scalar, a date
or time, an array, which may extend over several lines, or an inline table on one
line.  Values are read as JSON values.  A key may have 79 parts, and arrays and
inline tables may be nested 79 deep.
-/
import Dataspace.Toml.Moment
import Dataspace.Toml.Table

namespace Dataspace.Toml

/-- The deepest nesting that is read. -/
def maxDepth : Nat := 79

/-- The greatest number of parts of a key. -/
def maxKeyParts : Nat := 79

/-! ## Keys -/

/-- The characters of bare keys. -/
def isBareKeyChar (c : Char) : Bool :=
  c.isAlphanum || c = '_' || c = '-'

/-- One part of a key, and the rest. -/
def keyPart? : List Char → Option (String × List Char)
  | '"' :: cs => (basic? [] cs).map fun (k, rest) => (String.ofList k, rest)
  | '\'' :: cs => (literal? [] cs).map fun (k, rest) => (String.ofList k, rest)
  | cs =>
    match cs.takeWhile isBareKeyChar with
    | [] => none
    | k => some (String.ofList k, cs.dropWhile isBareKeyChar)

/-- The parts of a dotted key, with blanks around each, and the rest; `room` is the
number of parts that it may have. -/
def key? (room : Nat) (cs : List Char) : Option (List String × List Char) :=
  match room with
  | 0 => none
  | room + 1 =>
    match keyPart? (skipBlanks cs) with
    | none => none
    | some (part, rest) =>
      match skipBlanks rest with
      | '.' :: rest => (key? room rest).map fun (parts, rest) => (part :: parts, rest)
      | rest => some ([part], rest)

/-! ## Values -/

/-- The text without blanks, line ends and comments at its beginning. -/
def skipLines (inComment : Bool) : List Char → List Char
  | [] => []
  | c :: cs =>
    if c = '\n' then skipLines false cs
    else if c = '\r' && cs.head? == some '\n' then skipLines inComment cs
    else if inComment && isInLine c then skipLines true cs
    else if inComment then c :: cs
    else if isBlankInLine c then skipLines false cs
    else if c = '#' then skipLines true cs
    else c :: cs

mutual

/-- A value and the rest; `room` is the number of arrays and inline tables that may
still be opened. -/
def value? (fuel room : Nat) (cs : List Char) : Option (Json × List Char) :=
  match fuel with
  | 0 => none
  | fuel + 1 =>
    match cs with
    | '"' :: _ => (string? cs).map fun (s, rest) => (.str (String.ofList s), rest)
    | '\'' :: _ => (string? cs).map fun (s, rest) => (.str (String.ofList s), rest)
    | '[' :: rest =>
      match room with
      | 0 => none
      | room + 1 => (items? fuel room rest).map fun (vs, rest) => (.arr vs, rest)
    | '{' :: rest =>
      match room with
      | 0 => none
      | room + 1 =>
        match skipBlanks rest with
        | '}' :: rest => some (.obj [], rest)
        | rest => (members? fuel room [] rest).map fun (t, rest) => (.obj (membersJson t), rest)
    | cs =>
      match moment? cs with
      | some found => some found
      | none => (word? (cs.takeWhile isWordChar)).map fun v => (v, cs.dropWhile isWordChar)

/-- The items of an array up to its closing bracket; the last may be followed by a
comma. -/
def items? (fuel room : Nat) (cs : List Char) : Option (List Json × List Char) :=
  match fuel with
  | 0 => none
  | fuel + 1 =>
    match skipLines false cs with
    | ']' :: rest => some ([], rest)
    | rest =>
      match value? fuel room rest with
      | none => none
      | some (v, rest) =>
        match skipLines false rest with
        | ']' :: rest => some ([v], rest)
        | ',' :: rest => (items? fuel room rest).map fun (vs, rest) => (v :: vs, rest)
        | _ => none

/-- The members of an inline table up to its closing brace, after those of `t`. -/
def members? (fuel room : Nat) (t : Table) (cs : List Char) : Option (Table × List Char) :=
  match fuel with
  | 0 => none
  | fuel + 1 =>
    match key? maxKeyParts cs with
    | some (key, '=' :: rest) =>
      match value? fuel room (skipBlanks rest) with
      | none => none
      | some (v, rest) =>
        match assign key v t, skipBlanks rest with
        | some t, '}' :: rest => some (t, rest)
        | some t, ',' :: rest => members? fuel room t rest
        | _, _ => none
    | _ => none

end

end Dataspace.Toml
