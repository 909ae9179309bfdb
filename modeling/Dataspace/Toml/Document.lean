/-
TOML documents.

A document is read line by line: headers open tables, assignments fill the table
that was opened last.  The result is the table of the whole document as a JSON
object.
-/
import Dataspace.Toml.Value

namespace Dataspace.Toml

/-- What follows the line, when nothing but blanks and a comment is left on it. -/
def endLine? (cs : List Char) : Option (List Char) :=
  let rest := match skipBlanks cs with
    | '#' :: rest => rest.dropWhile isInLine
    | rest => rest
  match rest with
  | [] => some []
  | rest => afterLineEnd? rest

/-- What the lines before have made: the header of the table that is being filled,
and the table of the document. -/
structure Progress where
  header : List String
  root : Table

/-- What one line says, and the text after what it says. -/
def line? (p : Progress) (cs : List Char) : Option (Progress × List Char) :=
  match cs with
  | [] => some (p, [])
  | '#' :: _ | '\n' :: _ | '\r' :: _ => some (p, cs)
  | '[' :: '[' :: rest =>
    match key? maxKeyParts rest with
    | some (path, ']' :: ']' :: rest) => (openRow path p.root).map fun t => (⟨path, t⟩, rest)
    | _ => none
  | '[' :: rest =>
    match key? maxKeyParts rest with
    | some (path, ']' :: rest) => (openTable path p.root).map fun t => (⟨path, t⟩, rest)
    | _ => none
  | cs =>
    match key? maxKeyParts cs with
    | some (path, '=' :: rest) =>
      match value? (2 * rest.length + 2) maxDepth (skipBlanks rest) with
      | some (v, rest) =>
        (assignUnder p.header path v p.root).map fun t => (⟨p.header, t⟩, rest)
      | none => none
    | _ => none

/-- The lines of a document, one after the other. -/
def lines? (fuel : Nat) (p : Progress) (cs : List Char) : Option Table :=
  match fuel with
  | 0 => none
  | fuel + 1 =>
    match line? p (skipBlanks cs) with
    | none => none
    | some (p, rest) =>
      match endLine? rest with
      | none => none
      | some [] => some p.root
      | some rest => lines? fuel p rest

/-- The text without a byte order mark. -/
def withoutMark : List Char → List Char
  | '\uFEFF' :: cs => cs
  | cs => cs

/-- The table that a document describes. -/
def parse? (s : String) : Option Json :=
  let cs := withoutMark s.toList
  (lines? (cs.length + 1) ⟨[], []⟩ cs).map fun t => .obj (membersJson t)

end Dataspace.Toml
