/-
Cutting text: at a character, into lines, into words, at the first occurrence
of a phrase.

`pieces` never gives the empty list, and joining its pieces with the separator
gives the text back.  Lines end at a line feed, and a carriage return before it
belongs to the line end.
-/
import Dataspace.Text.Blank

namespace Dataspace.Text

/-! ## Pieces between separators -/

/-- One more character at the front: a separator opens a new piece, any other
character joins the first. -/
def addToPieces (sep c : Char) : List (List Char) → List (List Char)
  | [] => if c = sep then [[], []] else [[c]]
  | p :: ps => if c = sep then [] :: p :: ps else (c :: p) :: ps

/-- The pieces between the occurrences of `sep`; one more than there are
occurrences. -/
def pieces (sep : Char) (cs : List Char) : List (List Char) :=
  cs.foldr (addToPieces sep) [[]]

/-- The pieces of a text, as texts. -/
def split (sep : Char) (s : String) : List String :=
  (pieces sep s.toList).map String.ofList

/-- What stands before the last occurrence of `sep`. -/
def beforeLast? (sep : Char) (s : String) : Option String :=
  let cs := s.toList
  if sep ∈ cs then
    some (String.ofList ((cs.reverse.dropWhile (· != sep)).drop 1).reverse)
  else none

theorem pieces_nil (sep : Char) : pieces sep [] = [[]] := rfl

theorem pieces_cons (sep c : Char) (cs : List Char) :
    pieces sep (c :: cs) = addToPieces sep c (pieces sep cs) := rfl

theorem pieces_ne_nil (sep : Char) (cs : List Char) : pieces sep cs ≠ [] := by
  cases cs with
  | nil => simp [pieces_nil]
  | cons c cs =>
    rw [pieces_cons]
    cases pieces sep cs <;> simp only [addToPieces] <;> split <;> simp

/-! ## Lines and words -/

/-- A line without the carriage return that ended it. -/
def dropReturn (line : List Char) : List Char :=
  match line.reverse with
  | '\r' :: rest => rest.reverse
  | _ => line

/-- The lines of a text; what follows the last line feed is a line only if it
is not empty. -/
def lines (cs : List Char) : List (List Char) :=
  match (pieces '\n' cs).reverse with
  | [] => []
  | last :: ended =>
    ended.reverse.map dropReturn ++ (if last.isEmpty then [] else [last])

/-- The longest runs of characters that are not blank. -/
def words (cs : List Char) : List (List Char) :=
  match cs with
  | [] => []
  | c :: rest =>
    if isBlank c then words rest
    else (c :: rest.takeWhile (! isBlank ·)) :: words (rest.dropWhile (! isBlank ·))
  termination_by cs.length
  decreasing_by
    · simp
    · have := (List.dropWhile_sublist (fun x => ! isBlank x) (l := rest)).length_le
      simp only [List.length_cons]
      omega

/-! ## The first occurrence of a phrase -/

/-- What stands before and after the first occurrence of `phrase`. -/
def cut? (phrase : List Char) (cs : List Char) : Option (List Char × List Char) :=
  if phrase.isPrefixOf cs then some ([], cs.drop phrase.length)
  else match cs with
    | [] => none
    | c :: rest => (cut? phrase rest).map fun (before, after) => (c :: before, after)

/-- The rest of `s` if `s` begins with `start`. -/
def stripStart? (start s : String) : Option String :=
  if start.toList.isPrefixOf s.toList then some (String.ofList (s.toList.drop start.length))
  else none

example : split '/' "a//b/" = ["a", "", "b", ""] := by decide +kernel
example : (lines "a\r\nb\r\n\nc".toList).map String.ofList = ["a", "b", "", "c"] := by
  decide +kernel
example : cut? "d: ".toList "ad: b d: c".toList = some ("a".toList, "b d: c".toList) := by
  decide +kernel

end Dataspace.Text
