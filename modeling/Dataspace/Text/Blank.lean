/-
Blank characters and trimming.

The blank characters are those of Unicode's `White_Space` property.  Handles,
locations, settings and resource ids are read without the blanks around them,
and a setting that holds nothing but blanks counts as absent.  Trimming is
defined on lists of characters; the functions on `String` wrap it.
-/

namespace Dataspace.Text

/-! ## The property -/

/-- The ranges of `White_Space`, both ends included. -/
def blankRanges : List (Nat × Nat) :=
  [(0x09, 0x0D), (0x20, 0x20), (0x85, 0x85), (0xA0, 0xA0), (0x1680, 0x1680),
   (0x2000, 0x200A), (0x2028, 0x2029), (0x202F, 0x202F), (0x205F, 0x205F),
   (0x3000, 0x3000)]

/-- A blank character lies in one of the ranges. -/
def isBlank (c : Char) : Bool :=
  blankRanges.any fun r => r.1 ≤ c.toNat && c.toNat ≤ r.2

/-! ## Trimming removes a run at an end and nothing else -/

/-- The list without its longest final run of elements satisfying `p`. -/
def dropEndWhile {α : Type} (p : α → Bool) (cs : List α) : List α :=
  (cs.reverse.dropWhile p).reverse

/-- The characters without the blanks at either end. -/
def trimChars (cs : List Char) : List Char :=
  dropEndWhile isBlank (cs.dropWhile isBlank)

/-- The text without the blanks at either end. -/
def trim (s : String) : String :=
  String.ofList (trimChars s.toList)

/-- The text without its final run of `c`. -/
def dropTrailing (c : Char) (s : String) : String :=
  String.ofList (dropEndWhile (· == c) s.toList)

/-- A base URL is kept without the slashes at its end. -/
def withoutSlashes (url : String) : String :=
  dropTrailing '/' url

/-- The trimmed text, if anything is left of it. -/
def filled? (s : String) : Option String :=
  let t := trim s
  if t.isEmpty then none else some t

/-- A run taken off the end leaves an initial segment. -/
theorem dropEndWhile_append {α : Type} (p : α → Bool) (cs : List α) :
    dropEndWhile p cs ++ (cs.reverse.takeWhile p).reverse = cs := by
  rw [dropEndWhile, ← List.reverse_append, List.takeWhile_append_dropWhile, List.reverse_reverse]

example : trim "\u3000 a b\t\n" = "a b" := by decide +kernel
example : withoutSlashes "https://c//" = "https://c" := by decide +kernel
example : filled? " \u00a0" = none := by decide +kernel

end Dataspace.Text
