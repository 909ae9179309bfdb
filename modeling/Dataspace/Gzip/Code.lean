/-
Prefix codes.

A code is a binary tree with the symbols at its leaves: reading a symbol follows the
bits from the root.  A code is given by the lengths of its words alone: words of one
length are in the order of their symbols, and shorter words come before longer ones.
So the tree is built from below: at each depth stand the symbols of that length and
after them the neighbours of the depth below, two by two.
-/
import Dataspace.Gzip.Bits

namespace Dataspace.Gzip

/-- A prefix code: nothing, a symbol, or two codes of which a bit chooses one. -/
inductive Code where
  | nothing
  | symbol (n : Nat)
  | fork (zero one : Code)
deriving DecidableEq

namespace Code

/-! ## Reading -/

/-- The symbol whose word comes first; no word leads nowhere. -/
def read : Code → Reader Nat
  | nothing => throw .badBlock
  | symbol n => return n
  | fork zero one => do if ← Reader.bit then one.read else zero.read

/-- The code has a word for every sequence of bits that is long enough. -/
def isComplete : Code → Bool
  | nothing => false
  | symbol _ => true
  | fork zero one => zero.isComplete && one.isComplete

/-! ## Building -/

/-- The greatest length of a word. -/
def maxLength : Nat := 15

/-- The symbols whose words have a length, counted from `first`. -/
def symbolsOf (length : Nat) : (first : Nat) → (lengths : List Nat) → List Code
  | _, [] => []
  | n, l :: ls =>
    if l = length then symbol n :: symbolsOf length (n + 1) ls else symbolsOf length (n + 1) ls

/-- Neighbours two by two. -/
def joined : List Code → List Code
  | zero :: one :: rest => fork zero one :: joined rest
  | [zero] => [fork zero nothing]
  | [] => []

/-- The subtrees at a depth, from the left, if the words have at most `levels` bits more. -/
def subtrees (lengths : List Nat) : (levels depth : Nat) → List Code
  | 0, _ => []
  | levels + 1, depth =>
    symbolsOf depth 0 lengths ++ joined (subtrees lengths levels (depth + 1))

/-- The code with words of these lengths; a length of zero means that the symbol is not
used.  There is none if the words are too many. -/
def ofLengths? (lengths : List Nat) : Option Code :=
  match joined (subtrees lengths maxLength 1) with
  | [] => some nothing
  | [code] => some code
  | _ => none

/-- The number of symbols that are used. -/
def used (lengths : List Nat) : Nat :=
  lengths.countP (· != 0)

/-- The code with words of these lengths, which leaves out no word. -/
def complete? (lengths : List Nat) : Option Code :=
  (ofLengths? lengths).filter isComplete

/-- The code with words of these lengths, which leaves out no word unless it has one
symbol at most. -/
def usable? (lengths : List Nat) : Option Code :=
  (ofLengths? lengths).filter fun code => code.isComplete || used lengths ≤ 1

example : ofLengths? [2, 1, 0, 2] = some (fork (symbol 1) (fork (symbol 0) (symbol 3))) := by
  decide +kernel
example : ofLengths? [1, 1, 1] = none := by decide +kernel
example : usable? [2, 2] = none := by decide +kernel
example : usable? [0, 1] = some (fork (symbol 1) nothing) := by decide +kernel

end Code

end Dataspace.Gzip
