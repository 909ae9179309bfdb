/-
Scanning numbers and strings that were written.

Behind a number in JSON text stands nothing, a comma or a closing bracket, and none
of these goes on with it.  So a number that reads back from its own text reads back
within a longer one too, as every integer of 64 bits does.  The escapes between the
quotes of a string are taken off again one character at a time.
-/
import Dataspace.Json.Parser
import Dataspace.Json.Printer
import Dataspace.Proofs.JsonShape

namespace Dataspace.Json

open Number Text

/-! ## What follows a number -/

/-- The text is at its end, or at the end of an item or a member. -/
def Stops (rest : List Char) : Prop :=
  ∀ c ∈ rest.head?, c = ',' ∨ c = ']' ∨ c = '}'

theorem stops_nil : Stops [] := fun _ h => nomatch h

theorem stops_cons {c : Char} (h : c = ',' ∨ c = ']' ∨ c = '}') (rest : List Char) :
    Stops (c :: rest) := by
  intro d hd
  cases hd
  exact h

/-- A result of scanning, where the text goes on. -/
def followedBy {α : Type} (rest : List Char) (found : Option (α × List Char)) :
    Option (α × List Char) :=
  found.map fun (a, after) => (a, after ++ rest)

section Scan

variable {rest : List Char}

theorem takeWhile_append_stop {p : Char → Bool} (h : ∀ c ∈ rest.head?, p c = false)
    (cs : List Char) : (cs ++ rest).takeWhile p = cs.takeWhile p := by
  induction cs with
  | nil =>
      cases rest with
      | nil => rfl
      | cons c rest => simp [h c rfl]
  | cons c cs ih => simp only [List.cons_append, List.takeWhile_cons, ih]

theorem dropWhile_append_stop {p : Char → Bool} (h : ∀ c ∈ rest.head?, p c = false)
    (cs : List Char) : (cs ++ rest).dropWhile p = cs.dropWhile p ++ rest := by
  induction cs with
  | nil =>
      cases rest with
      | nil => rfl
      | cons c rest => simp [h c rfl]
  | cons c cs ih =>
      simp only [List.cons_append, List.dropWhile_cons, ih]
      split
      · rfl
      · rfl

theorem Stops.not_digit (h : Stops rest) : ∀ c ∈ rest.head?, c.isDigit = false := by
  intro c hc
  rcases h c hc with rfl | rfl | rfl <;> rfl

theorem digits?_append (h : Stops rest) (cs : List Char) :
    digits? (cs ++ rest) = followedBy rest (digits? cs) := by
  unfold digits?
  rw [takeWhile_append_stop h.not_digit, dropWhile_append_stop h.not_digit]
  split <;> rfl

theorem whole?_append (h : Stops rest) (cs : List Char) :
    whole? (cs ++ rest) = followedBy rest (whole? cs) := by
  unfold whole?
  rw [digits?_append h]
  rcases digits? cs with - | ⟨ds, after⟩
  · rfl
  · simp only [followedBy, Option.map_some]
    split
    · rename_i hzero
      cases hzero
      rfl
    · rename_i hfound
      split
      · rename_i hzero
        cases hzero
        exact absurd rfl (hfound _ _ _)
      · rfl

theorem fraction?_append (h : Stops rest) (cs : List Char) :
    fraction? (cs ++ rest) = followedBy rest (fraction? cs) := by
  cases cs with
  | nil =>
      cases rest with
      | nil => rfl
      | cons c rest => rcases h c rfl with rfl | rfl | rfl <;> rfl
  | cons c cs =>
      by_cases hc : c = '.'
      · subst hc
        exact digits?_append h cs
      · simp [fraction?, hc, followedBy]

theorem signed?_of_ne {c : Char} (hminus : c ≠ '-') (hplus : c ≠ '+') (cs : List Char) :
    signed? (c :: cs)
      = (digits? (c :: cs)).map fun found => ((digitsValue found.1 : Int), found.2) := by
  unfold signed?
  split
  · rename_i heq
    exact absurd (List.cons.inj heq).1 hminus
  · rename_i heq
    exact absurd (List.cons.inj heq).1 hplus
  · rfl

theorem signed?_append (h : Stops rest) (cs : List Char) :
    signed? (cs ++ rest) = followedBy rest (signed? cs) := by
  cases cs with
  | nil =>
      cases rest with
      | nil => rfl
      | cons c rest => rcases h c rfl with rfl | rfl | rfl <;> rfl
  | cons c cs =>
      by_cases hminus : c = '-'
      · subst hminus
        simp only [List.cons_append, signed?, digits?_append h]
        cases digits? cs <;> rfl
      · by_cases hplus : c = '+'
        · subst hplus
          simp only [List.cons_append, signed?, digits?_append h]
          cases digits? cs <;> rfl
        · rw [List.cons_append, signed?_of_ne hminus hplus, signed?_of_ne hminus hplus,
            ← List.cons_append, digits?_append h]
          cases digits? (c :: cs) <;> rfl

theorem exponent?_append (h : Stops rest) (cs : List Char) :
    exponent? (cs ++ rest) = followedBy rest (exponent? cs) := by
  cases cs with
  | nil =>
      cases rest with
      | nil => rfl
      | cons c rest => rcases h c rfl with rfl | rfl | rfl <;> rfl
  | cons c cs =>
      by_cases hsmall : c = 'e'
      · subst hsmall
        simp only [List.cons_append, exponent?, signed?_append h]
        cases signed? cs <;> rfl
      · by_cases hlarge : c = 'E'
        · subst hlarge
          simp only [List.cons_append, exponent?, signed?_append h]
          cases signed? cs <;> rfl
        · simp [exponent?, hsmall, hlarge, followedBy]

theorem unsigned?_append (h : Stops rest) (negative : Bool) (cs : List Char) :
    unsigned? negative (cs ++ rest) = followedBy rest (unsigned? negative cs) := by
  unfold unsigned?
  rw [whole?_append h]
  rcases whole? cs with - | ⟨ds, cs⟩
  · rfl
  simp only [followedBy, Option.map_some, Option.bind_eq_bind, Option.bind_some]
  rw [fraction?_append h]
  rcases fraction? cs with - | ⟨fs, cs⟩
  · rfl
  simp only [followedBy, Option.map_some, Option.bind_some]
  rw [exponent?_append h]
  rcases exponent? cs with - | ⟨e, cs⟩
  · rfl
  simp only [followedBy, Option.map_some, Option.bind_some]
  split
  · cases ofWhole? negative ds <;> rfl
  · cases float? negative (.ofDigits ds fs (e.getD 0)) <;> rfl

theorem number?_of_ne {c : Char} (hminus : c ≠ '-') (cs : List Char) :
    number? (c :: cs) = unsigned? false (c :: cs) := by
  unfold number?
  split
  · rename_i heq
    exact absurd (List.cons.inj heq).1 hminus
  · rfl

theorem number?_append (h : Stops rest) (cs : List Char) :
    number? (cs ++ rest) = followedBy rest (number? cs) := by
  cases cs with
  | nil =>
      cases rest with
      | nil => rfl
      | cons c rest => rcases h c rfl with rfl | rfl | rfl <;> rfl
  | cons c cs =>
      by_cases hminus : c = '-'
      · subst hminus
        exact unsigned?_append h true cs
      · rw [List.cons_append, number?_of_ne hminus, number?_of_ne hminus]
        exact unsigned?_append h false (c :: cs)

end Scan

/-! ## Numbers that read back -/

/-- The number is read from its own text. -/
def ReadsBack (n : JsonNumber) : Prop :=
  number? (numberChars n) = some (n, [])

theorem ReadsBack.append {n : JsonNumber} (h : ReadsBack n) {rest : List Char}
    (hrest : Stops rest) : number? (numberChars n ++ rest) = some (n, rest) := by
  rw [number?_append hrest, h]
  rfl

/-- The text of a number begins with its sign or with a digit. -/
theorem head_of_number? {cs : List Char} {found : JsonNumber × List Char}
    (h : number? cs = some found) : ∃ c rest, cs = c :: rest ∧ (c = '-' ∨ c.isDigit = true) := by
  cases cs with
  | nil => cases h
  | cons c rest =>
      refine ⟨c, rest, rfl, ?_⟩
      by_cases hminus : c = '-'
      · exact Or.inl hminus
      · by_cases hdigit : c.isDigit = true
        · exact Or.inr hdigit
        · simp [number?, hminus, unsigned?, whole?, digits?, hdigit] at h

section Integers

theorem digitsValue_toDigits (n : Nat) : digitsValue (Nat.toDigits 10 n) = n :=
  Nat.ofDigitChars_toDigits (by decide) (by decide)

theorem isDigit_of_mem_toDigits {n : Nat} {c : Char} (h : c ∈ Nat.toDigits 10 n) :
    c.isDigit = true :=
  Nat.isDigit_of_mem_toDigits (by decide) (by decide) h

theorem toDigits_ne_nil (n : Nat) : Nat.toDigits 10 n ≠ [] :=
  List.ne_nil_of_length_pos Nat.length_toDigits_pos

/-- Digits do not begin with a zero before another digit. -/
theorem toDigits_ne_zero_cons (n : Nat) (c : Char) (cs : List Char) :
    Nat.toDigits 10 n ≠ '0' :: c :: cs := by
  induction n using Nat.strongRecOn generalizing c cs with
  | ind n ih =>
      intro h
      rw [Nat.toDigits_eq_if (by decide)] at h
      split at h
      · exact absurd (congrArg List.length h) (by simp)
      · rename_i hlarge
        cases hfirst : Nat.toDigits 10 (n / 10) with
        | nil => exact toDigits_ne_nil _ hfirst
        | cons d ds =>
            rw [hfirst] at h
            obtain ⟨rfl, -⟩ := List.cons.inj h
            cases ds with
            | nil =>
                have hzero := digitsValue_toDigits (n / 10)
                rw [hfirst] at hzero
                have hvalue : n / 10 = 0 := hzero.symm
                omega
            | cons e es => exact ih (n / 10) (by omega) e es hfirst

theorem digits?_toDigits (n : Nat) :
    digits? (Nat.toDigits 10 n) = some (Nat.toDigits 10 n, []) := by
  have hall : ∀ c ∈ Nat.toDigits 10 n, c.isDigit = true := fun _ => isDigit_of_mem_toDigits
  have htake : (Nat.toDigits 10 n ++ []).takeWhile Char.isDigit = Nat.toDigits 10 n ++ [] :=
    List.takeWhile_append_of_pos hall
  have hdrop : (Nat.toDigits 10 n ++ []).dropWhile Char.isDigit = [] :=
    List.dropWhile_append_of_pos hall
  rw [List.append_nil] at htake hdrop
  unfold digits?
  rw [htake, hdrop]
  split
  · rename_i hnil
    exact absurd hnil (toDigits_ne_nil n)
  · rfl

theorem whole?_toDigits (n : Nat) :
    whole? (Nat.toDigits 10 n) = some (Nat.toDigits 10 n, []) := by
  unfold whole?
  rw [digits?_toDigits]
  split
  · rename_i heq
    exact absurd (congrArg Prod.fst (Option.some.inj heq)) (toDigits_ne_zero_cons n _ _)
  · rfl

theorem unsigned?_toDigits (negative : Bool) (n : Nat) :
    unsigned? negative (Nat.toDigits 10 n)
      = (ofWhole? negative (Nat.toDigits 10 n)).map fun value => (value, []) := by
  unfold unsigned?
  rw [whole?_toDigits]
  cases hvalue : ofWhole? negative (Nat.toDigits 10 n) <;>
    simp [fraction?, exponent?, hvalue]

theorem ofWhole?_toDigits {n : Int} (h : JsonNumber.InRange (.int n)) :
    ofWhole? (decide (n < 0)) (Nat.toDigits 10 n.natAbs) = some (.int n) := by
  obtain ⟨hlow, hhigh⟩ := h
  simp only [ofWhole?, digitsValue_toDigits]
  by_cases hnegative : n < 0
  · have hfits : (true && n.natAbs != 0 && decide (n.natAbs ≤ 0x8000000000000000)) = true := by
      simp only [Bool.true_and, Bool.and_eq_true, bne_iff_ne, decide_eq_true_eq]
      omega
    have hvalue : -(n.natAbs : Int) = n := by omega
    rw [decide_eq_true hnegative, if_pos hfits, hvalue]
  · have habs : n.natAbs < wordLimit := by
      unfold wordLimit
      omega
    have hfits : (!false && decide (n.natAbs < wordLimit)) = true := decide_eq_true habs
    have hvalue : (n.natAbs : Int) = n := by omega
    rw [decide_eq_false hnegative, if_neg Bool.noConfusion, if_pos hfits, hvalue]

/-- Every integer of 64 bits reads back. -/
theorem readsBack_int {n : Int} (h : JsonNumber.InRange (.int n)) : ReadsBack (.int n) := by
  have hvalue := ofWhole?_toDigits h
  show number? (intChars n) = some (.int n, [])
  unfold intChars
  split
  · rename_i hnegative
    rw [decide_eq_true hnegative] at hvalue
    show unsigned? true (Nat.toDigits 10 n.natAbs) = _
    rw [unsigned?_toDigits, hvalue]
    rfl
  · rename_i hnegative
    rw [decide_eq_false hnegative] at hvalue
    cases hdigits : Nat.toDigits 10 n.natAbs with
    | nil => exact absurd hdigits (toDigits_ne_nil _)
    | cons c cs =>
        have hdigit : c.isDigit = true := isDigit_of_mem_toDigits (hdigits ▸ List.mem_cons_self)
        have hminus : c ≠ '-' := by
          rintro rfl
          cases hdigit
        rw [number?_of_ne hminus, ← hdigits, unsigned?_toDigits, hvalue]
        rfl

end Integers

/-! ## Strings -/

section Strings

variable {done rest : List Char}

theorem stringChars?_plain {c : Char} (hquote : c ≠ '"') (hslash : c ≠ '\\')
    (hcontrol : ¬ c.toNat < 0x20) :
    stringChars? done (c :: rest) = stringChars? (c :: done) rest := by
  rw [stringChars?.eq_def]
  simp only [if_neg hquote, if_neg hslash, if_neg hcontrol]

theorem stringChars?_short {e c : Char} (h : shortEscape? e = some c) :
    stringChars? done ('\\' :: e :: rest) = stringChars? (c :: done) rest := by
  have hu : e ≠ 'u' := by
    rintro rfl
    cases h
  rw [stringChars?.eq_def]
  simp [hu, h]

theorem stringChars?_control {n : Nat} (h : n < 0x20) :
    stringChars? done ('\\' :: 'u' :: (hexDigits 4 n ++ rest))
      = stringChars? (Char.ofNat n :: done) rest := by
  have hall : ∀ n < 0x20, hexNumber? (hexDigits 4 n) = some n := by decide
  have hnumber := hall n h
  have hhigh : ¬ (0xD800 ≤ n ∧ n ≤ 0xDBFF) := by omega
  have hlow : ¬ (0xDC00 ≤ n ∧ n ≤ 0xDFFF) := by omega
  simp only [hexDigits, List.nil_append, List.cons_append] at hnumber ⊢
  rw [stringChars?.eq_def]
  simp [hnumber, hhigh, hlow]

/-- What stands for a character between quotes is read as that character. -/
theorem stringChars?_escapeChar (c : Char) :
    stringChars? done (escapeChar c ++ rest) = stringChars? (c :: done) rest := by
  unfold escapeChar
  -- the seven characters with an escape of one letter
  iterate 7
    split
    · subst_vars
      exact stringChars?_short rfl
  split
  · rename_i hcontrol
    rw [List.cons_append, List.cons_append, stringChars?_control hcontrol, Char.ofNat_toNat]
  · rename_i hquote hslash _ _ _ _ _ hcontrol
    exact stringChars?_plain hquote hslash hcontrol

end Strings

theorem stringChars?_escaped (cs done rest : List Char) :
    stringChars? done (cs.flatMap escapeChar ++ '"' :: rest) = some (done.reverse ++ cs, rest) := by
  induction cs generalizing done with
  | nil =>
      rw [List.flatMap_nil, List.nil_append, stringChars?.eq_def]
      simp
  | cons c cs ih =>
      rw [List.flatMap_cons, List.append_assoc, stringChars?_escapeChar, ih]
      simp

/-- A text is read from its characters between quotes. -/
theorem string?_quoted (s : String) (rest : List Char) :
    string? (s.toList.flatMap escapeChar ++ '"' :: rest) = some (s, rest) := by
  rw [string?, stringChars?_escaped]
  simp

end Dataspace.Json
