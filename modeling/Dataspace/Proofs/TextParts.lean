/-
The parts of a text: its lines, its first word, the first occurrence of a phrase.

Each part is said here of the text as it is written, by the places where it is cut, and the
reader of that part is shown to cut it there and nowhere else.
-/
import Dataspace.Proofs.Text

namespace Dataspace.Text

/-! ## The lines of a text -/

/-- The text has these lines.  A line ends at a line feed, or at a carriage return with a line
feed after it; what stands after the last line feed is a line unless it is empty. -/
inductive Lined : List Char → List (List Char) → Prop
  | nil : Lined [] []
  | last {line : List Char} : line ≠ [] → '\n' ∉ line → Lined line [line]
  | feed {line rest : List Char} {more : List (List Char)} : '\n' ∉ line →
      line.getLast? ≠ some '\r' → Lined rest more → Lined (line ++ '\n' :: rest) (line :: more)
  | returnFeed {line rest : List Char} {more : List (List Char)} : '\n' ∉ line →
      Lined rest more → Lined (line ++ '\r' :: '\n' :: rest) (line :: more)

theorem dropReturn_concat (line : List Char) : dropReturn (line ++ ['\r']) = line := by
  simp [dropReturn]

theorem dropReturn_of_getLast? {line : List Char} (h : line.getLast? ≠ some '\r') :
    dropReturn line = line := by
  rw [List.getLast?_eq_head?_reverse] at h
  unfold dropReturn
  split
  · rename_i rest hreverse
    rw [hreverse] at h
    exact absurd rfl h
  · rfl

theorem lines_of_not_mem {cs : List Char} (hne : cs ≠ []) (h : '\n' ∉ cs) : lines cs = [cs] := by
  simp [lines, pieces_of_not_mem h, hne]

/-- The first line feed ends the first line. -/
theorem lines_append {line : List Char} (h : '\n' ∉ line) (rest : List Char) :
    lines (line ++ '\n' :: rest) = dropReturn line :: lines rest := by
  rw [lines, lines, pieces_append, pieces_of_not_mem h, List.reverse_append]
  cases hpieces : (pieces '\n' rest).reverse with
  | nil => exact absurd (List.reverse_eq_nil_iff.mp hpieces) (pieces_ne_nil '\n' rest)
  | cons last ended => simp

theorem Lined.lines_eq {cs : List Char} {ls : List (List Char)} (h : Lined cs ls) :
    lines cs = ls := by
  induction h with
  | nil => rfl
  | last hne hfeed => exact lines_of_not_mem hne hfeed
  | feed hfeed hreturn _ ih => rw [lines_append hfeed, dropReturn_of_getLast? hreturn, ih]
  | @returnFeed line rest more hfeed _ ih =>
      have hends : '\n' ∉ line ++ ['\r'] := by
        simp [hfeed]
      rw [List.append_cons, lines_append hends, dropReturn_concat, ih]

theorem lined_lines (cs : List Char) : Lined cs (lines cs) := by
  by_cases hfeed : '\n' ∈ cs
  · obtain ⟨line, rest, rfl, hline⟩ := List.eq_append_cons_of_mem hfeed
    have ih : Lined rest (lines rest) := lined_lines rest
    rw [lines_append hline]
    by_cases hreturn : line.getLast? = some '\r'
    · obtain ⟨before, rfl⟩ := List.getLast?_eq_some_iff.mp hreturn
      rw [dropReturn_concat, ← List.append_cons]
      exact .returnFeed (fun hmem => hline (List.mem_append_left _ hmem)) ih
    · rw [dropReturn_of_getLast? hreturn]
      exact .feed hline hreturn ih
  · by_cases hne : cs = []
    · subst hne
      exact .nil
    · rw [lines_of_not_mem hne hfeed]
      exact .last hne hfeed
  termination_by cs.length
  decreasing_by
    subst_vars
    rw [List.length_append, List.length_cons]
    omega

/-- Every text has its lines and no others. -/
theorem lined_iff {cs : List Char} {ls : List (List Char)} : Lined cs ls ↔ lines cs = ls :=
  ⟨Lined.lines_eq, fun h => h ▸ lined_lines cs⟩

/-! ## The first word -/

/-- The text begins, blanks apart, with this word, which ends at a blank or with the text. -/
structure FirstWord (cs word gap after : List Char) : Prop where
  text_eq : cs = gap ++ word ++ after
  blank : ∀ c ∈ gap, isBlank c = true
  ne_nil : word ≠ []
  no_blank : ∀ c ∈ word, isBlank c = false
  ends : ∀ c, after.head? = some c → isBlank c = true

theorem words_cons_blank {c : Char} (h : isBlank c = true) (rest : List Char) :
    words (c :: rest) = words rest := by
  rw [words, if_pos h]

theorem head?_words_cons {c : Char} (h : isBlank c = false) (rest : List Char) :
    (words (c :: rest)).head? = some (c :: rest.takeWhile (! isBlank ·)) := by
  rw [words, if_neg (by simp [h])]
  rfl

/-- Where a word ends, the run of what is not blank does. -/
theorem FirstWord.takeWhile_eq {cs word after : List Char} (h : FirstWord cs word [] after) :
    cs.takeWhile (! isBlank ·) = word := by
  have hrest : after.takeWhile (! isBlank ·) = [] := by
    cases hafter : after with
    | nil => rfl
    | cons c rest =>
        have hc : isBlank c = true := h.ends c (by rw [hafter]; rfl)
        rw [List.takeWhile_cons_of_neg (by simp [hc])]
  have hword : ∀ c ∈ word, (! isBlank c) = true := by
    intro c hc
    rw [h.no_blank c hc]
    rfl
  rw [h.text_eq, List.nil_append, List.takeWhile_append_of_pos hword, hrest, List.append_nil]

theorem FirstWord.head?_words {cs word gap after : List Char} (h : FirstWord cs word gap after) :
    (words cs).head? = some word := by
  induction gap generalizing cs with
  | nil =>
      cases hword : word with
      | nil => exact absurd hword h.ne_nil
      | cons c rest =>
          have hc : isBlank c = false := h.no_blank c (hword ▸ List.mem_cons_self)
          have htake := h.takeWhile_eq
          rw [h.text_eq, hword] at htake ⊢
          rw [List.nil_append, List.cons_append] at htake ⊢
          rw [head?_words_cons hc, ← htake, List.takeWhile_cons_of_pos (by simp [hc])]
  | cons c gap ih =>
      rw [h.text_eq, List.cons_append, List.cons_append,
        words_cons_blank (h.blank c List.mem_cons_self)]
      exact ih ⟨rfl, fun b hb => h.blank b (List.mem_cons_of_mem c hb), h.ne_nil, h.no_blank,
        h.ends⟩

theorem exists_firstWord {cs word : List Char} (h : (words cs).head? = some word) :
    ∃ gap after, FirstWord cs word gap after := by
  induction cs with
  | nil =>
      rw [words] at h
      cases h
  | cons c rest ih =>
      cases hc : isBlank c with
      | true =>
          rw [words_cons_blank hc] at h
          obtain ⟨gap, after, hfirst⟩ := ih h
          refine ⟨c :: gap, after, ?_, ?_, hfirst.ne_nil, hfirst.no_blank, hfirst.ends⟩
          · rw [hfirst.text_eq]
            rfl
          · exact List.forall_mem_cons.mpr ⟨hc, hfirst.blank⟩
      | false =>
          rw [head?_words_cons hc] at h
          obtain rfl := Option.some.inj h
          refine ⟨[], rest.dropWhile (! isBlank ·), ?_, ?_, List.cons_ne_nil _ _, ?_, ?_⟩
          · rw [List.nil_append, List.cons_append, List.takeWhile_append_dropWhile]
          · intro b hb
            exact absurd hb List.not_mem_nil
          · refine List.forall_mem_cons.mpr ⟨hc, ?_⟩
            intro b hb
            have hall : (rest.takeWhile (! isBlank ·)).all (! isBlank ·) = true := List.all_takeWhile
            simpa using List.all_eq_true.mp hall b hb
          · intro b hb
            have hstop := any_head?_dropWhile (! isBlank ·) rest
            rw [hb] at hstop
            simpa using hstop

/-- The first of the words of a text is the word that it begins with. -/
theorem head?_words_eq_some_iff {cs word : List Char} :
    (words cs).head? = some word ↔ ∃ gap after, FirstWord cs word gap after :=
  ⟨exists_firstWord, fun ⟨_, _, h⟩ => h.head?_words⟩

/-! ## The first occurrence of a phrase -/

/-- The text holds the phrase, with this before it and this after it, and nowhere nearer its
start. -/
structure FirstOccurrence (phrase cs before after : List Char) : Prop where
  text_eq : cs = before ++ phrase ++ after
  first : ∀ front back, cs = front ++ phrase ++ back → before.length ≤ front.length

/-- At its start a text holds the phrase first if it holds it there at all. -/
theorem firstOccurrence_of_start {phrase cs before after : List Char} (h : phrase <+: cs) :
    FirstOccurrence phrase cs before after ↔ before = [] ∧ after = cs.drop phrase.length := by
  obtain ⟨rest, rfl⟩ := h
  rw [List.drop_left]
  constructor
  · rintro ⟨htext, hfirst⟩
    have hlength : before.length ≤ 0 := hfirst [] rest rfl
    obtain rfl := List.eq_nil_of_length_eq_zero (Nat.le_zero.mp hlength)
    exact ⟨rfl, (List.append_cancel_left htext).symm⟩
  · rintro ⟨rfl, rfl⟩
    exact ⟨rfl, fun front back _ => Nat.zero_le _⟩

/-- Elsewhere it holds the phrase first where the rest of the text does. -/
theorem firstOccurrence_cons {phrase rest before after : List Char} {c : Char}
    (h : ¬ phrase <+: c :: rest) :
    FirstOccurrence phrase (c :: rest) before after ↔
      ∃ more, before = c :: more ∧ FirstOccurrence phrase rest more after := by
  constructor
  · rintro ⟨htext, hfirst⟩
    cases before with
    | nil => exact absurd ⟨after, htext.symm⟩ h
    | cons b more =>
        obtain ⟨rfl, hrest⟩ := List.cons.inj htext
        refine ⟨more, rfl, hrest, ?_⟩
        intro front back hback
        have hle := hfirst (c :: front) back (by rw [hback]; rfl)
        exact Nat.le_of_succ_le_succ hle
  · rintro ⟨more, rfl, htext, hfirst⟩
    refine ⟨by rw [htext]; rfl, ?_⟩
    intro front back hback
    cases front with
    | nil => exact absurd ⟨back, hback.symm⟩ h
    | cons b front =>
        obtain ⟨rfl, hrest⟩ := List.cons.inj hback
        exact Nat.succ_le_succ (hfirst front back hrest)

theorem cut?_eq_some_iff {phrase cs before after : List Char} :
    cut? phrase cs = some (before, after) ↔ FirstOccurrence phrase cs before after := by
  induction cs generalizing before with
  | nil =>
      by_cases hstart : phrase <+: []
      · rw [firstOccurrence_of_start hstart, cut?,
          if_pos (List.isPrefixOf_iff_prefix.mpr hstart)]
        simp [eq_comm]
      · rw [cut?, if_neg (fun h => hstart (List.isPrefixOf_iff_prefix.mp h))]
        constructor
        · intro h
          cases h
        · rintro ⟨htext, -⟩
          obtain ⟨hfront, -⟩ := List.append_eq_nil_iff.mp htext.symm
          obtain ⟨-, rfl⟩ := List.append_eq_nil_iff.mp hfront
          exact absurd List.nil_prefix hstart
  | cons c rest ih =>
      by_cases hstart : phrase <+: c :: rest
      · rw [firstOccurrence_of_start hstart, cut?,
          if_pos (List.isPrefixOf_iff_prefix.mpr hstart)]
        simp [eq_comm]
      · rw [firstOccurrence_cons hstart, cut?,
          if_neg (fun h => hstart (List.isPrefixOf_iff_prefix.mp h))]
        simp only [Option.map_eq_some_iff, Prod.exists, Prod.mk.injEq]
        constructor
        · rintro ⟨more, back, hcut, rfl, rfl⟩
          exact ⟨more, rfl, ih.mp hcut⟩
        · rintro ⟨more, rfl, hfirst⟩
          exact ⟨more, after, ih.mpr hfirst, rfl, rfl⟩

end Dataspace.Text
