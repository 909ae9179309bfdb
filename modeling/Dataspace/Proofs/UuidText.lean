/-
Texts that are recognised as UUIDs.

Four forms are recognised, and the text that a UUID is written as is one of them.
None of them has a blank character in it, so trimming changes a text that is
recognised in no way: whoever reads a UUID trimmed reads more texts as one than
whoever reads it as it stands, by those with blanks around them and no others.
-/
import Dataspace.Proofs.Address

namespace Dataspace

open Text

/-! ## Texts without blanks -/

theorem Text.trim_of_no_blank {s : String} (h : ∀ c ∈ s.toList, isBlank c = false) :
    trim s = s := by
  have htrim : trimChars s.toList = s.toList := by
    by_cases hs : s.toList = []
    · rw [hs]
      rfl
    · have hhead : ([] ++ s.toList).head?.any isBlank = false := by
        cases hcs : s.toList with
        | nil => rfl
        | cons c cs =>
            rw [hcs] at h
            exact h c List.mem_cons_self
      exact trimChars_append hhead hs h
  rw [trim, htrim, String.ofList_toList]

/-- A character is a separator or in one of the pieces. -/
theorem Text.mem_pieces (sep : Char) {c : Char} {cs : List Char} (h : c ∈ cs) :
    c = sep ∨ ∃ p ∈ pieces sep cs, c ∈ p := by
  induction cs with
  | nil => exact absurd h List.not_mem_nil
  | cons d ds ih =>
      rw [pieces_cons]
      cases hds : pieces sep ds with
      | nil => exact absurd hds (pieces_ne_nil sep ds)
      | cons p ps =>
          rw [hds] at ih
          by_cases hd : d = sep
          · simp only [addToPieces, if_pos hd]
            rcases List.mem_cons.mp h with rfl | hc
            · exact Or.inl hd
            · rcases ih hc with hsep | ⟨q, hq, hcq⟩
              · exact Or.inl hsep
              · exact Or.inr ⟨q, List.mem_cons_of_mem _ hq, hcq⟩
          · simp only [addToPieces, if_neg hd]
            rcases List.mem_cons.mp h with rfl | hc
            · exact Or.inr ⟨_, List.mem_cons_self, List.mem_cons_self⟩
            · rcases ih hc with hsep | ⟨q, hq, hcq⟩
              · exact Or.inl hsep
              · rcases List.mem_cons.mp hq with rfl | hq
                · exact Or.inr ⟨_, List.mem_cons_self, List.mem_cons_of_mem _ hcq⟩
                · exact Or.inr ⟨q, List.mem_cons_of_mem _ hq, hcq⟩

theorem Text.isBlank_of_isHexDigit {c : Char} (h : isHexDigit c = true) : isBlank c = false := by
  have hrange : (0x30 ≤ c.toNat ∧ c.toNat ≤ 0x39) ∨ (0x61 ≤ c.toNat ∧ c.toNat ≤ 0x66) ∨
      (0x41 ≤ c.toNat ∧ c.toNat ≤ 0x46) := by
    simp only [isHexDigit, hexValue?] at h
    split at h
    · exact Or.inl ‹_›
    · split at h
      · exact Or.inr (Or.inl ‹_›)
      · split at h
        · exact Or.inr (Or.inr ‹_›)
        · cases h
  simp only [isBlank, blankRanges, List.any_cons, List.any_nil, Bool.or_false,
    Bool.or_eq_false_iff, Bool.and_eq_false_iff, decide_eq_false_iff_not]
  omega

theorem Text.toNat_toLower (c : Char) :
    c.toLower.toNat = if 0x41 ≤ c.toNat ∧ c.toNat ≤ 0x5A then c.toNat + 0x20 else c.toNat := by
  have hrange : (c.val ≥ 'A'.val ∧ c.val ≤ 'Z'.val) ↔ 0x41 ≤ c.toNat ∧ c.toNat ≤ 0x5A := by
    rw [ge_iff_le, UInt32.le_iff_toNat_le, UInt32.le_iff_toNat_le]
    rfl
  by_cases h : 0x41 ≤ c.toNat ∧ c.toNat ≤ 0x5A
  · have hsum : (c.val + ('a'.val - 'A'.val)).toNat = c.toNat + 0x20 := by
      rw [UInt32.toNat_add]
      exact Nat.mod_eq_of_lt (Nat.lt_of_le_of_lt (Nat.add_le_add_right h.2 _) (by decide))
    delta Char.toLower
    rw [if_pos h, dif_pos (hrange.mpr h)]
    exact hsum
  · delta Char.toLower
    rw [if_neg h, dif_neg fun hval => h (hrange.mp hval)]

theorem Text.isBlank_toLower (c : Char) : isBlank c.toLower = isBlank c := by
  simp only [isBlank, toNat_toLower]
  split
  · rename_i h
    have hnone : ∀ n, 0x41 ≤ n ∧ n ≤ 0x7A →
        (blankRanges.any fun r => r.1 ≤ n && n ≤ r.2) = false := by
      intro n hn
      simp only [blankRanges, List.any_cons, List.any_nil, Bool.or_false,
        Bool.or_eq_false_iff, Bool.and_eq_false_iff, decide_eq_false_iff_not]
      omega
    rw [hnone _ (by omega), hnone _ (by omega)]
  · rfl

theorem Text.length_hexDigits (width n : Nat) : (hexDigits width n).length = width := by
  induction width generalizing n with
  | zero => rfl
  | succ width ih => rw [hexDigits, List.length_append, ih, List.length_singleton]

theorem Text.isHexDigit_of_mem_hexDigits {width n : Nat} :
    ∀ c ∈ hexDigits width n, isHexDigit c = true := by
  intro c hc
  obtain ⟨d, hd, rfl⟩ := mem_hexDigits hc
  have hall : ∀ d < 16, isHexDigit (hexDigit d) = true := by decide
  exact hall d hd

/-! ## What is recognised has no blanks -/

namespace Uuid

variable {cs : List Char}

theorem no_blank_of_isDigits {count : Nat} (h : isDigits count cs = true) :
    ∀ c ∈ cs, isBlank c = false := by
  intro c hc
  rw [isDigits, Bool.and_eq_true, List.all_eq_true] at h
  exact isBlank_of_isHexDigit (h.2 c hc)

theorem no_blank_of_isHyphenated (h : isHyphenated cs = true) : ∀ c ∈ cs, isBlank c = false := by
  intro c hc
  unfold isHyphenated at h
  split at h
  · rename_i v w x y z hpieces
    simp only [Bool.and_eq_true] at h
    obtain ⟨⟨⟨⟨hv, hw⟩, hx⟩, hy⟩, hz⟩ := h
    rcases mem_pieces '-' hc with rfl | ⟨p, hp, hcp⟩
    · decide
    · simp only [hpieces, List.mem_cons, List.not_mem_nil, or_false] at hp
      rcases hp with rfl | rfl | rfl | rfl | rfl
      · exact no_blank_of_isDigits hv c hcp
      · exact no_blank_of_isDigits hw c hcp
      · exact no_blank_of_isDigits hx c hcp
      · exact no_blank_of_isDigits hy c hcp
      · exact no_blank_of_isDigits hz c hcp
  · cases h

/-- Braces are no blanks. -/
theorem no_blank_of_unbraced? {inner : List Char} (h : unbraced? cs = some inner)
    (hinner : ∀ c ∈ inner, isBlank c = false) : ∀ c ∈ cs, isBlank c = false := by
  unfold unbraced? at h
  split at h
  · rename_i rest
    split at h
    · rename_i hlast
      cases h
      intro c hc
      rcases List.mem_cons.mp hc with rfl | hc
      · decide
      · obtain ⟨init, hinit⟩ := List.getLast?_eq_some_iff.mp hlast
        rw [hinit] at hc hinner
        rw [List.dropLast_concat] at hinner
        rcases List.mem_append.mp hc with hc | hc
        · exact hinner c hc
        · rw [List.mem_singleton.mp hc]
          decide
    · cases h
  · cases h

/-- Neither are the letters of the prefix, in either case. -/
theorem no_blank_of_afterUrn? {rest : List Char} (h : afterUrn? cs = some rest)
    (hrest : ∀ c ∈ rest, isBlank c = false) : ∀ c ∈ cs, isBlank c = false := by
  unfold afterUrn? at h
  split at h
  · rename_i hurn
    cases h
    have hprefix : "urn:uuid:".toList.all (fun c => isBlank c == false) = true := by
      decide +kernel
    intro c hc
    rw [← List.take_append_drop 9 cs] at hc
    rcases List.mem_append.mp hc with hc | hc
    · rw [← isBlank_toLower]
      exact beq_iff_eq.mp (List.all_eq_true.mp hprefix _ (hurn ▸ List.mem_map_of_mem hc))
    · exact hrest c hc
  · cases h

/-- A text that is recognised has no blank in it. -/
theorem no_blank_of_isText {s : String} (h : isText s = true) :
    ∀ c ∈ s.toList, isBlank c = false := by
  simp only [isText, Bool.or_eq_true, Option.any_eq_true] at h
  rcases h with ((hdigits | hhyphenated) | ⟨inner, hinner, hform⟩) | ⟨rest, hrest, hform⟩
  · exact no_blank_of_isDigits hdigits
  · exact no_blank_of_isHyphenated hhyphenated
  · exact no_blank_of_unbraced? hinner (no_blank_of_isHyphenated hform)
  · exact no_blank_of_afterUrn? hrest (no_blank_of_isHyphenated hform)

theorem trim_of_isText {s : String} (h : isText s = true) : trim s = s :=
  trim_of_no_blank (no_blank_of_isText h)

/-- When it is recognised trimmed, a text is recognised as it stands if and only if there is
nothing to trim. -/
theorem isText_iff_of_trim {s : String} (h : isText (trim s) = true) :
    isText s = true ↔ trim s = s := by
  constructor
  · exact trim_of_isText
  · intro htrim
    rw [← htrim]
    exact h

/-! ## What a UUID is written as is recognised -/

/-- Some of the digits of a UUID are a group of hexadecimal digits, with no hyphen in it. -/
theorem isDigits_of_subset {u : Uuid} {count : Nat} {ds : List Char} (hlength : ds.length = count)
    (hds : ds ⊆ hexDigits 32 u.bits.toNat) : isDigits count ds = true ∧ '-' ∉ ds := by
  refine ⟨?_, fun hmem => ?_⟩
  · rw [isDigits, hlength, Bool.and_eq_true, beq_iff_eq, List.all_eq_true]
    exact ⟨rfl, fun c hc => isHexDigit_of_mem_hexDigits c (hds hc)⟩
  · obtain ⟨d, hd, heq⟩ := mem_hexDigits (hds hmem)
    exact (hexDigit_plain d hd).1 heq.symm

theorem isHyphenated_chars (u : Uuid) : isHyphenated u.chars = true := by
  have hlength := length_hexDigits 32 u.bits.toNat
  have hgroup : ∀ start count, start + count ≤ 32 →
      isDigits count (((hexDigits 32 u.bits.toNat).drop start).take count) = true ∧
        '-' ∉ ((hexDigits 32 u.bits.toNat).drop start).take count := by
    intro start count hrange
    refine isDigits_of_subset ?_ fun _ hc => List.mem_of_mem_drop (List.mem_of_mem_take hc)
    rw [List.length_take, List.length_drop, hlength]
    omega
  obtain ⟨ha, ha'⟩ := hgroup 0 8 (by decide)
  obtain ⟨hb, hb'⟩ := hgroup 8 4 (by decide)
  obtain ⟨hc, hc'⟩ := hgroup 12 4 (by decide)
  obtain ⟨hd, hd'⟩ := hgroup 16 4 (by decide)
  obtain ⟨he, he'⟩ := hgroup 20 12 (by decide)
  -- the first group and the last one are cut at one end only
  rw [List.drop_zero] at ha ha'
  rw [List.take_of_length_le (by simp [hlength])] at he he'
  unfold isHyphenated
  simp only [chars, pieces_append, pieces_of_not_mem ha', pieces_of_not_mem hb',
    pieces_of_not_mem hc', pieces_of_not_mem hd', pieces_of_not_mem he', List.cons_append,
    List.nil_append, ha, hb, hc, hd, he, Bool.and_true]

theorem isText_text (u : Uuid) : isText u.text = true := by
  simp [isText, text, isHyphenated_chars]

end Uuid

end Dataspace
