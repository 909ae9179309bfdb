/-
Reading UTF-8 back.

The bytes of a character take the reader from between characters to between
characters, with that character added.  Which byte leads a character of two, three
or four bytes, and within which bounds the next one lies, is where the reader and
the writer have to agree; the rest adds six bits at a time.
-/
import Dataspace.Proofs.Text
import Dataspace.Text.Utf8

namespace Dataspace.Text.Utf8

/-! ## How many bytes there are -/

theorem encode_append (s t : String) : encode (s ++ t) = encode s ++ encode t := by
  rw [encode, String.toList_append, List.flatMap_append]
  rfl

theorem length_encode_slashes (n : Nat) : (encode (slashes n)).length = n := by
  induction n with
  | zero => rfl
  | succ n ih =>
      rw [slashes_succ, encode_append, List.length_append, ih]
      rfl

/-- What a text begins with has no more bytes. -/
theorem length_encode_le {s t : String} (h : s.toList <+: t.toList) :
    (encode s).length ≤ (encode t).length := by
  obtain ⟨rest, hrest⟩ := h
  rw [encode, encode, ← hrest, List.flatMap_append, List.length_append]
  exact Nat.le_add_right _ _

/-! ## Bytes that continue a character -/

section Continue

variable {value low high n : Nat} {done : List (Option Char)} {b : UInt8}

theorem scanFrom_between {state : State} {out : List (Option Char)} (hb : b.toNat = n)
    (h : lead n = (state, out)) (rest : Bytes) :
    scanFrom .between done (b :: rest) = scanFrom state (out.reverse ++ done) rest := by
  simp only [scanFrom, step, hb, h]

/-- A byte within the bounds adds its six bits. -/
theorem scanFrom_continue {owed : Nat} (hb : b.toNat = n) (hlow : low ≤ n) (hhigh : n ≤ high)
    (rest : Bytes) :
    scanFrom (.inside (owed + 2) value low high) done (b :: rest)
      = scanFrom (.inside (owed + 1) (value * 64 + (n - 0x80)) 0x80 0xBF) done rest := by
  have howed : ¬ owed + 2 ≤ 1 := by omega
  have hbounds : low ≤ n ∧ n ≤ high := ⟨hlow, hhigh⟩
  simp only [scanFrom, step, hb, if_pos hbounds, if_neg howed, List.reverse_nil, List.nil_append]
  rfl

/-- The last byte that is owed completes the character. -/
theorem scanFrom_last (hb : b.toNat = n) (hlow : low ≤ n) (hhigh : n ≤ high) (rest : Bytes) :
    scanFrom (.inside 1 value low high) done (b :: rest)
      = scanFrom .between (some (Char.ofNat (value * 64 + (n - 0x80))) :: done) rest := by
  have hbounds : low ≤ n ∧ n ≤ high := ⟨hlow, hhigh⟩
  simp only [scanFrom, step, hb, if_pos hbounds, Nat.le_refl, if_true, List.reverse_singleton,
    List.singleton_append]

end Continue

/-! ## Bytes that begin one -/

theorem lead_one {b : Nat} (h : b < 0x80) : lead b = (.between, [some (Char.ofNat b)]) :=
  if_pos h

theorem lead_two {b : Nat} (hlow : 0xC2 ≤ b) (hhigh : b < 0xE0) :
    lead b = (.inside 1 (b - 0xC0) 0x80 0xBF, []) := by
  unfold lead
  rw [if_neg (by omega), if_neg (by omega), if_pos hhigh]

/-- After the lead of three bytes the next one is bounded so that no shorter form and no surrogate
is read. -/
theorem lead_three (b next : Nat) (hlow : 0xE0 ≤ b) (hhigh : b < 0xF0) (hnext : 0x80 ≤ next)
    (hnext' : next ≤ 0xBF) (hshort : b = 0xE0 → 0xA0 ≤ next) (hsurrogate : b = 0xED → next ≤ 0x9F) :
    ∃ low high, lead b = (.inside 2 (b - 0xE0) low high, []) ∧ low ≤ next ∧ next ≤ high := by
  unfold lead
  rw [if_neg (by omega), if_neg (by omega), if_neg (by omega)]
  by_cases hE0 : b = 0xE0
  · subst hE0
    exact ⟨0xA0, 0xBF, rfl, hshort rfl, hnext'⟩
  · rw [if_neg hE0]
    by_cases hED : b = 0xED
    · subst hED
      exact ⟨0x80, 0x9F, rfl, hnext, hsurrogate rfl⟩
    · rw [if_neg hED, if_pos hhigh]
      exact ⟨0x80, 0xBF, rfl, hnext, hnext'⟩

/-- After the lead of four bytes the next one is bounded so that no shorter form and nothing beyond
the last character is read. -/
theorem lead_four (b next : Nat) (hlow : 0xF0 ≤ b) (hhigh : b ≤ 0xF4) (hnext : 0x80 ≤ next)
    (hnext' : next ≤ 0xBF) (hshort : b = 0xF0 → 0x90 ≤ next) (hbeyond : b = 0xF4 → next ≤ 0x8F) :
    ∃ low high, lead b = (.inside 3 (b - 0xF0) low high, []) ∧ low ≤ next ∧ next ≤ high := by
  unfold lead
  rw [if_neg (by omega), if_neg (by omega), if_neg (by omega), if_neg (by omega), if_neg (by omega),
    if_neg (by omega)]
  by_cases hF0 : b = 0xF0
  · subst hF0
    exact ⟨0x90, 0xBF, rfl, hshort rfl, hnext'⟩
  · rw [if_neg hF0]
    by_cases hF4 : b < 0xF4
    · rw [if_pos hF4]
      exact ⟨0x80, 0xBF, rfl, hnext, hnext'⟩
    · obtain rfl : b = 0xF4 := by omega
      exact ⟨0x80, 0x8F, rfl, hnext, hbeyond rfl⟩

/-! ## Characters and texts -/

theorem toNat_ofNat_of_lt {n : Nat} (h : n < 256) : (UInt8.ofNat n).toNat = n := by
  rw [UInt8.toNat_ofNat']
  exact Nat.mod_eq_of_lt h

/-- A character is no surrogate, and not beyond the last one. -/
theorem toNat_bounds (c : Char) : (c.toNat < 0xD800 ∨ 0xDFFF < c.toNat) ∧ c.toNat < 0x110000 := by
  rcases c.valid with hlow | ⟨hhigh, hlast⟩
  · have hlow' : c.toNat < 0xD800 := hlow
    exact ⟨Or.inl hlow', by omega⟩
  · exact ⟨Or.inr hhigh, hlast⟩

/-- The bytes of a character are read as that character. -/
theorem scanFrom_utf8EncodeChar (c : Char) (done : List (Option Char)) (rest : Bytes) :
    scanFrom .between done (String.utf8EncodeChar c ++ rest)
      = scanFrom .between (some c :: done) rest := by
  obtain ⟨hsurrogate, hlast⟩ := toNat_bounds c
  have hchar : Char.ofNat c.toNat = c := Char.ofNat_toNat c
  generalize hv : c.toNat = v at hsurrogate hlast hchar
  have hval : c.val.toNat = v := hv
  simp only [String.utf8EncodeChar, hval]
  split
  · have h₀ : (UInt8.ofNat v).toNat = v := toNat_ofNat_of_lt (by omega)
    rw [List.singleton_append, scanFrom_between h₀ (lead_one (by omega)), hchar]
    rfl
  split
  · have h₀ : (UInt8.ofNat (v / 64 % 32 + 192)).toNat = v / 64 + 192 :=
      (toNat_ofNat_of_lt (by omega)).trans (by omega)
    have h₁ : (UInt8.ofNat (v % 64 + 128)).toNat = v % 64 + 128 := toNat_ofNat_of_lt (by omega)
    have hvalue : (v / 64 + 192 - 0xC0) * 64 + (v % 64 + 128 - 0x80) = v := by omega
    simp only [List.cons_append, List.nil_append]
    rw [scanFrom_between h₀ (lead_two (by omega) (by omega)),
      scanFrom_last h₁ (by omega) (by omega), hvalue, hchar]
    rfl
  split
  · have h₀ : (UInt8.ofNat (v / 4096 % 16 + 224)).toNat = v / 4096 + 224 :=
      (toNat_ofNat_of_lt (by omega)).trans (by omega)
    have h₁ : (UInt8.ofNat (v / 64 % 64 + 128)).toNat = v / 64 % 64 + 128 :=
      toNat_ofNat_of_lt (by omega)
    have h₂ : (UInt8.ofNat (v % 64 + 128)).toNat = v % 64 + 128 := toNat_ofNat_of_lt (by omega)
    obtain ⟨low, high, hlead, hlow, hhigh⟩ := lead_three (v / 4096 + 224) (v / 64 % 64 + 128)
      (by omega) (by omega) (by omega) (by omega) (by omega) (by omega)
    have hvalue : ((v / 4096 + 224 - 0xE0) * 64 + (v / 64 % 64 + 128 - 0x80)) * 64
        + (v % 64 + 128 - 0x80) = v := by omega
    simp only [List.cons_append, List.nil_append]
    rw [scanFrom_between h₀ hlead, scanFrom_continue h₁ hlow hhigh,
      scanFrom_last h₂ (by omega) (by omega), hvalue, hchar]
    rfl
  · have h₀ : (UInt8.ofNat (v / 262144 % 8 + 240)).toNat = v / 262144 + 240 :=
      (toNat_ofNat_of_lt (by omega)).trans (by omega)
    have h₁ : (UInt8.ofNat (v / 4096 % 64 + 128)).toNat = v / 4096 % 64 + 128 :=
      toNat_ofNat_of_lt (by omega)
    have h₂ : (UInt8.ofNat (v / 64 % 64 + 128)).toNat = v / 64 % 64 + 128 :=
      toNat_ofNat_of_lt (by omega)
    have h₃ : (UInt8.ofNat (v % 64 + 128)).toNat = v % 64 + 128 := toNat_ofNat_of_lt (by omega)
    obtain ⟨low, high, hlead, hlow, hhigh⟩ := lead_four (v / 262144 + 240) (v / 4096 % 64 + 128)
      (by omega) (by omega) (by omega) (by omega) (by omega) (by omega)
    have hvalue : (((v / 262144 + 240 - 0xF0) * 64 + (v / 4096 % 64 + 128 - 0x80)) * 64
        + (v / 64 % 64 + 128 - 0x80)) * 64 + (v % 64 + 128 - 0x80) = v := by omega
    simp only [List.cons_append, List.nil_append]
    rw [scanFrom_between h₀ hlead, scanFrom_continue h₁ hlow hhigh,
      scanFrom_continue h₂ (by omega) (by omega), scanFrom_last h₃ (by omega) (by omega), hvalue,
      hchar]
    rfl

theorem scanFrom_encode (cs : List Char) (done : List (Option Char)) :
    scanFrom .between done (cs.flatMap String.utf8EncodeChar) = done.reverse ++ cs.map some := by
  induction cs generalizing done with
  | nil => simp [scanFrom, close]
  | cons c rest ih =>
      rw [List.flatMap_cons, scanFrom_utf8EncodeChar, ih]
      simp

theorem scan_encode (s : String) : scan (encode s) = s.toList.map some :=
  scanFrom_encode s.toList []

/-- Every text is read back from its bytes. -/
theorem decode?_encode (s : String) : decode? (encode s) = some s := by
  have hall : (s.toList.map some).mapM id = some s.toList := by
    rw [List.mapM_map]
    exact (List.mapM_pure (m := Option) (f := id)).trans (congrArg some (List.map_id _))
  rw [decode?, scan_encode, hall, Option.map_some, String.ofList_toList]

/-- Nothing of it is replaced, either. -/
theorem decodeLossy_encode (s : String) : decodeLossy (encode s) = s := by
  rw [decodeLossy, scan_encode, List.map_map]
  exact (congrArg String.ofList (List.map_id _)).trans String.ofList_toList

end Dataspace.Text.Utf8
