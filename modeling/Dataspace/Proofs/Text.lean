/-
Cutting and trimming, as lemmas.

Everything the connector and its clients do with a URL is one of four things:
take a beginning off, take slashes or blanks off an end, cut at slashes, and
take what stands before the last slash.  Here is what each of them does to a
text that was put together from parts, which is all that reading back a URI
needs.
-/
import Dataspace.Text.Split

namespace Dataspace.Text

/-! ## Trimming leaves a list alone that ends in something else -/

theorem dropEndWhile_concat {α : Type} {p : α → Bool} {x : α} (h : p x = false) (xs : List α) :
    dropEndWhile p (xs ++ [x]) = xs ++ [x] := by
  simp [dropEndWhile, h]

/-- The general form: the last element is the last one of a non-empty end. -/
theorem dropEndWhile_append_of_last {α : Type} {p : α → Bool} {ys : List α} (hne : ys ≠ [])
    (h : ∀ y ∈ ys, p y = false) (xs : List α) : dropEndWhile p (xs ++ ys) = xs ++ ys := by
  have hlast : p (ys.getLast hne) = false := h _ (List.getLast_mem hne)
  rw [← List.dropLast_concat_getLast hne, ← List.append_assoc]
  exact dropEndWhile_concat hlast _

/-! ## What is left by trimming -/

section Heads

variable {α : Type} {p : α → Bool} {xs : List α}

theorem any_head?_dropWhile (p : α → Bool) (xs : List α) :
    (xs.dropWhile p).head?.any p = false := by
  have hhead := List.head?_dropWhile_not p xs
  cases hdrop : (xs.dropWhile p).head? with
  | none => rfl
  | some x =>
      rw [hdrop] at hhead
      exact hhead

theorem dropWhile_of_any_head? (h : xs.head?.any p = false) : xs.dropWhile p = xs := by
  cases xs with
  | nil => rfl
  | cons x rest =>
      have hx : p x = false := h
      simp [hx]

/-- What is left when the end of a list is dropped begins as the list does. -/
theorem any_head?_dropEndWhile (p q : α → Bool) (h : xs.head?.any q = false) :
    (dropEndWhile p xs).head?.any q = false := by
  have hwhole := dropEndWhile_append p xs
  cases hleft : dropEndWhile p xs with
  | nil => rfl
  | cons x rest =>
      rw [hleft] at hwhole
      rw [← hwhole] at h
      exact h

/-- Nothing is left to be dropped after the run is dropped. -/
theorem dropEndWhile_idem (p : α → Bool) (xs : List α) :
    dropEndWhile p (dropEndWhile p xs) = dropEndWhile p xs := by
  rw [dropEndWhile, dropEndWhile, List.reverse_reverse,
    dropWhile_of_any_head? (any_head?_dropWhile p _)]

/-- What is left when a run is dropped from the end does not end in a member of such a run. -/
theorem dropEndWhile_ne_concat {x : α} (h : p x = true) (xs front : List α) :
    dropEndWhile p xs ≠ front ++ [x] := by
  intro heq
  have hback : xs.reverse.dropWhile p = x :: front.reverse := by
    have hrev := congrArg List.reverse heq
    simpa [dropEndWhile] using hrev
  have hhead := any_head?_dropWhile p xs.reverse
  rw [hback] at hhead
  exact Bool.noConfusion (h.symm.trans hhead)

end Heads

/-- The first character of a text is blank. -/
def startsBlank (s : String) : Bool :=
  s.toList.head?.any isBlank

theorem any_head?_trimChars (cs : List Char) : (trimChars cs).head?.any isBlank = false :=
  any_head?_dropEndWhile isBlank isBlank (any_head?_dropWhile isBlank cs)

/-- A text that neither begins nor ends with a blank is not changed by trimming. -/
theorem trimChars_append {cs ds : List Char} (hstart : (cs ++ ds).head?.any isBlank = false)
    (hne : ds ≠ []) (hend : ∀ d ∈ ds, isBlank d = false) : trimChars (cs ++ ds) = cs ++ ds := by
  rw [trimChars, dropWhile_of_any_head? hstart]
  exact dropEndWhile_append_of_last hne hend cs

theorem trimChars_idem (cs : List Char) : trimChars (trimChars cs) = trimChars cs := by
  have hagain : trimChars (trimChars cs) = dropEndWhile isBlank (trimChars cs) := by
    rw [trimChars, dropWhile_of_any_head? (any_head?_trimChars cs)]
  rw [hagain]
  exact dropEndWhile_idem _ _

/-! ## Cutting at a separator -/

theorem addToPieces_sep (sep : Char) {ps : List (List Char)} (h : ps ≠ []) :
    addToPieces sep sep ps = [] :: ps := by
  cases ps with
  | nil => exact absurd rfl h
  | cons p ps => simp [addToPieces]

theorem pieces_sep_cons (sep : Char) (cs : List Char) :
    pieces sep (sep :: cs) = [] :: pieces sep cs := by
  rw [pieces_cons]
  exact addToPieces_sep sep (pieces_ne_nil sep cs)

theorem addToPieces_append (sep c : Char) {ps : List (List Char)} (h : ps ≠ [])
    (qs : List (List Char)) : addToPieces sep c (ps ++ qs) = addToPieces sep c ps ++ qs := by
  cases ps with
  | nil => exact absurd rfl h
  | cons p ps =>
      simp only [List.cons_append, addToPieces]
      split <;> rfl

/-- Two texts with a separator between them are cut apart. -/
theorem pieces_append (sep : Char) (cs ds : List Char) :
    pieces sep (cs ++ sep :: ds) = pieces sep cs ++ pieces sep ds := by
  induction cs with
  | nil => rw [List.nil_append, pieces_sep_cons, pieces_nil, List.singleton_append]
  | cons c cs ih =>
      rw [List.cons_append, pieces_cons, ih, pieces_cons]
      exact addToPieces_append sep c (pieces_ne_nil sep cs) _

/-- A text without separators is one piece. -/
theorem pieces_of_not_mem {sep : Char} {cs : List Char} (h : sep ∉ cs) : pieces sep cs = [cs] := by
  induction cs with
  | nil => rfl
  | cons c cs ih =>
      have hc : c ≠ sep := fun e => h (e ▸ List.mem_cons_self)
      rw [pieces_cons, ih fun hm => h (List.mem_cons_of_mem _ hm)]
      simp [addToPieces, hc]

/-- The first separator of a text ends the same part however the text is cut. -/
theorem append_sep_injective {sep : Char} :
    ∀ {cs ds : List Char}, sep ∉ cs → sep ∉ ds → ∀ {xs ys : List Char},
      cs ++ sep :: xs = ds ++ sep :: ys → cs = ds ∧ xs = ys
  | [], [], _, _, _, _, h => ⟨rfl, (List.cons.inj h).2⟩
  | [], _ :: _, _, hd, _, _, h => absurd ((List.cons.inj h).1 ▸ List.mem_cons_self) hd
  | _ :: _, [], hc, _, _, _, h => absurd ((List.cons.inj h).1 ▸ List.mem_cons_self) hc
  | c :: cs, d :: ds, hc, hd, _, _, h => by
      obtain ⟨rfl, htail⟩ := List.cons.inj h
      obtain ⟨rfl, hrest⟩ := append_sep_injective (fun hm => hc (List.mem_cons_of_mem _ hm))
        (fun hm => hd (List.mem_cons_of_mem _ hm)) htail
      exact ⟨rfl, hrest⟩

/-- A text is one piece, or it has a last separator and a last piece after it. -/
theorem not_mem_or_last_sep (sep : Char) (cs : List Char) :
    sep ∉ cs ∨ ∃ front last, sep ∉ last ∧ cs = front ++ sep :: last := by
  by_cases hsep : sep ∈ cs
  · -- the last separator is the first one from behind
    obtain ⟨after, before, hcut, hafter⟩ := List.eq_append_cons_of_mem (List.mem_reverse.mpr hsep)
    refine Or.inr ⟨before.reverse, after.reverse, ?_, ?_⟩
    · intro hlast
      exact hafter (List.mem_reverse.mp hlast)
    · have hback := congrArg List.reverse hcut
      simpa using hback
  · exact Or.inl hsep

/-! ## What stands before the last separator -/

theorem dropWhile_ne_append {sep : Char} {cs : List Char} (h : sep ∉ cs) (ds : List Char) :
    (cs ++ sep :: ds).dropWhile (· != sep) = sep :: ds := by
  induction cs with
  | nil => simp
  | cons c cs ih =>
      have hc : c ≠ sep := fun e => h (e ▸ List.mem_cons_self)
      rw [List.cons_append, List.dropWhile_cons, if_pos (by simpa using hc)]
      exact ih fun hm => h (List.mem_cons_of_mem _ hm)

theorem beforeLast?_append {sep : Char} {last : String} (h : sep ∉ last.toList) (s : String) :
    beforeLast? sep (s ++ String.singleton sep ++ last) = some s := by
  have hlist : (s ++ String.singleton sep ++ last).toList = s.toList ++ sep :: last.toList := by
    simp
  have hrev : (s.toList ++ sep :: last.toList).reverse
      = last.toList.reverse ++ sep :: s.toList.reverse := by simp
  rw [beforeLast?, hlist, if_pos (by simp), hrev,
    dropWhile_ne_append (fun hm => h (List.mem_reverse.mp hm))]
  simp

/-! ## Taking a beginning off -/

theorem stripStart?_append (start rest : String) :
    stripStart? start (start ++ rest) = some rest := by
  have hpre : start.toList.isPrefixOf (start ++ rest).toList = true := by
    rw [String.toList_append]
    exact List.isPrefixOf_iff_prefix.mpr (List.prefix_append _ _)
  have hdrop : (start ++ rest).toList.drop start.length = rest.toList := by
    rw [String.toList_append, ← String.length_toList]
    exact List.drop_left
  rw [stripStart?, if_pos hpre, hdrop, String.ofList_toList]

/-! ## Slashes -/

/-- So many slashes. -/
def slashes (n : Nat) : String :=
  String.ofList (List.replicate n '/')

theorem toList_slashes (n : Nat) : (slashes n).toList = List.replicate n '/' :=
  String.toList_ofList

theorem slashes_succ (n : Nat) : slashes (n + 1) = slashes n ++ String.singleton '/' := by
  refine String.toList_inj.mp ?_
  simp [toList_slashes, List.replicate_succ']

theorem slashes_add (m n : Nat) : slashes (m + n) = slashes m ++ slashes n := by
  refine String.toList_inj.mp ?_
  simp [toList_slashes, List.replicate_append_replicate]

end Dataspace.Text
