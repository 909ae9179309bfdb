/-
Keyed lists as finite maps.

Keys stand in strictly ascending order, and insertion keeps them so.  In such a
list look-up and membership say the same, and inserting under a key that is not
there adds one pair and changes no other.
-/
import Dataspace.Keyed

namespace Dataspace.Keyed

variable {α : Type}

/-- The keys ascend strictly. -/
def Ascending (m : List (String × α)) : Prop :=
  m.Pairwise fun p q => p.1 < q.1

/-! ## Look-up and membership -/

theorem mem_of_lookup {key : String} {value : α} {m : List (String × α)}
    (h : lookup key m = some value) : (key, value) ∈ m := by
  induction m with
  | nil => exact absurd h (by simp [lookup])
  | cons p rest ih =>
      obtain ⟨k, v⟩ := p
      by_cases hk : k = key
      · subst hk
        simp only [lookup, if_true, Option.some.injEq] at h
        exact h ▸ List.mem_cons_self
      · simp only [lookup, if_neg hk] at h
        exact List.mem_cons_of_mem _ (ih h)

/-- Where no key occurs twice, a pair that is there is found. -/
theorem lookup_of_nodup {key : String} {value : α} {m : List (String × α)}
    (hm : (m.map Prod.fst).Nodup) (h : (key, value) ∈ m) : lookup key m = some value := by
  induction m with
  | nil => exact absurd h List.not_mem_nil
  | cons p rest ih =>
      obtain ⟨hfirst, hrest⟩ := List.nodup_cons.mp hm
      rcases List.mem_cons.mp h with rfl | hin
      · simp [lookup]
      · have hne : p.1 ≠ key := by
          rintro rfl
          exact hfirst (List.mem_map.mpr ⟨(p.1, value), hin, rfl⟩)
        simp only [lookup, if_neg hne]
        exact ih hrest hin

theorem nodup_keys {m : List (String × α)} (hm : Ascending m) : (m.map Prod.fst).Nodup := by
  refine List.pairwise_map.mpr (hm.imp ?_)
  intro p q h e
  rw [e] at h
  exact String.lt_irrefl _ h

theorem lookup_of_mem {key : String} {value : α} {m : List (String × α)} (hm : Ascending m)
    (h : (key, value) ∈ m) : lookup key m = some value :=
  lookup_of_nodup (nodup_keys hm) h

theorem lookup_eq_none_iff {key : String} {m : List (String × α)} :
    lookup key m = none ↔ ∀ p ∈ m, p.1 ≠ key := by
  induction m with
  | nil => simp [lookup]
  | cons p rest ih =>
      obtain ⟨k, v⟩ := p
      by_cases hk : k = key
      · simp [lookup, hk]
      · simp [lookup, hk, ih]

/-! ## Insertion -/

theorem mem_insert {key : String} {value : α} {m : List (String × α)} {p : String × α}
    (h : p ∈ insert key value m) : p = (key, value) ∨ p ∈ m := by
  induction m with
  | nil => exact Or.inl (List.mem_singleton.mp h)
  | cons q rest ih =>
      simp only [insert] at h
      split at h
      · rcases List.mem_cons.mp h with rfl | hin
        · exact Or.inl rfl
        · exact Or.inr (List.mem_cons_of_mem _ hin)
      · split at h
        · exact (List.mem_cons.mp h).imp id id
        · rcases List.mem_cons.mp h with rfl | hin
          · exact Or.inr List.mem_cons_self
          · exact (ih hin).imp id (List.mem_cons_of_mem _)

theorem ascending_insert {key : String} {value : α} {m : List (String × α)} (hm : Ascending m) :
    Ascending (insert key value m) := by
  induction m with
  | nil => exact List.pairwise_singleton _ _
  | cons q rest ih =>
      obtain ⟨hfirst, hrest⟩ := List.pairwise_cons.mp hm
      obtain ⟨k, v⟩ := q
      simp only [insert]
      split
      · rename_i hk
        subst hk
        exact List.pairwise_cons.mpr ⟨hfirst, hrest⟩
      · rename_i hne
        split
        · rename_i hlt
          refine List.pairwise_cons.mpr ⟨?_, hm⟩
          intro p hp
          rcases List.mem_cons.mp hp with rfl | hin
          · exact hlt
          · exact String.lt_trans hlt (hfirst p hin)
        · rename_i hge
          refine List.pairwise_cons.mpr ⟨?_, ih hrest⟩
          intro p hp
          rcases mem_insert hp with rfl | hin
          · -- neither equal nor above, so the new key comes later
            exact Classical.byContradiction fun hnot =>
              hne (String.le_antisymm (String.not_lt.mp hge) (String.not_lt.mp hnot))
          · exact hfirst p hin

/-- Under a new key nothing is replaced. -/
theorem insert_perm {key : String} (value : α) {m : List (String × α)}
    (h : lookup key m = none) : (insert key value m).Perm ((key, value) :: m) := by
  induction m with
  | nil => exact List.Perm.refl _
  | cons q rest ih =>
      obtain ⟨k, v⟩ := q
      have hk : k ≠ key := lookup_eq_none_iff.mp h _ List.mem_cons_self
      simp only [lookup, if_neg hk] at h
      simp only [insert, if_neg hk]
      split
      · exact List.Perm.refl _
      · exact ((ih h).cons _).trans (List.Perm.swap _ _ _)

/-! ## Maps of lists -/

/-- A pair whose key comes after all others is put at the end. -/
theorem insert_of_lt {key : String} (value : α) {m : List (String × α)}
    (h : ∀ p ∈ m, p.1 < key) : insert key value m = m ++ [(key, value)] := by
  induction m with
  | nil => rfl
  | cons p rest ih =>
      obtain ⟨hp, hrest⟩ := List.forall_mem_cons.mp h
      have hne : p.1 ≠ key := fun e => String.lt_irrefl key (by rwa [e] at hp)
      have hge : ¬ key < p.1 := fun hlt => String.lt_irrefl key (String.lt_trans hlt hp)
      rw [insert, if_neg hne, if_neg hge, ih hrest, List.cons_append]

section OfList

variable {pairs m : List (String × α)}

/-- Puts pairs into a map, one after the other. -/
def insertAll (m pairs : List (String × α)) : List (String × α) :=
  pairs.foldl (fun m p => insert p.1 p.2 m) m

theorem ascending_insertAll (h : Ascending m) : Ascending (insertAll m pairs) := by
  induction pairs generalizing m with
  | nil => exact h
  | cons p rest ih => exact ih (ascending_insert h)

theorem mem_of_mem_insertAll {p : String × α} (h : p ∈ insertAll m pairs) :
    p ∈ m ∨ p ∈ pairs := by
  induction pairs generalizing m with
  | nil => exact Or.inl h
  | cons q rest ih =>
      rcases ih h with hm | hrest
      · rcases mem_insert hm with rfl | hold
        · exact Or.inr List.mem_cons_self
        · exact Or.inl hold
      · exact Or.inr (List.mem_cons_of_mem _ hrest)

theorem lookup_append (key : String) (m rest : List (String × α)) :
    lookup key (m ++ rest) = (lookup key m).or (lookup key rest) := by
  induction m with
  | nil => rfl
  | cons p m ih =>
      by_cases hp : p.1 = key
      · simp [lookup, hp]
      · simp [lookup, hp, ih]

theorem lookup_insertAll (key : String) :
    lookup key (insertAll m pairs) = (lookup key pairs.reverse).or (lookup key m) := by
  induction pairs generalizing m with
  | nil => rfl
  | cons p rest ih =>
      have hfirst : lookup key (insert p.1 p.2 m) = (lookup key [p]).or (lookup key m) := by
        rw [lookup_insert]
        by_cases hp : p.1 = key
        · simp [lookup, hp]
        · simp [lookup, hp, Ne.symm hp]
      rw [List.reverse_cons, lookup_append, Option.or_assoc, ← hfirst]
      exact ih

theorem insertAll_of_ascending (h : Ascending (m ++ pairs)) :
    insertAll m pairs = m ++ pairs := by
  induction pairs generalizing m with
  | nil => exact (List.append_nil m).symm
  | cons p rest ih =>
      have hlast : ∀ q ∈ m, q.1 < p.1 := fun q hq =>
        (List.pairwise_append.mp h).2.2 q hq p List.mem_cons_self
      have hfirst : insertAll m (p :: rest) = insertAll (m ++ [(p.1, p.2)]) rest :=
        congrArg (insertAll · rest) (insert_of_lt p.2 hlast)
      rw [List.append_cons] at h ⊢
      rw [hfirst, ih h]

theorem ofList_concat (pairs : List (String × α)) (p : String × α) :
    ofList (pairs ++ [p]) = insert p.1 p.2 (ofList pairs) :=
  List.foldl_append

theorem ascending_ofList (pairs : List (String × α)) : Ascending (ofList pairs) :=
  ascending_insertAll List.Pairwise.nil

theorem mem_of_mem_ofList {p : String × α} (h : p ∈ ofList pairs) : p ∈ pairs :=
  (mem_of_mem_insertAll h).resolve_left List.not_mem_nil

/-- The last pair with a key counts. -/
theorem lookup_ofList (key : String) (pairs : List (String × α)) :
    lookup key (ofList pairs) = lookup key pairs.reverse :=
  (lookup_insertAll key).trans Option.or_none

/-- Where no key occurs twice, the order of the pairs does not matter. -/
theorem lookup_ofList_of_nodup (key : String) (h : (pairs.map Prod.fst).Nodup) :
    lookup key (ofList pairs) = lookup key pairs := by
  rw [lookup_ofList]
  cases hfound : lookup key pairs with
  | none =>
      have habsent := lookup_eq_none_iff.mp hfound
      exact lookup_eq_none_iff.mpr fun p hp => habsent p (List.mem_reverse.mp hp)
  | some v =>
      have hreverse : (pairs.reverse.map Prod.fst).Nodup := by
        rw [List.map_reverse]
        exact (List.reverse_perm _).nodup_iff.mpr h
      exact lookup_of_nodup hreverse (List.mem_reverse.mpr (mem_of_lookup hfound))

/-- Pairs in ascending order are their own map. -/
theorem ofList_of_ascending (h : Ascending m) : ofList m = m :=
  insertAll_of_ascending (m := []) h

end OfList

end Dataspace.Keyed
