/-
How a handle is spelled.

The blanks around a text and then the slashes at its end are taken off.  What is left is
a handle if and only if it is a front that is empty or ends in a slash, `api/`, a
collection, a slash, and an id without slashes.  The segments of a text are what comes
from cutting it at its last slash again and again, so the front may hold anything, also
`api` or the name of a collection: the last three segments alone decide, and they leave
one way to take the text apart.  The last segment is never empty where there are three,
because no slash is left at the end.
-/
import Dataspace.Proofs.Address

namespace Dataspace

open Text

/-! ## Segments from the last one on -/

namespace Handle

variable {cs front last : List Char} {kind : EntityKind} {id : String}

theorem lastSegments_of_not_mem (h : '/' ∉ cs) : lastSegments cs = [String.ofList cs] := by
  rw [lastSegments, pieces_of_not_mem h]
  rfl

theorem lastSegments_append (h : '/' ∉ last) :
    lastSegments (front ++ '/' :: last) = String.ofList last :: lastSegments front := by
  rw [lastSegments, pieces_append, pieces_of_not_mem h, List.reverse_append]
  rfl

/-- A text begins, from behind, with a segment that has no slash.  Either that is all, or a slash
stands before it, and the other segments are those of what stands before the slash. -/
theorem lastSegments_eq_cons_iff {segment : String} {more : List String} :
    lastSegments cs = segment :: more ↔ '/' ∉ segment.toList ∧
      ((cs = segment.toList ∧ more = []) ∨
        ∃ front, cs = front ++ '/' :: segment.toList ∧ lastSegments front = more) := by
  constructor
  · intro h
    rcases not_mem_or_last_sep '/' cs with hnone | ⟨front, last, hlast, rfl⟩
    · rw [lastSegments_of_not_mem hnone] at h
      obtain ⟨rfl, rfl⟩ := List.cons.inj h
      rw [String.toList_ofList]
      exact ⟨hnone, Or.inl ⟨rfl, rfl⟩⟩
    · rw [lastSegments_append hlast] at h
      obtain ⟨rfl, hmore⟩ := List.cons.inj h
      rw [String.toList_ofList]
      exact ⟨hlast, Or.inr ⟨front, rfl, hmore⟩⟩
  · rintro ⟨hslash, ⟨rfl, rfl⟩ | ⟨front, rfl, rfl⟩⟩
    · rw [lastSegments_of_not_mem hslash, String.ofList_toList]
    · rw [lastSegments_append hslash, String.ofList_toList]

/-! ## The grammar -/

/-- The text is a front that is empty or ends in a slash, then `api/`, the collection of the kind,
a slash, and the id, which is not empty and has no slash in it. -/
structure Spelled (text front : String) (kind : EntityKind) (id : String) : Prop where
  text_eq : text = front ++ "api/" ++ kind.collection ++ "/" ++ id
  front_ends : front = "" ∨ ∃ before, front = before ++ "/"
  id_ne : id ≠ ""
  no_slash : '/' ∉ id.toList

/-- Where a text ends in `api/` and more without slashes, the last segment before that is `api`. -/
theorem lastSegments_front {front : String} (hfront : front = "" ∨ ∃ before, front = before ++ "/") :
    ∃ rest, lastSegments (front ++ "api").toList = "api" :: rest := by
  rcases hfront with rfl | ⟨before, rfl⟩
  · exact ⟨[], by decide +kernel⟩
  · refine ⟨lastSegments before.toList, ?_⟩
    have hcut : (before ++ "/" ++ "api").toList = before.toList ++ '/' :: "api".toList := by
      simp
    rw [hcut, lastSegments_append (by decide), String.ofList_toList]

/-- Where a text has an address, the three last segments are `api`, a collection and an id. -/
theorem address?_eq_ok_iff_segments :
    address? cs = .ok (kind, id) ↔
      id ≠ "" ∧ ∃ rest, lastSegments cs = id :: kind.collection :: "api" :: rest := by
  constructor
  · intro h
    obtain ⟨rest, hsegments, hid⟩ := address?_ok h
    exact ⟨hid, rest, hsegments⟩
  · rintro ⟨hid, rest, hsegments⟩
    have hfilled : id.isEmpty = false := String.isEmpty_eq_false_iff.mpr hid
    simp only [address?, hsegments, EntityKind.ofCollection?_collection, hfilled,
      Bool.false_eq_true, if_false]

/-- Texts that have an address are those that are spelled as handles. -/
theorem address?_eq_ok_iff :
    address? cs = .ok (kind, id) ↔ ∃ front, Spelled (String.ofList cs) front kind id := by
  rw [address?_eq_ok_iff_segments]
  constructor
  · rintro ⟨hid, rest, hsegments⟩
    -- three segments, each with its slash before it, but perhaps not the first
    obtain ⟨hslash, ⟨-, hone⟩ | ⟨cs₁, rfl, htwo⟩⟩ := lastSegments_eq_cons_iff.mp hsegments
    · cases hone
    obtain ⟨-, ⟨-, hone⟩ | ⟨cs₂, rfl, hthree⟩⟩ := lastSegments_eq_cons_iff.mp htwo
    · cases hone
    obtain ⟨-, ⟨rfl, -⟩ | ⟨cs₃, rfl, -⟩⟩ := lastSegments_eq_cons_iff.mp hthree
    · refine ⟨"", ?_, Or.inl rfl, hid, hslash⟩
      exact String.toList_inj.mp (by simp)
    · refine ⟨String.ofList cs₃ ++ "/", ?_, Or.inr ⟨_, rfl⟩, hid, hslash⟩
      exact String.toList_inj.mp (by simp)
  · rintro ⟨front, htext, hfront, hid, hslash⟩
    have hcs : cs
        = (front ++ "api").toList ++ '/' :: kind.collection.toList ++ '/' :: id.toList := by
      have hlist := congrArg String.toList htext
      simpa using hlist
    obtain ⟨rest, hrest⟩ := lastSegments_front hfront
    refine ⟨hid, rest, ?_⟩
    rw [hcs, lastSegments_append hslash, lastSegments_append kind.slash_not_mem_collection, hrest,
      String.ofList_toList, String.ofList_toList]

/-- There is one way to take a text apart. -/
theorem Spelled.unique {text front front' : String} {kind kind' : EntityKind} {id id' : String}
    (h : Spelled text front kind id) (h' : Spelled text front' kind' id') :
    front = front' ∧ kind = kind' ∧ id = id' := by
  have haddress : address? text.toList = .ok (kind, id) :=
    address?_eq_ok_iff.mpr ⟨front, by rwa [String.ofList_toList]⟩
  have haddress' : address? text.toList = .ok (kind', id') :=
    address?_eq_ok_iff.mpr ⟨front', by rwa [String.ofList_toList]⟩
  obtain ⟨rfl, rfl⟩ := Prod.mk.inj (Except.ok.inj (haddress.symm.trans haddress'))
  refine ⟨?_, rfl, rfl⟩
  have hsame := congrArg String.toList (h.text_eq.symm.trans h'.text_eq)
  simp only [String.toList_append, List.append_assoc] at hsame
  exact String.toList_inj.mp (List.append_cancel_right hsame)

/-! ## Reading -/

/-- An id is empty only where a slash is at the end. -/
theorem address?_ne_emptyId (cs : List Char) :
    address? (dropEndWhile (· == '/') cs) ≠ .error .emptyId := by
  intro h
  unfold address? at h
  split at h
  · rename_i last collection rest hsegments
    split at h
    · cases h
    · split at h
      · rename_i hempty
        obtain rfl : last = "" := String.isEmpty_iff.mp hempty
        obtain ⟨-, ⟨-, hone⟩ | ⟨front, hends, -⟩⟩ := lastSegments_eq_cons_iff.mp hsegments
        · cases hone
        · exact dropEndWhile_ne_concat (p := (· == '/')) rfl _ front hends
      · cases h
  · cases h

/-- What is left of a text without the blanks around it and then without the slashes at its end. -/
def stripped (s : String) : String :=
  dropTrailing '/' (trim s)

theorem ofList_uriChars (s : String) : String.ofList (uriChars s.toList) = stripped s := by
  rw [stripped, dropTrailing, trim, String.toList_ofList]
  rfl

theorem parse_eq_ok_iff {s : String} {h : Handle} :
    parse s = .ok h ↔ h.uri = stripped s ∧ ∃ front, Spelled (stripped s) front h.kind h.id := by
  rw [← ofList_uriChars, ← address?_eq_ok_iff]
  constructor
  · exact parse_ok
  · rintro ⟨huri, haddress⟩
    rw [parse, haddress, ← huri]

/-- Blanks around a text make no difference. -/
theorem parse_trim_eq_ok_iff {s : String} {h : Handle} :
    parse (trim s) = .ok h ↔ parse s = .ok h := by
  have htwice : stripped (trim s) = stripped s := by
    rw [stripped, stripped, trim, trim, String.toList_ofList, trimChars_idem]
  rw [parse_eq_ok_iff, parse_eq_ok_iff, htwice]

theorem parse_error {s : String} {e : HandleError} (h : parse s = .error e) :
    address? (uriChars s.toList) = .error e.fault := by
  unfold parse at h
  simp only at h
  split at h
  · cases h
  · rename_i fault haddress
    cases h
    exact haddress

/-- Reading accepts exactly the texts that are spelled as handles once the blanks around them and
then the slashes at their end are taken off.  A handle keeps that text as its URI, and has the kind
of the collection and the id in it; there is one way to take the text apart.  No text is refused for
an empty id. -/
theorem parse_iff_spelled (u : String) :
    ((∃ h, parse u = .ok h) ↔ ∃ front kind id, Spelled (stripped u) front kind id) ∧
    (∀ h, parse u = .ok h ↔
      h.uri = stripped u ∧ ∃ front, Spelled (stripped u) front h.kind h.id) ∧
    (∀ front kind id front' kind' id', Spelled (stripped u) front kind id →
      Spelled (stripped u) front' kind' id' → front = front' ∧ kind = kind' ∧ id = id') ∧
    ∀ e, parse u = .error e → e.fault ≠ .emptyId := by
  refine ⟨?_, fun h => parse_eq_ok_iff, ?_, ?_⟩
  · constructor
    · rintro ⟨h, hparse⟩
      obtain ⟨-, front, hspelled⟩ := parse_eq_ok_iff.mp hparse
      exact ⟨front, h.kind, h.id, hspelled⟩
    · rintro ⟨front, kind, id, hspelled⟩
      exact ⟨⟨stripped u, kind, id⟩, parse_eq_ok_iff.mpr ⟨rfl, front, hspelled⟩⟩
  · intro front kind id front' kind' id' hspelled hspelled'
    exact hspelled.unique hspelled'
  · intro e hparse hfault
    have haddress := parse_error hparse
    rw [hfault] at haddress
    exact address?_ne_emptyId _ haddress

example : (parse "\thttps://c/api/api/rules//api/apps/7 8// ").toOption
    = some ⟨"https://c/api/api/rules//api/apps/7 8", .app, "7 8"⟩ := by decide +kernel

end Handle

end Dataspace
