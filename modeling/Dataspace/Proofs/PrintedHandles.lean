/-
A handle read again from its URI.

Blanks are taken off a text before slashes are, so a blank in front of the slashes
at the end of a text stays at the end of the URI, and of the id.  Read again, the URI
loses it.  So a handle reads back as itself if and only if its id does not end in a
blank, which it does not where no slash was taken off.  Otherwise what is read is the
handle of another entity, whose id is the shorter one, or no handle at all where the
id holds nothing but blanks.  The second time nothing is left to be taken off.
-/
import Dataspace.Proofs.BlankBase
import Dataspace.Proofs.Spelling

namespace Dataspace

open Text

namespace Text

/-! ## Blanks at the end -/

/-- The text without the blanks at its end. -/
def trimEnd (s : String) : String :=
  String.ofList (dropEndWhile isBlank s.toList)

theorem toList_trimEnd (s : String) : (trimEnd s).toList = dropEndWhile isBlank s.toList :=
  String.toList_ofList

/-- Where the last part is not taken off whole, the parts before it stay. -/
theorem dropEndWhile_append_of_ne {α : Type} {p : α → Bool} {ys : List α}
    (h : dropEndWhile p ys ≠ []) (xs : List α) :
    dropEndWhile p (xs ++ ys) = xs ++ dropEndWhile p ys := by
  have hleft : ys.reverse.dropWhile p ≠ [] := fun hnil => h (congrArg List.reverse hnil)
  have hne : ¬ (ys.reverse.dropWhile p).isEmpty := by simpa using hleft
  rw [dropEndWhile, dropEndWhile, List.reverse_append, List.dropWhile_append, if_neg hne,
    List.reverse_append, List.reverse_reverse]

/-- Where it is, what comes before it is the end. -/
theorem dropEndWhile_append_of_eq_nil {α : Type} {p : α → Bool} {ys : List α}
    (h : dropEndWhile p ys = []) (xs : List α) : dropEndWhile p (xs ++ ys) = dropEndWhile p xs := by
  have hleft : ys.reverse.dropWhile p = [] := List.reverse_eq_nil_iff.mp h
  rw [dropEndWhile, dropEndWhile, List.reverse_append, List.dropWhile_append, hleft]
  rfl

theorem trimEnd_append_of_ne {t : String} (h : trimEnd t ≠ "") (s : String) :
    trimEnd (s ++ t) = s ++ trimEnd t := by
  have hne : dropEndWhile isBlank t.toList ≠ [] := fun hnil => h (String.ofList_eq_empty_iff.mpr hnil)
  refine String.toList_inj.mp ?_
  rw [toList_trimEnd, String.toList_append, String.toList_append, toList_trimEnd]
  exact dropEndWhile_append_of_ne hne _

theorem trimEnd_append_of_eq_empty {t : String} (h : trimEnd t = "") (s : String) :
    trimEnd (s ++ t) = trimEnd s := by
  have hnil : dropEndWhile isBlank t.toList = [] := String.ofList_eq_empty_iff.mp h
  rw [trimEnd, String.toList_append, dropEndWhile_append_of_eq_nil hnil]
  rfl

theorem trimEnd_idem (s : String) : trimEnd (trimEnd s) = trimEnd s := by
  rw [trimEnd, toList_trimEnd, dropEndWhile_idem]
  rfl

theorem trim_of_not_startsBlank {s : String} (h : startsBlank s = false) : trim s = trimEnd s := by
  rw [trim, trimChars, dropWhile_of_any_head? h]
  rfl

/-- Nothing but the end is taken off. -/
theorem mem_of_mem_trimEnd {s : String} {c : Char} (h : c ∈ (trimEnd s).toList) : c ∈ s.toList := by
  rw [toList_trimEnd] at h
  have hwhole := dropEndWhile_append isBlank s.toList
  rw [← hwhole]
  exact List.mem_append_left _ h

end Text

namespace Handle

variable {u : String} {h : Handle}

/-! ## What the URI of a handle is read as -/

/-- With the blanks at its end gone the URI is spelled as the handle of the shorter id. -/
theorem Spelled.trimEnd {text front id : String} {kind : EntityKind}
    (hspelled : Spelled text front kind id) (hid : trimEnd id ≠ "") :
    Spelled (Text.trimEnd text) front kind (Text.trimEnd id) where
  text_eq := by
    rw [hspelled.text_eq]
    exact trimEnd_append_of_ne hid _
  front_ends := hspelled.front_ends
  id_ne := hid
  no_slash := fun hslash => hspelled.no_slash (mem_of_mem_trimEnd hslash)

/-- A text that is spelled as a handle has no slash at its end. -/
theorem Spelled.withoutSlashes {text front id : String} {kind : EntityKind}
    (hspelled : Spelled text front kind id) : withoutSlashes text = text := by
  have hid : id.toList ≠ [] := fun hnil => hspelled.id_ne (String.toList_inj.mp hnil)
  rw [hspelled.text_eq]
  exact Route.withoutSlashes_of_ends hid hspelled.no_slash

theorem spelled_of_parse (hparse : parse u = .ok h) : ∃ front, Spelled h.uri front h.kind h.id := by
  obtain ⟨huri, front, hspelled⟩ := parse_eq_ok_iff.mp hparse
  rw [← huri] at hspelled
  exact ⟨front, hspelled⟩

/-- Of the URI of a handle only the blanks at the end are taken off. -/
theorem stripped_uri (hparse : parse u = .ok h) :
    stripped h.uri = withoutSlashes (trimEnd h.uri) := by
  rw [stripped, trim_of_not_startsBlank (startsBlank_of_parse hparse)]
  rfl

/-- An id that holds something else than blanks loses those at its end. -/
theorem parse_uri_of_ne (hparse : parse u = .ok h) (hid : trimEnd h.id ≠ "") :
    parse h.uri = .ok ⟨trimEnd h.uri, h.kind, trimEnd h.id⟩ := by
  obtain ⟨front, hspelled⟩ := spelled_of_parse hparse
  have hshorter := hspelled.trimEnd hid
  have hstripped : stripped h.uri = trimEnd h.uri :=
    (stripped_uri hparse).trans hshorter.withoutSlashes
  refine parse_eq_ok_iff.mpr ⟨hstripped.symm, front, ?_⟩
  rw [hstripped]
  exact hshorter

/-- Where the id is missing the collection is the last segment, and no collection is called
`api`. -/
theorem address?_without_id {front : String} (hfront : front = "" ∨ ∃ before, front = before ++ "/")
    (kind : EntityKind) :
    ∃ fault, address? (front ++ "api/" ++ kind.collection).toList = .error fault := by
  obtain ⟨rest, hrest⟩ := lastSegments_front hfront
  have hcut : (front ++ "api/" ++ kind.collection).toList
      = (front ++ "api").toList ++ '/' :: kind.collection.toList := by
    simp
  have hsegments : lastSegments (front ++ "api/" ++ kind.collection).toList
      = kind.collection :: "api" :: rest := by
    rw [hcut, lastSegments_append kind.slash_not_mem_collection, hrest, String.ofList_toList]
  cases haddress : address? (front ++ "api/" ++ kind.collection).toList with
  | error fault => exact ⟨fault, rfl⟩
  | ok address =>
      obtain ⟨-, more, hmore⟩ := address?_eq_ok_iff_segments.mp haddress
      rw [hsegments] at hmore
      have hapi : "api" = address.1.collection := (List.cons.inj (List.cons.inj hmore).2).1
      have hno : "api" ≠ address.1.collection := by
        cases address.1 <;> decide
      exact absurd hapi hno

/-- An id of nothing but blanks is taken off whole, and the slash before it as well. -/
theorem parse_uri_of_eq_empty (hparse : parse u = .ok h) (hid : trimEnd h.id = "") :
    ∃ fault, parse h.uri = .error ⟨h.uri, fault⟩ := by
  obtain ⟨front, hspelled⟩ := spelled_of_parse hparse
  have hcollection : h.kind.collection.toList ≠ [] := by
    cases h.kind <;> decide
  have hslash : trimEnd "/" = "/" := by decide +kernel
  have hends : trimEnd h.uri = front ++ "api/" ++ h.kind.collection ++ "/" := by
    rw [hspelled.text_eq, trimEnd_append_of_eq_empty hid,
      trimEnd_append_of_ne (by rw [hslash]; decide), hslash]
  have hstripped : stripped h.uri = front ++ "api/" ++ h.kind.collection := by
    rw [stripped_uri hparse, hends, withoutSlashes, dropTrailing, String.toList_append,
      dropEndWhile_append_of_eq_nil (by decide)]
    exact Route.withoutSlashes_of_ends hcollection h.kind.slash_not_mem_collection
  obtain ⟨fault, hfault⟩ := address?_without_id hspelled.front_ends h.kind
  have hchars : uriChars h.uri.toList = (front ++ "api/" ++ h.kind.collection).toList := by
    rw [← hstripped, ← ofList_uriChars, String.toList_ofList]
  refine ⟨fault, ?_⟩
  rw [parse, hchars, hfault]

/-- Where there is no slash at the end of the text, no blank is left at the end of the id. -/
theorem trimEnd_id_of_no_slash (hparse : parse u = .ok h)
    (hslash : withoutSlashes (trim u) = trim u) : trimEnd h.id = h.id := by
  obtain ⟨front, hspelled⟩ := spelled_of_parse hparse
  have huri : h.uri = trim u := (parse_eq_ok_iff.mp hparse).1.trans hslash
  have hkept : trimEnd h.uri = h.uri := by
    rw [huri, trim, trimChars, trimEnd, String.toList_ofList, dropEndWhile_idem]
  by_cases hid : trimEnd h.id = ""
  · -- the slash before the id would be the last character that is no blank
    have hslash : trimEnd "/" = "/" := by decide +kernel
    rw [hspelled.text_eq, trimEnd_append_of_eq_empty hid,
      trimEnd_append_of_ne (by rw [hslash]; decide), hslash] at hkept
    have hnone := congrArg String.toList hkept
    simp [hspelled.id_ne] at hnone
  · rw [hspelled.text_eq, trimEnd_append_of_ne hid] at hkept
    exact String.toList_inj.mp (List.append_cancel_left
      (by simpa only [String.toList_append] using congrArg String.toList hkept))

/-! ## Reading a handle from its URI -/

/-- The URI of a handle is read as that handle if and only if the id does not end in a blank, and
it does not where the text of the handle has no slash at its end.  An id that holds nothing but
blanks leaves no handle.  From any other one the blanks at its end are lost: what is read is the
handle of the same kind with the shorter id, and that one reads back as itself. -/
theorem parse_printed (hparse : parse u = .ok h) :
    (parse h.uri = .ok h ↔ trimEnd h.id = h.id) ∧
    (withoutSlashes (trim u) = trim u → parse h.uri = .ok h) ∧
    (trimEnd h.id = "" → ∃ fault, parse h.uri = .error ⟨h.uri, fault⟩) ∧
    (trimEnd h.id ≠ "" → ∃ again : Handle, parse h.uri = .ok again ∧
      again = ⟨trimEnd h.uri, h.kind, trimEnd h.id⟩ ∧ parse again.uri = .ok again) := by
  have hback : parse h.uri = .ok h ↔ trimEnd h.id = h.id := by
    constructor
    · intro hagain
      by_cases hid : trimEnd h.id = ""
      · obtain ⟨fault, hfault⟩ := parse_uri_of_eq_empty hparse hid
        cases hagain.symm.trans hfault
      · have hsame := hagain.symm.trans (parse_uri_of_ne hparse hid)
        exact (congrArg Handle.id (Except.ok.inj hsame)).symm
    · intro hid
      have hne : trimEnd h.id ≠ "" := by
        rw [hid]
        exact (filled_of_parse hparse).2
      obtain ⟨front, hspelled⟩ := spelled_of_parse hparse
      have huri : trimEnd h.uri = h.uri := by
        rw [hspelled.text_eq, trimEnd_append_of_ne hne, hid]
      rw [parse_uri_of_ne hparse hne, huri, hid]
  refine ⟨hback, ?_, parse_uri_of_eq_empty hparse, ?_⟩
  · intro hslash
    exact hback.mpr (trimEnd_id_of_no_slash hparse hslash)
  · intro hid
    have hagain := parse_uri_of_ne hparse hid
    have hfixed : trimEnd (trimEnd h.id) = trimEnd h.id := trimEnd_idem _
    have hthird := parse_uri_of_ne hagain (by rwa [hfixed])
    refine ⟨_, hagain, rfl, ?_⟩
    rwa [trimEnd_idem, hfixed] at hthird

/-- A blank before the slash at the end. -/
def blankBeforeSlash : String := "https://c/api/artifacts/7 /"

theorem parse_printed_blank_id :
    let h : Handle := ⟨"https://c/api/artifacts/7 ", .artifact, "7 "⟩
    let again : Handle := ⟨"https://c/api/artifacts/7", .artifact, "7"⟩
    parse blankBeforeSlash = .ok h ∧ parse h.uri = .ok again ∧ parse again.uri = .ok again := by
  intro h again
  have hparse : parse blankBeforeSlash = .ok h := rfl
  have hid : trimEnd h.id ≠ "" := by decide +kernel
  have hshorter : (⟨trimEnd h.uri, h.kind, trimEnd h.id⟩ : Handle) = again := by decide +kernel
  obtain ⟨other, hother, hsame, hthird⟩ := (parse_printed hparse).2.2.2 hid
  obtain rfl : other = again := hsame.trans hshorter
  exact ⟨hparse, hother, hthird⟩

/-- So the URI of a handle need not be read as the handle that it was printed from. -/
theorem parse_printed_other :
    ¬ ∀ (u : String) (h : Handle), parse u = .ok h → parse h.uri = .ok h := by
  intro hall
  have hparse : parse blankBeforeSlash = .ok ⟨"https://c/api/artifacts/7 ", .artifact, "7 "⟩ :=
    rfl
  have hother : parse "https://c/api/artifacts/7 "
      = .ok ⟨"https://c/api/artifacts/7", .artifact, "7"⟩ :=
    rfl
  have hagain := hall _ _ hparse
  have hsame := hother.symm.trans hagain
  exact absurd (congrArg Handle.id (Except.ok.inj hsame)) (by decide)

end Handle

end Dataspace
