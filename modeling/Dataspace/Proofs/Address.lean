/-
Addresses: UUIDs, the URIs made from them, and the URLs of requests.

A UUID's text has no slash and no blank in it and determines the UUID.  So the
URI of an entity determines its collection and its UUID, it reads back as a
handle of its kind unless the base URL begins with a blank, and the URLs to
which entities are posted and linked lead to the routes meant.
-/
import Dataspace.Connector.Route
import Dataspace.Proofs.Text
import Dataspace.Text.Uuid

namespace Dataspace

open Text

/-! ## Hexadecimal digits -/

theorem Text.mem_hexDigits {width n : Nat} {c : Char} (h : c ∈ hexDigits width n) :
    ∃ d < 16, c = hexDigit d := by
  induction width generalizing n with
  | zero => exact absurd h List.not_mem_nil
  | succ width ih =>
      rcases List.mem_append.mp h with h | h
      · exact ih h
      · exact ⟨n % 16, Nat.mod_lt _ (by decide), List.mem_singleton.mp h⟩

theorem Text.hexDigit_injective : ∀ a < 16, ∀ b < 16, hexDigit a = hexDigit b → a = b := by
  decide

theorem Text.hexDigit_plain :
    ∀ d < 16, hexDigit d ≠ '-' ∧ hexDigit d ≠ '/' ∧ isBlank (hexDigit d) = false := by
  decide

/-- So many digits determine a number that has no more. -/
theorem Text.hexDigits_injective {width a b : Nat} (ha : a < Nat.pow 16 width)
    (hb : b < Nat.pow 16 width) (h : hexDigits width a = hexDigits width b) : a = b := by
  induction width generalizing a b with
  | zero =>
      have ha' : a < 1 := ha
      have hb' : b < 1 := hb
      omega
  | succ width ih =>
      obtain ⟨hhigh, hlow⟩ := List.append_inj' h rfl
      have hmod : a % 16 = b % 16 :=
        hexDigit_injective _ (Nat.mod_lt _ (by decide)) _ (Nat.mod_lt _ (by decide))
          (List.singleton_inj.mp hlow)
      have hdiv : a / 16 = b / 16 :=
        ih (Nat.div_lt_of_lt_mul (Nat.mul_comm _ 16 ▸ ha))
          (Nat.div_lt_of_lt_mul (Nat.mul_comm _ 16 ▸ hb)) hhigh
      omega

/-! ## The text of a UUID -/

namespace Uuid

theorem mem_chars {u : Uuid} {c : Char} (h : c ∈ u.chars) : c = '-' ∨ ∃ d < 16, c = hexDigit d := by
  have hdigit : c ∈ hexDigits 32 u.bits.toNat → ∃ d < 16, c = hexDigit d := mem_hexDigits
  simp only [chars, List.mem_append, List.mem_cons] at h
  rcases h with (((h | h | h) | h | h) | h | h) | h | h
  · exact Or.inr (hdigit (List.mem_of_mem_take h))
  · exact Or.inl h
  · exact Or.inr (hdigit (List.mem_of_mem_drop (List.mem_of_mem_take h)))
  · exact Or.inl h
  · exact Or.inr (hdigit (List.mem_of_mem_drop (List.mem_of_mem_take h)))
  · exact Or.inl h
  · exact Or.inr (hdigit (List.mem_of_mem_drop (List.mem_of_mem_take h)))
  · exact Or.inl h
  · exact Or.inr (hdigit (List.mem_of_mem_drop h))

theorem chars_ne_nil (u : Uuid) : u.chars ≠ [] := by
  simp [chars]

/-- A group of digits and what follows it. -/
theorem take_drop_append {α : Type} (ds : List α) (start count : Nat) :
    (ds.drop start).take count ++ ds.drop (start + count) = ds.drop start := by
  rw [← List.drop_drop]
  exact List.take_append_drop count _

/-- Without the hyphens the digits are left. -/
theorem filter_chars (u : Uuid) : u.chars.filter (· != '-') = hexDigits 32 u.bits.toNat := by
  have hkeep : ∀ c ∈ hexDigits 32 u.bits.toNat, (c != '-') = true := by
    intro c hc
    obtain ⟨d, hd, rfl⟩ := mem_hexDigits hc
    exact bne_iff_ne.mpr (hexDigit_plain d hd).1
  have hall : ∀ ds : List Char, (∀ c ∈ ds, c ∈ hexDigits 32 u.bits.toNat) →
      ds.filter (· != '-') = ds :=
    fun ds hds => List.filter_eq_self.mpr fun c hc => hkeep c (hds c hc)
  simp only [chars, List.filter_append, List.filter_cons, bne_self_eq_false, Bool.false_eq_true,
    if_false]
  rw [hall _ fun _ => List.mem_of_mem_take,
    hall _ fun _ h => List.mem_of_mem_drop (List.mem_of_mem_take h),
    hall _ fun _ h => List.mem_of_mem_drop (List.mem_of_mem_take h),
    hall _ fun _ h => List.mem_of_mem_drop (List.mem_of_mem_take h),
    hall _ fun _ => List.mem_of_mem_drop]
  -- the groups put together again, from the last on
  simp only [List.append_assoc]
  rw [take_drop_append _ 16 4, take_drop_append _ 12 4, take_drop_append _ 8 4,
    List.take_append_drop]

theorem text_injective {u v : Uuid} (h : u.text = v.text) : u = v := by
  have hchars : u.chars = v.chars := String.ofList_inj.mp h
  have hdigits : hexDigits 32 u.bits.toNat = hexDigits 32 v.bits.toNat := by
    rw [← filter_chars, hchars, filter_chars]
  have hu : u.bits.toNat < Nat.pow 16 32 := u.bits.isLt
  have hv : v.bits.toNat < Nat.pow 16 32 := v.bits.isLt
  have hbits : u.bits.toNat = v.bits.toNat := hexDigits_injective hu hv hdigits
  cases u
  cases v
  exact congrArg Uuid.mk (BitVec.eq_of_toNat_eq hbits)

theorem slash_not_mem_text (u : Uuid) : '/' ∉ u.text.toList := by
  intro h
  rw [text, String.toList_ofList] at h
  rcases mem_chars h with h | ⟨d, hd, h⟩
  · exact absurd h (by decide)
  · exact (hexDigit_plain d hd).2.1 h.symm

theorem isBlank_of_mem_text {u : Uuid} : ∀ c ∈ u.text.toList, isBlank c = false := by
  intro c h
  rw [text, String.toList_ofList] at h
  rcases mem_chars h with rfl | ⟨d, hd, rfl⟩
  · decide
  · exact (hexDigit_plain d hd).2.2

theorem text_ne_empty (u : Uuid) : u.text.toList ≠ [] := by
  rw [text, String.toList_ofList]
  exact u.chars_ne_nil

end Uuid

/-! ## Collections and entity URIs -/

theorem EntityKind.slash_not_mem_collection (k : EntityKind) : '/' ∉ k.collection.toList := by
  cases k <;> decide

theorem EntityKind.collection_injective {k l : EntityKind} (h : k.collection = l.collection) :
    k = l := by
  have hfound : EntityKind.ofCollection? l.collection = some k :=
    h ▸ EntityKind.ofCollection?_collection k
  rw [EntityKind.ofCollection?_collection] at hfound
  exact (Option.some.inj hfound).symm

namespace Route

theorem entityUri_eq (base collection id : String) :
    entityUri base collection id
      = base ++ ("/api/" ++ (collection ++ String.singleton '/' ++ id)) := by
  simp [entityUri, toString, String.append_assoc]

theorem toList_entityUri (base collection id : String) :
    (entityUri base collection id).toList
      = base.toList ++ '/' :: (['a', 'p', 'i'] ++ '/' ::
          (collection.toList ++ '/' :: id.toList)) := by
  simp [entityUri_eq]

/-- The URI determines what it was made from. -/
theorem entityUri_injective {base id id' : String} {kind kind' : EntityKind}
    (h : entityUri base kind.collection id = entityUri base kind'.collection id') :
    kind = kind' ∧ id = id' := by
  have hlist := congrArg String.toList h
  simp only [toList_entityUri, List.append_cancel_left_eq, List.cons.injEq, true_and] at hlist
  obtain ⟨hcollection, hid⟩ := append_sep_injective kind.slash_not_mem_collection
    kind'.slash_not_mem_collection hlist
  exact ⟨EntityKind.collection_injective (String.toList_inj.mp hcollection),
    String.toList_inj.mp hid⟩

end Route

/-! ## What a text has to be to be read as a handle -/

namespace Handle

/-- An address names a collection before an id, and neither is missing. -/
theorem address?_ok {cs : List Char} {kind : EntityKind} {id : String}
    (h : address? cs = .ok (kind, id)) :
    ∃ rest, lastSegments cs = id :: kind.collection :: "api" :: rest ∧ id ≠ "" := by
  unfold address? at h
  split at h
  · rename_i last collection rest hsegments
    split at h
    · cases h
    · rename_i found hfound
      split at h
      · cases h
      · rename_i hempty
        cases h
        rw [EntityKind.collection_of_ofCollection? hfound]
        refine ⟨rest, hsegments, ?_⟩
        rintro rfl
        exact hempty rfl
  · cases h

theorem parse_ok {s : String} {h : Handle} (hparse : parse s = .ok h) :
    h.uri = String.ofList (uriChars s.toList) ∧
      address? (uriChars s.toList) = .ok (h.kind, h.id) := by
  unfold parse at hparse
  simp only at hparse
  split at hparse
  · rename_i kind id haddress
    cases hparse
    exact ⟨rfl, haddress⟩
  · cases hparse

/-- A handle has a URI and an id. -/
theorem filled_of_parse {s : String} {h : Handle} (hparse : parse s = .ok h) :
    h.uri ≠ "" ∧ h.id ≠ "" := by
  obtain ⟨huri, haddress⟩ := parse_ok hparse
  obtain ⟨rest, hsegments, hid⟩ := address?_ok haddress
  refine ⟨?_, hid⟩
  intro hempty
  have hchars : uriChars s.toList = [] := String.ofList_eq_empty_iff.mp (huri.symm.trans hempty)
  rw [hchars] at hsegments
  exact absurd (congrArg List.length hsegments) (by simp [lastSegments, pieces_nil])

end Handle

/-! ## Reading an entity's URI as a handle -/

/-- An id as the connector makes them: not empty, without slashes and blanks. -/
structure IsId (id : String) : Prop where
  ne_nil : id.toList ≠ []
  no_slash : '/' ∉ id.toList
  no_blank : ∀ c ∈ id.toList, isBlank c = false

theorem Uuid.isId_text (u : Uuid) : IsId u.text :=
  ⟨u.text_ne_empty, u.slash_not_mem_text, u.isBlank_of_mem_text⟩

/-- The handle of an entity, as its URI shows it. -/
def Handle.ofEntity (base : String) (kind : EntityKind) (id : String) : Handle :=
  ⟨Route.entityUri base kind.collection id, kind, id⟩

section Parse

variable {base id : String} {kind : EntityKind}

/-- What stands before the id in an entity's URI. -/
def uriFront (base collection : String) : List Char :=
  base.toList ++ '/' :: (['a', 'p', 'i'] ++ '/' :: (collection.toList ++ ['/']))

theorem toList_entityUri_front (base collection id : String) :
    (Route.entityUri base collection id).toList = uriFront base collection ++ id.toList := by
  simp [Route.toList_entityUri, uriFront]

theorem head_uriFront (hbase : startsBlank base = false) (collection : String) (cs : List Char) :
    (uriFront base collection ++ cs).head?.any isBlank = false := by
  cases hb : base.toList with
  | nil =>
      simp only [uriFront, hb, List.nil_append, List.cons_append, List.head?_cons, Option.any_some]
      decide
  | cons c rest => simpa [startsBlank, uriFront, hb] using hbase

theorem trimChars_entityUri (hbase : startsBlank base = false) (hid : IsId id)
    (collection : String) :
    trimChars (Route.entityUri base collection id).toList
      = (Route.entityUri base collection id).toList := by
  rw [toList_entityUri_front]
  exact trimChars_append (head_uriFront hbase collection _) hid.ne_nil hid.no_blank

theorem filled?_entityUri (hbase : startsBlank base = false) (hid : IsId id)
    (collection : String) :
    filled? (Route.entityUri base collection id) = some (Route.entityUri base collection id) := by
  have hne : Route.entityUri base collection id ≠ "" := by
    intro h
    have := congrArg String.toList h
    simp [toList_entityUri_front, uriFront] at this
  have htrim : trim (Route.entityUri base collection id) = Route.entityUri base collection id := by
    rw [trim, trimChars_entityUri hbase hid, String.ofList_toList]
  simp only [filled?, htrim, String.isEmpty_eq_false_iff.mpr hne, Bool.false_eq_true, if_false]

theorem uriChars_entityUri (hbase : startsBlank base = false) (hid : IsId id)
    (collection : String) :
    Handle.uriChars (Route.entityUri base collection id).toList
      = (Route.entityUri base collection id).toList := by
  have hslash : ∀ c ∈ id.toList, (c == '/') = false := by
    intro c hc
    exact beq_eq_false_iff_ne.mpr fun e => hid.no_slash (e ▸ hc)
  rw [Handle.uriChars, trimChars_entityUri hbase hid, toList_entityUri_front]
  exact dropEndWhile_append_of_last hid.ne_nil hslash _

theorem address?_entityUri (hid : IsId id) :
    Handle.address? (Route.entityUri base kind.collection id).toList = .ok (kind, id) := by
  have hsegments : Handle.lastSegments (Route.entityUri base kind.collection id).toList
      = id :: kind.collection :: "api" :: ((pieces '/' base.toList).reverse.map String.ofList) := by
    have hapi : '/' ∉ ['a', 'p', 'i'] := by decide
    rw [Handle.lastSegments, Route.toList_entityUri, pieces_append, pieces_append, pieces_append,
      pieces_of_not_mem hapi, pieces_of_not_mem kind.slash_not_mem_collection,
      pieces_of_not_mem hid.no_slash]
    simp
  have hne : id.isEmpty = false :=
    String.isEmpty_eq_false_iff.mpr fun h => hid.ne_nil (by rw [h]; rfl)
  simp only [Handle.address?, hsegments, EntityKind.ofCollection?_collection, hne,
    Bool.false_eq_true, if_false]

/-- The URI of an entity is the handle of that entity. -/
theorem parse_entityUri (hbase : startsBlank base = false) (hid : IsId id) :
    Handle.parse (Route.entityUri base kind.collection id) = .ok (.ofEntity base kind id) := by
  rw [Handle.parse, uriChars_entityUri hbase hid, address?_entityUri hid]
  simp [Handle.ofEntity]

end Parse

/-! ## The routes of the requests that create and link -/

namespace Route

theorem segments?_append {base rest : String} (h : withoutSlashes rest = rest) :
    segments? base (base ++ ("/api/" ++ rest)) = some (split '/' rest) := by
  simp only [segments?, stripStart?_append, Option.bind_eq_bind, Option.bind_some, Option.pure_def,
    h]

theorem withoutSlashes_of_ends {front last : String} (hne : last.toList ≠ [])
    (h : '/' ∉ last.toList) : withoutSlashes (front ++ last) = front ++ last := by
  have hslash : ∀ c ∈ last.toList, (c == '/') = false := by
    intro c hc
    exact beq_eq_false_iff_ne.mpr fun e => h (e ▸ hc)
  rw [withoutSlashes, dropTrailing, String.toList_append, dropEndWhile_append_of_last hne hslash,
    ← String.toList_append, String.ofList_toList]

/-- Two segments without slashes, of which the last is not empty, are cut apart. -/
theorem segments?_pair {base first second : String} (hfirst : '/' ∉ first.toList)
    (hsecond : '/' ∉ second.toList) (hne : second.toList ≠ []) :
    segments? base (base ++ ("/api/" ++ (first ++ String.singleton '/' ++ second)))
      = some [first, second] := by
  have hsplit : split '/' (first ++ String.singleton '/' ++ second) = [first, second] := by
    have hlist : (first ++ String.singleton '/' ++ second).toList
        = first.toList ++ '/' :: second.toList := by
      simp
    rw [split, hlist, pieces_append, pieces_of_not_mem hfirst, pieces_of_not_mem hsecond]
    simp
  rw [segments?_append (withoutSlashes_of_ends hne hsecond), hsplit]

theorem segments?_triple {base first second third : String} (hfirst : '/' ∉ first.toList)
    (hsecond : '/' ∉ second.toList) (hthird : '/' ∉ third.toList) (hne : third.toList ≠ []) :
    segments? base (base ++ ("/api/" ++ (first ++ String.singleton '/' ++ second
      ++ String.singleton '/' ++ third))) = some [first, second, third] := by
  have hsplit : split '/' (first ++ String.singleton '/' ++ second ++ String.singleton '/'
      ++ third) = [first, second, third] := by
    have hlist : (first ++ String.singleton '/' ++ second ++ String.singleton '/' ++ third).toList
        = first.toList ++ '/' :: (second.toList ++ '/' :: third.toList) := by
      simp
    rw [split, hlist, pieces_append, pieces_append, pieces_of_not_mem hfirst,
      pieces_of_not_mem hsecond, pieces_of_not_mem hthird]
    simp
  rw [segments?_append (withoutSlashes_of_ends hne hthird), hsplit]

theorem find_create (base : String) (kind : EntityKind) :
    find base .post (base ++ kind.createPath) = .ok (.create kind) := by
  have hpath : kind.createPath = "/api/" ++ kind.collection := rfl
  have hkeep : withoutSlashes kind.collection = kind.collection := by
    cases kind <;> decide +kernel
  have hsplit : split '/' kind.collection = [kind.collection] := by
    rw [split, pieces_of_not_mem kind.slash_not_mem_collection]
    simp
  rw [find, hpath, segments?_append hkeep, hsplit]
  unfold ofPost
  simp only [EntityKind.ofCollection?_collection]

/-- Of three segments only the last one counts beside the URL without it. -/
theorem ofPost_link {url collection id name : String} {parent : Handle} {child : EntityKind}
    (hparent : Handle.parse ((beforeLast? '/' url).getD "") = .ok parent)
    (hchild : EntityKind.ofCollection? name = some child) :
    ofPost url [collection, id, name] = .ok (.link parent.uri child) := by
  -- the equations of `ofPost` are slow to make, the definition is not
  unfold ofPost
  simp only [hparent, hchild]

theorem find_link {base id : String} (hbase : startsBlank base = false) (hid : IsId id)
    (kind child : EntityKind) :
    find base .post ((Handle.ofEntity base kind id).relationUrl child)
      = .ok (.link (entityUri base kind.collection id) child) := by
  have hurl : (Handle.ofEntity base kind id).relationUrl child
      = entityUri base kind.collection id ++ String.singleton '/' ++ child.collection := rfl
  have hcut : entityUri base kind.collection id ++ String.singleton '/' ++ child.collection
      = base ++ ("/api/" ++ (kind.collection ++ String.singleton '/' ++ id
          ++ String.singleton '/' ++ child.collection)) := by
    simp [entityUri_eq, String.append_assoc]
  have hne : child.collection.toList ≠ [] := by
    cases child <;> decide
  have hsegments : segments? base ((Handle.ofEntity base kind id).relationUrl child)
      = some [kind.collection, id, child.collection] := by
    rw [hurl, hcut, segments?_triple kind.slash_not_mem_collection hid.no_slash
      child.slash_not_mem_collection hne]
  have hparent : Handle.parse ((beforeLast? '/' ((Handle.ofEntity base kind id).relationUrl
      child)).getD "") = .ok (.ofEntity base kind id) := by
    rw [hurl, beforeLast?_append child.slash_not_mem_collection]
    exact parse_entityUri hbase hid
  simp only [find, hsegments]
  exact ofPost_link hparent (EntityKind.ofCollection?_collection child)

end Route

end Dataspace
