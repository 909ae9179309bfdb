/-
The forms of records.

The object that is written for a record lists its fields in order, without those
that are left out, and is read by asking for the same fields.  So a field can be
treated by itself: if what is written for it is read with `back` for what was left
out, the record is read with every field taken back, from the object as well as
from its text.  A list is read back item by item, and a record within a record is a
field like any other.
-/
import Dataspace.Json.Record
import Dataspace.Proofs.JsonText

namespace Dataspace.Json

/-! ## Values that are read back from their texts -/

/-- The value is read back from its text where so many arrays and objects may be opened. -/
structure Textual (room : Nat) (v : Json) : Prop where
  reread : Reread v
  depth : v.depth ≤ room

namespace Textual

variable {room : Nat}

theorem null : Textual room .null :=
  ⟨.null, Nat.zero_le room⟩

theorem str (s : String) : Textual room (.str s) :=
  ⟨.str s, Nat.zero_le room⟩

theorem int {n : Int} (h : JsonNumber.InRange (.int n)) : Textual room (.int n) :=
  ⟨.num (readsBack_int h), Nat.zero_le room⟩

theorem arr {items : List Json} (h : ∀ v ∈ items, Textual room v) :
    Textual (room + 1) (.arr items) where
  reread := .arr fun v hv => (h v hv).reread
  depth := Nat.succ_le_succ (depthItems_le_iff.mpr fun v hv => (h v hv).depth)

theorem object {members : List (String × Json)} (h : ∀ p ∈ members, Textual room p.2) :
    Textual (room + 1) (.object members) where
  reread := .obj (Keyed.ascending_ofList members) fun p hp =>
    (h p (Keyed.mem_of_mem_ofList hp)).reread
  depth := Nat.succ_le_succ (depthMembers_le_iff.mpr fun p hp =>
    (h p (Keyed.mem_of_mem_ofList hp)).depth)

theorem mono {v : Json} {more : Nat} (h : Textual room v) (hle : room ≤ more) : Textual more v :=
  ⟨h.reread, Nat.le_trans h.depth hle⟩

theorem parse? {v : Json} (h : Textual maxDepth v) : Json.parse? v.compact = some v :=
  h.reread.parse?.trans (if_pos h.depth)

end Textual

/-! ## Members for the fields of a record -/

/-- A member for each field that is not left out. -/
def present (names : List String) (values : List (Option Json)) : List (String × Json) :=
  (names.zip values).filterMap fun field => field.2.map (field.1, ·)

section Present

variable {names : List String} {values : List (Option Json)} {name : String}

theorem present_some (names : List String) (v : Json) (values : List (Option Json)) :
    present (name :: names) (some v :: values) = (name, v) :: present names values :=
  rfl

theorem present_none (names : List String) (values : List (Option Json)) :
    present (name :: names) (none :: values) = present names values :=
  rfl

theorem present_append (v : Option Json) (names : List String) (values : List (Option Json)) :
    present [name] [v] ++ present names values = present (name :: names) (v :: values) := by
  cases v with
  | none => rfl
  | some v => rfl

theorem memberIf_eq_present {α : Type} (key : String) (write : α → Json) (a : Option α) :
    memberIf key write a = present [key] [a.map write] := by
  cases a with
  | none => rfl
  | some a => rfl

theorem mem_of_mem_present {p : String × Json} (h : p ∈ present names values) :
    p.1 ∈ names ∧ some p.2 ∈ values := by
  obtain ⟨⟨name, value⟩, hfield, hmember⟩ := List.mem_filterMap.mp h
  obtain ⟨v, hv, rfl⟩ := Option.map_eq_some_iff.mp hmember
  exact hv ▸ List.of_mem_zip hfield

theorem lookup_present_of_notMem (h : name ∉ names) :
    Keyed.lookup name (present names values) = none :=
  Keyed.lookup_eq_none_iff.mpr fun _ hp hname => h (hname ▸ (mem_of_mem_present hp).1)

theorem nodup_present (hnames : names.Nodup) : ((present names values).map Prod.fst).Nodup := by
  induction names generalizing values with
  | nil => exact List.nodup_nil
  | cons name names ih =>
      obtain ⟨hfirst, hrest⟩ := List.nodup_cons.mp hnames
      match values with
      | [] => exact List.nodup_nil
      | none :: values => exact ih hrest
      | some v :: values =>
          refine List.nodup_cons.mpr ⟨?_, ih hrest⟩
          intro hmem
          obtain ⟨p, hp, hname⟩ := List.mem_map.mp hmem
          have hname : p.1 = name := hname
          exact hfirst (hname ▸ (mem_of_mem_present hp).1)

/-- Each field is found under its name, or not at all if it was left out. -/
theorem map_lookup_present (hnames : names.Nodup) (hlength : names.length = values.length) :
    names.map (fun name => Keyed.lookup name (present names values)) = values := by
  induction names generalizing values with
  | nil => exact (List.length_eq_zero_iff.mp hlength.symm).symm
  | cons name names ih =>
      obtain ⟨hfirst, hrest⟩ := List.nodup_cons.mp hnames
      match values with
      | [] => cases hlength
      | none :: values =>
          have htail := ih hrest (Nat.succ.inj hlength)
          rw [present_none, List.map_cons, lookup_present_of_notMem hfirst, htail]
      | some v :: values =>
          have htail : names.map (fun other => Keyed.lookup other ((name, v) :: present names values))
              = values := by
            refine Eq.trans (List.map_congr_left ?_) (ih hrest (Nat.succ.inj hlength))
            intro other hother
            have hne : name ≠ other := fun e => hfirst (e ▸ hother)
            simp only [Keyed.lookup, if_neg hne]
          rw [present_some, List.map_cons, htail]
          simp only [Keyed.lookup, if_true]

/-- The fields of a record are read as they were written. -/
theorem fields?_present (hnames : names.Nodup) (hlength : names.length = values.length) :
    (object (present names values)).fields? names = some values := by
  have hlookup : ∀ name, Keyed.lookup name (Keyed.ofList (present names values))
      = Keyed.lookup name (present names values) := fun name =>
    Keyed.lookup_ofList_of_nodup name (nodup_present hnames)
  simp only [object, fields?, hlookup, map_lookup_present hnames hlength]

theorem Textual.present {room : Nat} (h : ∀ v, some v ∈ values → Textual room v) :
    Textual (room + 1) (.object (Json.present names values)) :=
  .object fun _ hp => h _ (mem_of_mem_present hp).2

theorem object_present_without_null (h : some .null ∉ values) :
    ∃ members, object (present names values) = .obj members ∧ ∀ p ∈ members, p.2 ≠ .null := by
  refine ⟨_, rfl, ?_⟩
  intro p hp hnull
  exact h (hnull ▸ (mem_of_mem_present (Keyed.mem_of_mem_ofList hp)).2)

end Present

/-! ## Single fields -/

/-- What is written for a list of texts that is left out when it is empty. -/
def textsValue : List String → Option Json
  | [] => none
  | ss => some (texts ss)

/-- The list, or the default in the place of an empty one. -/
def nonEmptyOr (default : List String) : List String → List String
  | [] => default
  | ss => ss

theorem nonEmptyOr_self (default ss : List String) :
    nonEmptyOr default (nonEmptyOr default ss) = nonEmptyOr default ss := by
  cases ss with
  | nil => cases default <;> rfl
  | cons s ss => rfl

/-- A list is replaced by a default only if it is empty. -/
theorem nonEmptyOr_eq_self_iff {s : String} {default ss : List String} :
    nonEmptyOr (s :: default) ss = ss ↔ ss ≠ [] := by
  cases ss with
  | nil => exact iff_of_false (fun h => nomatch h) (fun h => h rfl)
  | cons s ss => exact iff_of_true rfl (fun h => nomatch h)

theorem or_some_eq_self_iff {α : Type} {default : α} {a : Option α} :
    a.or (some default) = a ↔ a ≠ none := by
  cases a with
  | none => exact iff_of_false (fun h => nomatch h) (fun h => h rfl)
  | some a => exact iff_of_true rfl (fun h => nomatch h)

theorem textsIf_eq_present (key : String) (ss : List String) :
    textsIf key ss = present [key] [textsValue ss] := by
  cases ss with
  | nil => rfl
  | cons s ss => rfl

section Fields

variable {α : Type} {write : α → Json} {read : Json → Option α}

/-- A value that may be absent is read with the default for an absent one. -/
theorem withDefault_optional (hread : ∀ a, read (write a) = some a) (hnull : ∀ a, write a ≠ .null)
    (default a : Option α) :
    withDefault (optional read) default (a.map write) = some (a.or default) := by
  cases a with
  | none => rfl
  | some a =>
      have hvalue : optional read (write a) = (read (write a)).map some := by
        unfold optional
        split
        · rename_i hwrite
          exact absurd hwrite (hnull a)
        · rfl
      exact hvalue.trans (congrArg (Option.map some) (hread a))

/-- A list is read item by item. -/
theorem listOf_map {back : α → α} (h : ∀ a, read (write a) = some (back a)) (items : List α) :
    listOf read (.arr (items.map write)) = some (items.map back) := by
  show (items.map write).mapM read = some (items.map back)
  induction items with
  | nil => rfl
  | cons a items ih =>
      rw [List.map_cons, List.mapM_cons, h, ih]
      rfl

/-- A list of texts is read with the default for an empty one. -/
theorem withDefault_texts (default ss : List String) :
    withDefault (listOf asString?) default (textsValue ss) = some (nonEmptyOr default ss) := by
  cases ss with
  | nil => rfl
  | cons s ss =>
      have hstr : ∀ s, asString? (.str s) = some (id s) := fun _ => rfl
      exact (listOf_map hstr (s :: ss)).trans (congrArg some (List.map_id _))

end Fields

/-- What is written for a field, if anything, is not `null` and reads back from its text. -/
def IsMember (room : Nat) (value : Option Json) : Prop :=
  ∀ v, value = some v → v ≠ .null ∧ Textual room v

namespace IsMember

variable {room : Nat}

theorem str (s : String) : IsMember room (some (.str s)) := by
  rintro _ ⟨⟩
  exact ⟨(fun h => nomatch h), .str s⟩

theorem map {α : Type} {write : α → Json} (h : ∀ a, IsMember room (some (write a)))
    (a : Option α) : IsMember room (a.map write) := by
  cases a with
  | none => exact fun _ h => nomatch h
  | some a => exact h a

theorem texts (ss : List String) : IsMember (room + 1) (textsValue ss) := by
  cases ss with
  | nil => exact fun _ h => nomatch h
  | cons s ss =>
      rintro _ ⟨⟩
      refine ⟨(fun h => nomatch h), .arr ?_⟩
      intro v hv
      obtain ⟨s, -, rfl⟩ := List.mem_map.mp hv
      exact .str s

end IsMember

end Dataspace.Json
