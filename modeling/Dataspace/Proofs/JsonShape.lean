/-
The shape of JSON values that were read.

A value holds numbers and is nested to some depth, and the keys of its objects
ascend.  All three are said of the items of arrays and the members of objects, so
they can be told from what a value was made of.  What is read is nested no deeper
than there was room, its keys ascend, and its integers have 64 bits.
-/
import Dataspace.Json.Parser
import Dataspace.Proofs.Keyed

namespace Dataspace

open Number

namespace Json

/-! ## Numbers, keys and depth -/

mutual

/-- The numbers in a value. -/
def numbers : Json → List JsonNumber
  | .num n => [n]
  | .arr items => numbersItems items
  | .obj members => numbersMembers members
  | _ => []

def numbersItems : List Json → List JsonNumber
  | [] => []
  | v :: rest => numbers v ++ numbersItems rest

def numbersMembers : List (String × Json) → List JsonNumber
  | [] => []
  | (_, v) :: rest => numbers v ++ numbersMembers rest

end

mutual

/-- The keys of every object ascend. -/
def Ordered : Json → Prop
  | .arr items => OrderedItems items
  | .obj members => Keyed.Ascending members ∧ OrderedMembers members
  | _ => True

def OrderedItems : List Json → Prop
  | [] => True
  | v :: rest => Ordered v ∧ OrderedItems rest

def OrderedMembers : List (String × Json) → Prop
  | [] => True
  | (_, v) :: rest => Ordered v ∧ OrderedMembers rest

end

section Parts

variable {items : List Json} {members : List (String × Json)} {n : JsonNumber} {bound : Nat}

theorem mem_numbersItems : n ∈ numbersItems items ↔ ∃ v ∈ items, n ∈ v.numbers := by
  induction items with
  | nil => simp [numbersItems]
  | cons v rest ih => simp [numbersItems, ih]

theorem mem_numbersMembers : n ∈ numbersMembers members ↔ ∃ p ∈ members, n ∈ p.2.numbers := by
  induction members with
  | nil => simp [numbersMembers]
  | cons p rest ih => simp [numbersMembers, ih]

theorem orderedItems_iff : OrderedItems items ↔ ∀ v ∈ items, v.Ordered := by
  induction items with
  | nil => simp [OrderedItems]
  | cons v rest ih => simp [OrderedItems, ih]

theorem orderedMembers_iff : OrderedMembers members ↔ ∀ p ∈ members, p.2.Ordered := by
  induction members with
  | nil => simp [OrderedMembers]
  | cons p rest ih => simp [OrderedMembers, ih]

theorem ordered_object (h : ∀ p ∈ members, p.2.Ordered) : (object members).Ordered :=
  ⟨Keyed.ascending_ofList members,
    orderedMembers_iff.mpr fun p hp => h p (Keyed.mem_of_mem_ofList hp)⟩

theorem depthItems_le_iff : depthItems items ≤ bound ↔ ∀ v ∈ items, v.depth ≤ bound := by
  induction items with
  | nil => simp [depthItems]
  | cons v rest ih => rw [depthItems, Nat.max_le, ih, List.forall_mem_cons]

theorem depthMembers_le_iff : depthMembers members ≤ bound ↔ ∀ p ∈ members, p.2.depth ≤ bound := by
  induction members with
  | nil => simp [depthMembers]
  | cons p rest ih => rw [depthMembers, Nat.max_le, ih, List.forall_mem_cons]

end Parts

end Json

/-! ## What is read -/

/-- An integer has 64 bits, with or without a sign. -/
def JsonNumber.InRange : JsonNumber → Prop
  | .int n => -0x8000000000000000 ≤ n ∧ n < 0x10000000000000000
  | .float _ => True

namespace Json

section Numbers

variable {negative : Bool} {cs rest : List Char} {n : JsonNumber}

theorem inRange_of_float? {d : Decimal} (h : float? negative d = some n) : n.InRange := by
  obtain ⟨units, -, rfl⟩ := Option.map_eq_some_iff.mp h
  trivial

theorem inRange_of_ofWhole? {digits : List Char} (h : ofWhole? negative digits = some n) :
    n.InRange := by
  simp only [ofWhole?] at h
  split at h
  · rename_i hnegative
    simp only [Bool.and_eq_true, decide_eq_true_eq] at hnegative
    cases h
    constructor <;> omega
  · split at h
    · rename_i hpositive
      have hlimit : digitsValue digits < wordLimit := by
        simpa using (Bool.and_eq_true_iff.mp hpositive).2
      unfold wordLimit at hlimit
      cases h
      constructor <;> omega
    · exact inRange_of_float? h

theorem inRange_of_unsigned? (h : unsigned? negative cs = some (n, rest)) : n.InRange := by
  simp only [unsigned?, Option.bind_eq_bind, Option.bind_eq_some_iff] at h
  obtain ⟨⟨ds, _⟩, -, ⟨fs, _⟩, -, ⟨e, _⟩, -, hvalue⟩ := h
  dsimp only at hvalue
  split at hvalue
  · obtain ⟨m, hm, hpair⟩ := Option.bind_eq_some_iff.mp hvalue
    cases hpair
    exact inRange_of_ofWhole? hm
  · obtain ⟨m, hm, hpair⟩ := Option.bind_eq_some_iff.mp hvalue
    cases hpair
    exact inRange_of_float? hm

theorem inRange_of_number? (h : number? cs = some (n, rest)) : n.InRange := by
  unfold number? at h
  split at h
  · exact inRange_of_unsigned? h
  · exact inRange_of_unsigned? h

end Numbers

/-- A value as it is read where so many arrays and objects may still be opened. -/
structure Fits (room : Nat) (v : Json) : Prop where
  depth : v.depth ≤ room
  ordered : v.Ordered
  numbers : ∀ n ∈ v.numbers, n.InRange

namespace Fits

variable {room : Nat}

/-- A value without parts and numbers. -/
theorem plain {v : Json} (hdepth : v.depth = 0) (hnumbers : v.numbers = []) (h : v.Ordered) :
    v.Fits room where
  depth := hdepth ▸ Nat.zero_le room
  ordered := h
  numbers := by
    rw [hnumbers]
    exact List.forall_mem_nil _

theorem num {n : JsonNumber} (h : n.InRange) : (Json.num n).Fits room where
  depth := Nat.zero_le room
  ordered := trivial
  numbers := List.forall_mem_singleton.mpr h

theorem arr {items : List Json} (h : ∀ v ∈ items, v.Fits room) :
    (Json.arr items).Fits (room + 1) where
  depth := Nat.succ_le_succ (depthItems_le_iff.mpr fun v hv => (h v hv).depth)
  ordered := orderedItems_iff.mpr fun v hv => (h v hv).ordered
  numbers := by
    intro n hn
    obtain ⟨v, hv, hnv⟩ := mem_numbersItems.mp hn
    exact (h v hv).numbers n hnv

theorem obj {members : List (String × Json)} (hm : Keyed.Ascending members)
    (h : ∀ p ∈ members, p.2.Fits room) : (Json.obj members).Fits (room + 1) where
  depth := Nat.succ_le_succ (depthMembers_le_iff.mpr fun p hp => (h p hp).depth)
  ordered := ⟨hm, orderedMembers_iff.mpr fun p hp => (h p hp).ordered⟩
  numbers := by
    intro n hn
    obtain ⟨p, hp, hnp⟩ := mem_numbersMembers.mp hn
    exact (h p hp).numbers n hnp

theorem object {members : List (String × Json)} (h : ∀ p ∈ members, p.2.Fits room) :
    (Json.object members).Fits (room + 1) :=
  .obj (Keyed.ascending_ofList members) fun p hp => h p (Keyed.mem_of_mem_ofList hp)

end Fits

/-! ### One step of reading -/

/-- Reading with so many steps gives only what fits. -/
structure ReadsFit (fuel : Nat) : Prop where
  value : ∀ room cs v rest, value? fuel room cs = some (v, rest) → v.Fits room
  items : ∀ room cs vs rest, items? fuel room cs = some (vs, rest) → ∀ v ∈ vs, v.Fits room
  members : ∀ room cs ms rest, members? fuel room cs = some (ms, rest) → ∀ p ∈ ms, p.2.Fits room

namespace ReadsFit

variable {fuel room : Nat} {cs rest : List Char}

theorem value_succ (h : ReadsFit fuel) {v : Json}
    (hv : value? (fuel + 1) room cs = some (v, rest)) : v.Fits room := by
  unfold value? at hv
  split at hv
  -- the three words
  · cases hv
    exact .plain rfl rfl trivial
  · cases hv
    exact .plain rfl rfl trivial
  · cases hv
    exact .plain rfl rfl trivial
  -- strings
  · obtain ⟨⟨s, _⟩, -, hpair⟩ := Option.map_eq_some_iff.mp hv
    cases hpair
    exact .plain rfl rfl trivial
  -- arrays and objects, for which there has to be room
  · cases room with
    | zero => cases hv
    | succ room =>
        dsimp only at hv
        split at hv
        · cases hv
          exact .arr (List.forall_mem_nil _)
        · obtain ⟨⟨vs, _⟩, hvs, hpair⟩ := Option.map_eq_some_iff.mp hv
          cases hpair
          exact .arr (h.items _ _ _ _ hvs)
  · cases room with
    | zero => cases hv
    | succ room =>
        dsimp only at hv
        split at hv
        · cases hv
          exact .obj List.Pairwise.nil (List.forall_mem_nil _)
        · obtain ⟨⟨ms, _⟩, hms, hpair⟩ := Option.map_eq_some_iff.mp hv
          cases hpair
          exact .object (h.members _ _ _ _ hms)
  -- anything else is read as a number
  · obtain ⟨⟨n, _⟩, hn, hpair⟩ := Option.map_eq_some_iff.mp hv
    cases hpair
    exact .num (inRange_of_number? hn)

theorem items_succ (h : ReadsFit fuel) {vs : List Json}
    (hvs : items? (fuel + 1) room cs = some (vs, rest)) : ∀ v ∈ vs, v.Fits room := by
  unfold items? at hvs
  split at hvs
  · cases hvs
  · rename_i v after hv
    have hfirst := h.value _ _ _ _ hv
    split at hvs
    · cases hvs
      exact List.forall_mem_singleton.mpr hfirst
    · obtain ⟨⟨more, _⟩, hmore, hpair⟩ := Option.map_eq_some_iff.mp hvs
      cases hpair
      exact List.forall_mem_cons.mpr ⟨hfirst, h.items _ _ _ _ hmore⟩
    · cases hvs

theorem members_succ (h : ReadsFit fuel) {ms : List (String × Json)}
    (hms : members? (fuel + 1) room cs = some (ms, rest)) : ∀ p ∈ ms, p.2.Fits room := by
  unfold members? at hms
  split at hms
  · split at hms
    · cases hms
    · split at hms
      · split at hms
        · cases hms
        · rename_i v after hv
          have hfirst := h.value _ _ _ _ hv
          split at hms
          · cases hms
            exact List.forall_mem_singleton.mpr hfirst
          · obtain ⟨⟨more, _⟩, hmore, hpair⟩ := Option.map_eq_some_iff.mp hms
            cases hpair
            exact List.forall_mem_cons.mpr ⟨hfirst, h.members _ _ _ _ hmore⟩
          · cases hms
      · cases hms
  · cases hms

end ReadsFit

theorem readsFit (fuel : Nat) : ReadsFit fuel := by
  induction fuel with
  | zero =>
      refine ⟨?_, ?_, ?_⟩
      · intro room cs v rest h
        simp [value?] at h
      · intro room cs vs rest h
        simp [items?] at h
      · intro room cs ms rest h
        simp [members?] at h
  | succ fuel ih =>
      exact ⟨fun _ _ _ _ => ih.value_succ, fun _ _ _ _ => ih.items_succ,
        fun _ _ _ _ => ih.members_succ⟩

/-- What a text is read as is nested no deeper than is read, its keys ascend, and its integers have
64 bits. -/
theorem fits_of_parse? {s : String} {v : Json} (h : parse? s = some v) : v.Fits maxDepth := by
  unfold parse? at h
  dsimp only at h
  split at h
  · rename_i w rest hw
    split at h
    · cases h
      exact (readsFit _).value _ _ _ _ hw
    · cases h
  · cases h

end Json

end Dataspace
