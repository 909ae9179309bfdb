/-
Reading back the text of a JSON value.

Compact text is read as the value that it was written from, if that value is nested
no deeper than is read, and is refused otherwise.  This is shown part by part: when
the items of an array or the members of an object are read back, each within the
text that follows it, then so is the whole.  It takes values whose keys ascend and
whose numbers read back, as all integers of 64 bits do.
-/
import Dataspace.Proofs.JsonScan
import Dataspace.Proofs.Utf8

namespace Dataspace.Json

open Number Text

/-! ## Values within text -/

/-- The text begins a value: with no blank, and not with the end of an array. -/
def Starts (cs : List Char) : Prop :=
  ∃ c rest, cs = c :: rest ∧ isSpace c = false ∧ c ≠ ']'

theorem Starts.skip {cs : List Char} (h : Starts cs) : skip cs = cs := by
  obtain ⟨c, rest, rfl, hc, -⟩ := h
  simp [Json.skip, hc]

theorem Starts.append {cs : List Char} (h : Starts cs) (rest : List Char) :
    Starts (cs ++ rest) := by
  obtain ⟨c, cs, rfl, hc⟩ := h
  exact ⟨c, cs ++ rest, rfl, hc⟩

/-- A text that begins with a sign or a digit is read as a number. -/
theorem value?_of_number {c : Char} (hspace : isSpace c = false) (hc : c = '-' ∨ c.isDigit = true)
    {cs : List Char} (fuel room : Nat) :
    value? (fuel + 1) room (c :: cs) = (number? (c :: cs)).map fun (n, rest) => (.num n, rest) := by
  have hskip : Json.skip (c :: cs) = c :: cs := by simp [Json.skip, hspace]
  rw [value?, hskip]
  split
  all_goals first
    | rfl
    | rename_i heq
      exact absurd ((List.cons.inj heq).1 ▸ hc) (by decide)

section Steps

variable {fuel room : Nat} {cs rest : List Char} {v : Json}

theorem items?_none (h : value? fuel room cs = none) : items? (fuel + 1) room cs = none := by
  rw [items?, h]

theorem items?_last (h : value? fuel room cs = some (v, ']' :: rest)) :
    items? (fuel + 1) room cs = some ([v], rest) := by
  rw [items?, h]
  rfl

theorem items?_more (h : value? fuel room cs = some (v, ',' :: rest)) :
    items? (fuel + 1) room cs = (items? fuel room rest).map fun (vs, rest) => (v :: vs, rest) := by
  rw [items?, h]
  rfl

/-- A key between quotes and a colon, with what follows. -/
theorem quoted_append (k : String) (cs : List Char) :
    quoted k ++ ':' :: cs = '"' :: (k.toList.flatMap escapeChar ++ '"' :: ':' :: cs) := by
  simp [quoted]

theorem skip_cons {c : Char} (h : isSpace c = false) (cs : List Char) :
    skip (c :: cs) = c :: cs := by
  simp [skip, h]

theorem members?_none (k : String) (h : value? fuel room cs = none) :
    members? (fuel + 1) room (quoted k ++ ':' :: cs) = none := by
  rw [quoted_append, members?, skip_cons rfl]
  simp only [string?_quoted, skip_cons (c := ':') rfl, h]

theorem members?_last (k : String) (h : value? fuel room cs = some (v, '}' :: rest)) :
    members? (fuel + 1) room (quoted k ++ ':' :: cs) = some ([(k, v)], rest) := by
  rw [quoted_append, members?, skip_cons rfl]
  simp only [string?_quoted, skip_cons (c := ':') rfl, h, skip_cons (c := '}') rfl]

theorem members?_more (k : String) (h : value? fuel room cs = some (v, ',' :: rest)) :
    members? (fuel + 1) room (quoted k ++ ':' :: cs)
      = (members? fuel room rest).map fun (ms, rest) => ((k, v) :: ms, rest) := by
  rw [quoted_append, members?, skip_cons rfl]
  simp only [string?_quoted, skip_cons (c := ':') rfl, h, skip_cons (c := ',') rfl]

/-! ### Opening -/

theorem value?_arr_nil (rest : List Char) :
    value? (fuel + 1) (room + 1) ('[' :: ']' :: rest) = some (.arr [], rest) := rfl

theorem value?_obj_nil (rest : List Char) :
    value? (fuel + 1) (room + 1) ('{' :: '}' :: rest) = some (.obj [], rest) := rfl

theorem value?_arr (h : Starts cs) :
    value? (fuel + 1) (room + 1) ('[' :: cs)
      = (items? fuel room cs).map fun (vs, rest) => (.arr vs, rest) := by
  have hskip := h.skip
  obtain ⟨c, cs, rfl, -, hend⟩ := h
  rw [value?, skip_cons rfl]
  split
  -- of the texts that begin a value this one begins an array
  case h_5 heq =>
    cases heq
    dsimp only
    rw [hskip]
    split
    · rename_i heq
      exact absurd (List.cons.inj heq).1 hend
    · rfl
  case h_7 harr _ => exact (harr _ rfl).elim
  all_goals
    rename_i heq
    exact absurd (List.cons.inj heq).1 (by decide)

theorem value?_obj (k : String) (cs : List Char) :
    value? (fuel + 1) (room + 1) ('{' :: (quoted k ++ cs))
      = (members? fuel room (quoted k ++ cs)).map fun (ms, rest) => (.object ms, rest) := by
  rw [value?, skip_cons rfl]
  rfl

end Steps

/-- The value is read back from its text wherever that stands, unless it is nested too deep for the
room that there is.  At most two steps are taken for a character. -/
structure Reread (v : Json) : Prop where
  starts : Starts (compactChars v)
  value : ∀ fuel room rest, 2 * (compactChars v).length ≤ fuel → Stops rest →
    value? fuel room (compactChars v ++ rest) = if v.depth ≤ room then some (v, rest) else none

namespace Reread

/-- There is room for the value, or it is refused. -/
theorem value_cases {v : Json} (h : Reread v) (fuel room : Nat) (rest : List Char)
    (hfuel : 2 * (compactChars v).length ≤ fuel) (hrest : Stops rest) :
    v.depth ≤ room ∧ value? fuel room (compactChars v ++ rest) = some (v, rest) ∨
      ¬ v.depth ≤ room ∧ value? fuel room (compactChars v ++ rest) = none := by
  have hvalue := h.value fuel room rest hfuel hrest
  by_cases hroom : v.depth ≤ room
  · exact Or.inl ⟨hroom, hvalue.trans (if_pos hroom)⟩
  · exact Or.inr ⟨hroom, hvalue.trans (if_neg hroom)⟩

/-! ### Values without parts -/

/-- A value without parts is read in one step. -/
theorem leaf {v : Json} (hstarts : Starts (compactChars v)) (hdepth : v.depth = 0)
    (h : ∀ fuel room rest, Stops rest →
      value? (fuel + 1) room (compactChars v ++ rest) = some (v, rest)) : Reread v where
  starts := hstarts
  value := by
    intro fuel room rest hfuel hrest
    obtain ⟨c, cs, htext, -⟩ := hstarts
    have hlength : 0 < (compactChars v).length := by
      rw [htext]
      exact Nat.succ_pos _
    obtain ⟨steps, rfl⟩ : ∃ steps, fuel = steps + 1 := ⟨fuel - 1, by omega⟩
    rw [h steps room rest hrest, hdepth, if_pos (Nat.zero_le room)]

theorem null : Reread .null :=
  leaf ⟨_, _, rfl, rfl, by decide⟩ rfl fun _ _ _ _ => rfl

theorem bool (b : Bool) : Reread (.bool b) := by
  cases b with
  | false => exact leaf ⟨_, _, rfl, rfl, by decide⟩ rfl fun _ _ _ _ => rfl
  | true => exact leaf ⟨_, _, rfl, rfl, by decide⟩ rfl fun _ _ _ _ => rfl

theorem str (s : String) : Reread (.str s) := by
  refine leaf ⟨_, _, rfl, rfl, by decide⟩ rfl ?_
  intro fuel room rest _
  have htext : compactChars (.str s) ++ rest
      = '"' :: (s.toList.flatMap escapeChar ++ '"' :: rest) := by
    simp [compactChars, quoted]
  rw [htext]
  show (string? _).map _ = _
  rw [string?_quoted]
  rfl

theorem num {n : JsonNumber} (h : ReadsBack n) : Reread (.num n) := by
  obtain ⟨c, cs, htext, hc⟩ := head_of_number? h
  have hspace : isSpace c = false := by
    refine Bool.eq_false_iff.mpr ?_
    intro hspace
    simp only [isSpace, Bool.or_eq_true, decide_eq_true_eq] at hspace
    rcases hspace with ((rfl | rfl) | rfl) | rfl <;> exact absurd hc (by decide)
  refine leaf ⟨c, cs, htext, hspace, ?_⟩ rfl ?_
  · rintro rfl
    exact absurd hc (by decide)
  · intro fuel room rest hrest
    have hnumber := h.append hrest
    have htext' : compactChars (.num n) = c :: cs := htext
    rw [htext] at hnumber
    rw [htext', List.cons_append, value?_of_number hspace hc]
    exact congrArg (Option.map _) hnumber

/-- Two parts have room if the deeper one has. -/
theorem ite_max_le {α : Type} (a b room : Nat) (found : Option α) :
    (if max a b ≤ room then found else none)
      = if a ≤ room then (if b ≤ room then found else none) else none := by
  by_cases ha : a ≤ room
  · simp only [Nat.max_le, ha, true_and, if_true]
  · simp only [Nat.max_le, ha, false_and, if_false]

/-! ### Arrays -/

section Items

variable {items : List Json} {fuel room : Nat} {rest : List Char}

theorem starts_items (h : ∀ v ∈ items, Reread v) (hne : items ≠ []) :
    Starts (compactItems items) := by
  cases items with
  | nil => exact absurd rfl hne
  | cons v more =>
      have hv := (h v List.mem_cons_self).starts
      cases more with
      | nil => exact hv
      | cons w more => exact hv.append _

/-- Items are read back if each of them is. -/
theorem items?_of_forall (h : ∀ v ∈ items, Reread v) (hne : items ≠ [])
    (hfuel : 2 * (compactItems items).length + 1 ≤ fuel) :
    items? fuel room (compactItems items ++ ']' :: rest)
      = if depthItems items ≤ room then some (items, rest) else none := by
  induction items generalizing fuel with
  | nil => exact absurd rfl hne
  | cons v more ih =>
      obtain ⟨hv, hmore⟩ := List.forall_mem_cons.mp h
      obtain ⟨steps, rfl⟩ : ∃ steps, fuel = steps + 1 := ⟨fuel - 1, by omega⟩
      cases more with
      | nil =>
          have hdepth : depthItems [v] = v.depth := Nat.max_zero _
          rw [hdepth]
          rcases hv.value_cases steps room (']' :: rest) (Nat.le_of_succ_le_succ hfuel)
            (stops_cons (by decide) rest) with ⟨hroom, hvalue⟩ | ⟨hroom, hvalue⟩
          · rw [if_pos hroom]
            exact items?_last hvalue
          · rw [if_neg hroom]
            exact items?_none hvalue
      | cons w more =>
          have htext : compactItems (v :: w :: more) ++ ']' :: rest
              = compactChars v ++ ',' :: (compactItems (w :: more) ++ ']' :: rest) := by
            simp [compactItems]
          have hlength : (compactItems (v :: w :: more)).length
              = (compactChars v).length + (compactItems (w :: more)).length + 1 := by
            simp [compactItems]
            omega
          have hdepth : depthItems (v :: w :: more) = max v.depth (depthItems (w :: more)) := rfl
          rw [htext, hdepth, ite_max_le]
          rcases hv.value_cases steps room (',' :: (compactItems (w :: more) ++ ']' :: rest))
            (by omega) (stops_cons (by decide) _) with ⟨hroom, hvalue⟩ | ⟨hroom, hvalue⟩
          · rw [items?_more hvalue, ih hmore (by simp) (by omega), if_pos hroom]
            split
            · rfl
            · rfl
          · rw [items?_none hvalue, if_neg hroom]

theorem arr (h : ∀ v ∈ items, Reread v) : Reread (.arr items) where
  starts := ⟨_, _, rfl, rfl, by decide⟩
  value := by
    intro fuel room rest hfuel hrest
    have htext : compactChars (.arr items) ++ rest
        = '[' :: (compactItems items ++ ']' :: rest) := by
      simp [compactChars]
    have hlength : (compactChars (.arr items)).length = (compactItems items).length + 2 := by
      simp [compactChars]
    obtain ⟨steps, rfl⟩ : ∃ steps, fuel = steps + 1 := ⟨fuel - 1, by omega⟩
    rw [htext]
    cases room with
    | zero => rfl
    | succ room =>
        by_cases hne : items = []
        · subst hne
          exact value?_arr_nil rest
        · rw [value?_arr ((starts_items h hne).append _), items?_of_forall h hne (by omega), depth]
          by_cases hroom : depthItems items ≤ room
          · rw [if_pos hroom, if_pos (Nat.succ_le_succ hroom)]
            rfl
          · rw [if_neg hroom, if_neg fun hall => hroom (Nat.le_of_succ_le_succ hall)]
            rfl

end Items

/-! ### Objects -/

section Members

variable {members : List (String × Json)} {fuel room : Nat} {rest : List Char}

/-- The text of members begins with a key. -/
theorem exists_quoted_members (hne : members ≠ []) (rest : List Char) :
    ∃ k cs, compactMembers members ++ rest = quoted k ++ cs := by
  cases members with
  | nil => exact absurd rfl hne
  | cons p more =>
      cases more with
      | nil => exact ⟨p.1, ':' :: (compactChars p.2 ++ rest), by simp [compactMembers]⟩
      | cons q more =>
          exact ⟨p.1, ':' :: (compactChars p.2 ++ ',' :: (compactMembers (q :: more) ++ rest)),
            by simp [compactMembers]⟩

/-- Members are read back if the value of each is. -/
theorem members?_of_forall (h : ∀ p ∈ members, Reread p.2) (hne : members ≠ [])
    (hfuel : 2 * (compactMembers members).length + 1 ≤ fuel) :
    members? fuel room (compactMembers members ++ '}' :: rest)
      = if depthMembers members ≤ room then some (members, rest) else none := by
  induction members generalizing fuel with
  | nil => exact absurd rfl hne
  | cons p more ih =>
      obtain ⟨k, v⟩ := p
      have hv : Reread v := h (k, v) List.mem_cons_self
      have hmore := (List.forall_mem_cons.mp h).2
      obtain ⟨steps, rfl⟩ : ∃ steps, fuel = steps + 1 := ⟨fuel - 1, by omega⟩
      cases more with
      | nil =>
          have htext : compactMembers [(k, v)] ++ '}' :: rest
              = quoted k ++ ':' :: (compactChars v ++ '}' :: rest) := by
            simp [compactMembers]
          have hlength : (compactMembers [(k, v)]).length
              = (quoted k).length + (compactChars v).length + 1 := by
            simp [compactMembers]
            omega
          have hdepth : depthMembers [(k, v)] = v.depth := Nat.max_zero _
          rw [htext, hdepth]
          rcases hv.value_cases steps room ('}' :: rest) (by omega)
            (stops_cons (by decide) rest) with ⟨hroom, hvalue⟩ | ⟨hroom, hvalue⟩
          · rw [if_pos hroom]
            exact members?_last k hvalue
          · rw [if_neg hroom]
            exact members?_none k hvalue
      | cons q more =>
          have htext : compactMembers ((k, v) :: q :: more) ++ '}' :: rest
              = quoted k ++ ':' :: (compactChars v ++ ',' ::
                (compactMembers (q :: more) ++ '}' :: rest)) := by
            simp [compactMembers]
          have hlength : (compactMembers ((k, v) :: q :: more)).length
              = (quoted k).length + (compactChars v).length
                + (compactMembers (q :: more)).length + 2 := by
            simp [compactMembers]
            omega
          have hdepth : depthMembers ((k, v) :: q :: more)
              = max v.depth (depthMembers (q :: more)) := rfl
          rw [htext, hdepth, ite_max_le]
          rcases hv.value_cases steps room (',' :: (compactMembers (q :: more) ++ '}' :: rest))
            (by omega) (stops_cons (by decide) _) with ⟨hroom, hvalue⟩ | ⟨hroom, hvalue⟩
          · rw [members?_more k hvalue, ih hmore (by simp) (by omega), if_pos hroom]
            split
            · rfl
            · rfl
          · rw [members?_none k hvalue, if_neg hroom]

theorem obj (hm : Keyed.Ascending members) (h : ∀ p ∈ members, Reread p.2) :
    Reread (.obj members) where
  starts := ⟨_, _, rfl, rfl, by decide⟩
  value := by
    intro fuel room rest hfuel hrest
    have htext : compactChars (.obj members) ++ rest
        = '{' :: (compactMembers members ++ '}' :: rest) := by
      simp [compactChars]
    have hlength : (compactChars (.obj members)).length = (compactMembers members).length + 2 := by
      simp [compactChars]
    obtain ⟨steps, rfl⟩ : ∃ steps, fuel = steps + 1 := ⟨fuel - 1, by omega⟩
    rw [htext]
    cases room with
    | zero => rfl
    | succ room =>
        by_cases hne : members = []
        · subst hne
          exact value?_obj_nil rest
        · obtain ⟨k, cs, hopen⟩ := exists_quoted_members hne ('}' :: rest)
          have hread : members? steps room (compactMembers members ++ '}' :: rest)
              = if depthMembers members ≤ room then some (members, rest) else none :=
            members?_of_forall h hne (by omega)
          rw [hopen] at hread ⊢
          rw [value?_obj, hread, depth]
          by_cases hroom : depthMembers members ≤ room
          · rw [if_pos hroom, if_pos (Nat.succ_le_succ hroom)]
            show some (Json.obj (Keyed.ofList members), rest) = _
            rw [Keyed.ofList_of_ascending hm]
          · rw [if_neg hroom, if_neg fun hall => hroom (Nat.le_of_succ_le_succ hall)]
            rfl

end Members

end Reread

/-! ## Whole texts -/

mutual

/-- A value whose keys ascend and whose numbers read back is read back. -/
theorem reread_of_ordered : (v : Json) → v.Ordered → (∀ n ∈ v.numbers, ReadsBack n) → Reread v
  | .null, _, _ => .null
  | .bool b, _, _ => .bool b
  | .num n, _, hn => .num (hn n (List.mem_singleton_self n))
  | .str s, _, _ => .str s
  | .arr items, ho, hn => .arr (reread_items items ho hn)
  | .obj members, ho, hn => .obj ho.1 (reread_members members ho.2 hn)

theorem reread_items : (items : List Json) → OrderedItems items →
    (∀ n ∈ numbersItems items, ReadsBack n) → ∀ v ∈ items, Reread v
  | [], _, _ => List.forall_mem_nil _
  | v :: rest, ho, hn => List.forall_mem_cons.mpr
      ⟨reread_of_ordered v ho.1 fun n h => hn n (List.mem_append_left _ h),
        reread_items rest ho.2 fun n h => hn n (List.mem_append_right _ h)⟩

theorem reread_members : (members : List (String × Json)) → OrderedMembers members →
    (∀ n ∈ numbersMembers members, ReadsBack n) → ∀ p ∈ members, Reread p.2
  | [], _, _ => List.forall_mem_nil _
  | (_, v) :: rest, ho, hn => List.forall_mem_cons.mpr
      ⟨reread_of_ordered v ho.1 fun n h => hn n (List.mem_append_left _ h),
        reread_members rest ho.2 fun n h => hn n (List.mem_append_right _ h)⟩

end

/-- The text of a value that is read back is read as that value, unless it is nested too deep. -/
theorem Reread.parse? {v : Json} (h : Reread v) :
    Json.parse? v.compact = if v.depth ≤ maxDepth then some v else none := by
  have hread := h.value (2 * (compactChars v).length + 2) maxDepth [] (by omega) stops_nil
  rw [List.append_nil] at hread
  unfold Json.parse? compact
  dsimp only
  rw [String.toList_ofList, hread]
  by_cases hdepth : v.depth ≤ maxDepth
  · rw [if_pos hdepth, if_pos hdepth]
    rfl
  · rw [if_neg hdepth, if_neg hdepth]

section Whole

variable {v : Json}

theorem parse?_compact (ho : v.Ordered) (hn : ∀ n ∈ v.numbers, ReadsBack n) :
    parse? v.compact = if v.depth ≤ maxDepth then some v else none :=
  (reread_of_ordered v ho hn).parse?

/-- The same for its bytes. -/
theorem parseBytes?_compact (ho : v.Ordered) (hn : ∀ n ∈ v.numbers, ReadsBack n) :
    parseBytes? (Utf8.encode v.compact) = if v.depth ≤ maxDepth then some v else none := by
  rw [parseBytes?, Utf8.decode?_encode, Option.bind_some, parse?_compact ho hn]

/-- Of what is read, only floats might not read back. -/
theorem readsBack_of_fits {room : Nat} (h : v.Fits room)
    (hfloats : ∀ x, .float x ∈ v.numbers → ReadsBack (.float x)) :
    ∀ n ∈ v.numbers, ReadsBack n := by
  intro n hn
  cases n with
  | int i => exact readsBack_int (h.numbers _ hn)
  | float x => exact hfloats x hn

end Whole

end Dataspace.Json
