/-
Going up from a path to the root.

A step up drops the last name of an absolute path and whatever else stands at its end
without counting: empty components, and `.`.  So there is one name less after every step,
and the steps come to the root.  The paths on the way are known by that: one for each
initial part of the names of the start, the longest first.  As text, each of them is
what the start begins with.
-/
import Dataspace.Config.Search
import Dataspace.Proofs.Disks

namespace Dataspace.Path

open Text

variable {path above : String} {cs front last : List Char}

/-! ## The names of a path -/

/-- The component counts as a name. -/
def isName (component : String) : Bool :=
  component != "" && component != "."

/-- The components of a path that count. -/
def names (path : String) : List String :=
  (components path).filter isName

theorem names_append (front back : List Char) :
    names (String.ofList (front ++ '/' :: back))
      = names (String.ofList front) ++ names (String.ofList back) := by
  simp only [names, components, split, String.toList_ofList, pieces_append, List.map_append,
    List.filter_append]

theorem names_of_no_slash (h : '/' ∉ last) :
    names (String.ofList last) = [String.ofList last].filter isName := by
  simp only [names, components, split, String.toList_ofList, pieces_of_not_mem h,
    List.map_singleton]

theorem isAbsolute_ofList : isAbsolute (String.ofList cs) = true ↔ cs.head? = some '/' := by
  simp [isAbsolute]

/-- An absolute path has a last component, with a slash before it. -/
theorem exists_last_component (h : cs.head? = some '/') : ∃ front last,
    cs = front ++ '/' :: last ∧ '/' ∉ last ∧ (front = [] ∨ front.head? = some '/') := by
  rcases not_mem_or_last_sep '/' cs with hnone | ⟨front, last, hlast, rfl⟩
  · exact absurd (List.mem_of_head? h) hnone
  · refine ⟨front, last, rfl, hlast, ?_⟩
    cases front with
    | nil => exact Or.inl rfl
    | cons c rest => exact Or.inr h

theorem head?_append_slash (h : front = [] ∨ front.head? = some '/') (back : List Char) :
    (front ++ '/' :: back).head? = some '/' := by
  rcases h with rfl | hfront
  · rfl
  · rw [List.head?_append, hfront]
    rfl

/-! ## What is dropped from the end -/

theorem trimReversed_slash (h : cs ≠ []) : trimReversed ('/' :: cs) = trimReversed cs := by
  cases cs with
  | nil => exact absurd rfl h
  | cons c rest => rfl

theorem trimReversed_dot (h : cs ≠ []) : trimReversed ('.' :: '/' :: cs) = trimReversed cs := by
  cases cs with
  | nil => exact absurd rfl h
  | cons c rest => rfl

/-- A name at the end stays. -/
theorem trimReversed_name (hslash : '/' ∉ last) (hname : isName (String.ofList last) = true)
    (cs : List Char) :
    trimReversed (last.reverse ++ '/' :: cs) = last.reverse ++ '/' :: cs := by
  have hmem : ∀ c ∈ last.reverse, c ≠ '/' := by
    intro c hc hsame
    exact hslash (hsame ▸ List.mem_reverse.mp hc)
  cases hlast : last.reverse with
  | nil =>
      rw [List.reverse_eq_nil_iff.mp hlast] at hname
      cases hname
  | cons c rest =>
      rw [hlast] at hmem
      obtain ⟨hc, hrest⟩ := List.forall_mem_cons.mp hmem
      cases rest with
      | nil =>
          have hdot : c ≠ '.' := by
            rintro rfl
            rw [List.reverse_eq_iff.mp hlast] at hname
            exact absurd hname (by decide)
          simp [trimReversed, hc, hdot]
      | cons d rest =>
          have hd : d ≠ '/' := (List.forall_mem_cons.mp hrest).1
          simp [trimReversed, hc, hd]

/-- From an absolute path all is dropped up to its last name, or to the root if it has none. -/
theorem trimReversed_cases {cs : List Char} (h : cs.head? = some '/') :
    (trimReversed cs.reverse = ['/'] ∧ names (String.ofList cs) = []) ∨
    ∃ front last, '/' ∉ last ∧ isName (String.ofList last) = true ∧
      (front = [] ∨ front.head? = some '/') ∧
      trimReversed cs.reverse = last.reverse ++ '/' :: front.reverse ∧
      names (String.ofList cs) = names (String.ofList front) ++ [String.ofList last] ∧
      front.length + last.length < cs.length := by
  obtain ⟨front, last, rfl, hlast, hfront⟩ := exists_last_component h
  have hreverse : (front ++ '/' :: last).reverse = last.reverse ++ '/' :: front.reverse := by
    simp
  rw [hreverse, names_append, names_of_no_slash hlast]
  by_cases hname : isName (String.ofList last) = true
  · refine Or.inr ⟨front, last, hlast, hname, hfront, trimReversed_name hlast hname _, ?_, ?_⟩
    · rw [List.filter_cons_of_pos hname]
      rfl
    · rw [List.length_append, List.length_cons]
      omega
  · -- the last component does not count, so it is dropped and the rest of the path is trimmed
    have hempty : last = [] ∨ last = ['.'] := by
      by_cases hnil : last = []
      · exact Or.inl hnil
      · refine Or.inr ?_
        simpa [isName, hnil, ← String.toList_inj] using hname
    have hdropped : trimReversed (last.reverse ++ '/' :: front.reverse)
        = if front = [] then ['/'] else trimReversed front.reverse := by
      by_cases hroot : front = []
      · rw [if_pos hroot, hroot]
        rcases hempty with rfl | rfl <;> rfl
      · rw [if_neg hroot]
        rcases hempty with rfl | rfl
        · exact trimReversed_slash (mt List.reverse_eq_nil_iff.mp hroot)
        · exact trimReversed_dot (mt List.reverse_eq_nil_iff.mp hroot)
    rw [hdropped, List.filter_cons_of_neg hname, List.filter_nil, List.append_nil]
    rcases hfront with rfl | hfront
    · exact Or.inl ⟨rfl, rfl⟩
    · have hne : front ≠ [] := by
        rintro rfl
        cases hfront
      rw [if_neg hne]
      rcases trimReversed_cases hfront with hroot | ⟨first, name, hslash, hcounts, hfirst, htrimmed,
        hnames, hlength⟩
      · exact Or.inl hroot
      · refine Or.inr ⟨first, name, hslash, hcounts, hfirst, htrimmed, hnames, ?_⟩
        rw [List.length_append, List.length_cons]
        omega
  termination_by cs.length
  decreasing_by
    subst_vars
    rw [List.length_append, List.length_cons]
    omega

/-- The slash at the front stays, and so do the names. -/
theorem trimReversed_keeps (h : cs.head? = some '/') :
    (trimReversed cs.reverse).reverse.head? = some '/' ∧
      names (String.ofList (trimReversed cs.reverse).reverse) = names (String.ofList cs) ∧
      (trimReversed cs.reverse).length ≤ cs.length := by
  rcases trimReversed_cases h with ⟨htrimmed, hnames⟩ | ⟨front, last, hslash, hname, hfront,
    htrimmed, hnames, hlength⟩
  · rw [htrimmed, hnames]
    refine ⟨rfl, by decide +kernel, ?_⟩
    cases cs with
    | nil => cases h
    | cons c rest => exact Nat.succ_le_succ (Nat.zero_le _)
  · have hback : (last.reverse ++ '/' :: front.reverse).reverse = front ++ '/' :: last := by
      simp
    rw [htrimmed, hback, hnames, names_append, names_of_no_slash hslash,
      List.filter_cons_of_pos hname]
    refine ⟨head?_append_slash hfront last, rfl, ?_⟩
    simp only [List.length_append, List.length_cons, List.length_reverse]
    omega

/-- Whatever is dropped, it is dropped from the end. -/
theorem trimReversed_end (cs : List Char) : trimReversed cs <:+ cs := by
  induction cs using trimReversed.induct with
  | case1 => exact List.suffix_refl _
  | case2 rest hrest ih =>
      rw [trimReversed]
      · exact ih.trans (List.suffix_cons _ _)
      · exact hrest
  | case3 => exact List.suffix_cons _ _
  | case4 rest hrest ih =>
      rw [trimReversed]
      · exact ih.trans ((List.suffix_cons _ _).trans (List.suffix_cons _ _))
      · exact hrest
  | case5 cs hroot hslash hdotRoot hdot =>
      have hkept : trimReversed cs = cs := by
        rw [trimReversed] <;> assumption
      exact ⟨[], hkept⟩

/-! ## One step up -/

/-- The path begins with what is above it. -/
theorem parent?_start (h : parent? path = some above) : above.toList <+: path.toList := by
  have hdropped : ∀ {cs : List Char}, cs <:+ path.toList.reverse →
      (String.ofList (trimReversed (cs.dropWhile (· != '/'))).reverse).toList <+: path.toList := by
    intro cs hcs
    rw [String.toList_ofList, ← List.reverse_suffix, List.reverse_reverse]
    exact ((trimReversed_end _).trans (List.dropWhile_suffix _)).trans hcs
  rw [parent?] at h
  split at h
  · cases h
  · cases h
  · obtain rfl := Option.some.inj h
    exact hdropped (trimReversed_end _)

/-- Slashes at the end do not count. -/
theorem parent?_slashes (hne : path ≠ "") (n : Nat) :
    parent? (path ++ slashes n) = parent? path := by
  induction n with
  | zero => rw [slashes, List.replicate_zero, String.ofList_nil, String.append_empty]
  | succ n ih =>
      have hrest : (path ++ slashes n).toList.reverse ≠ [] := by
        simp [String.toList_append, hne]
      have htrimmed : trimReversed (path ++ slashes (n + 1)).toList.reverse
          = trimReversed (path ++ slashes n).toList.reverse := by
        rw [slashes_succ, ← String.append_assoc, String.toList_append, List.reverse_append]
        exact trimReversed_slash hrest
      rw [← ih, parent?, parent?, htrimmed]

/-- An absolute path has no name and nothing above it, or what is above it is an absolute path with
all its names but the last. -/
theorem parent?_cases (h : isAbsolute path = true) :
    (parent? path = none ∧ names path = []) ∨
    ∃ above last, parent? path = some above ∧ isAbsolute above = true ∧
      names path = names above ++ [last] ∧ above.length < path.length := by
  rw [← String.ofList_toList (s := path), isAbsolute_ofList] at h
  rcases trimReversed_cases h with ⟨htrimmed, hnames⟩ | ⟨front, last, hslash, hname, hfront,
    htrimmed, hnames, hlength⟩
  · rw [String.ofList_toList] at hnames
    refine Or.inl ⟨?_, hnames⟩
    rw [parent?, htrimmed]
    rfl
  · have hne : last ≠ [] := by
      rintro rfl
      cases hname
    have hslash' : '/' ∉ last.reverse := fun hmem => hslash (List.mem_reverse.mp hmem)
    obtain ⟨habsolute, hkept, hshort⟩ := trimReversed_keeps (head?_append_slash hfront [])
    have hnames' : names (String.ofList (front ++ ['/'])) = names (String.ofList front) :=
      (names_append front []).trans (List.append_nil _)
    refine Or.inr ⟨String.ofList (trimReversed (front ++ ['/']).reverse).reverse,
      String.ofList last, ?_, isAbsolute_ofList.mpr habsolute, ?_, ?_⟩
    · have hdrop : (last.reverse ++ '/' :: front.reverse).dropWhile (· != '/')
          = (front ++ ['/']).reverse := by
        rw [dropWhile_ne_append hslash', List.reverse_append]
        rfl
      rw [parent?, htrimmed]
      split
      · rename_i hnil
        simp at hnil
      · rename_i hone
        have hlast := congrArg List.length hone
        have hpos := List.length_pos_iff.mpr hne
        simp only [List.length_append, List.length_cons, List.length_reverse,
          List.length_nil] at hlast
        omega
      · rw [hdrop]
    · rw [String.ofList_toList] at hnames
      rw [hnames, hkept, hnames']
    · have hpos := List.length_pos_iff.mpr hne
      rw [← String.length_toList, ← String.length_toList (s := path), String.toList_ofList,
        List.length_reverse]
      rw [List.length_append, List.length_singleton] at hshort
      omega

/-! ## All the way up -/

/-- The paths from here on upwards, one above the other, the last with nothing above it. -/
inductive Ascends : String → List String → Prop
  | top {path : String} : parent? path = none → Ascends path [path]
  | up {path above : String} {more : List String} : parent? path = some above →
      Ascends above more → Ascends path (path :: more)

/-- As many steps as the path has characters lead to the root. -/
theorem ascends_upwardFrom {fuel : Nat} (h : isAbsolute path = true) (hfuel : path.length ≤ fuel) :
    Ascends path (upwardFrom fuel path) := by
  induction fuel generalizing path with
  | zero =>
      rw [← String.length_toList] at hfuel
      have hnil := List.eq_nil_of_length_eq_zero (Nat.le_zero.mp hfuel)
      rw [isAbsolute, hnil] at h
      cases h
  | succ fuel ih =>
      rw [upwardFrom]
      rcases parent?_cases h with ⟨hnone, -⟩ | ⟨above, last, hsome, habsolute, -, hlength⟩
      · rw [hnone]
        exact .top hnone
      · rw [hsome]
        exact .up hsome (ih habsolute (by omega))

theorem ascends_upward (h : isAbsolute path = true) : Ascends path (upward path) :=
  ascends_upwardFrom h (Nat.le_refl _)

/-- There is one way up. -/
theorem Ascends.unique {first second : List String} (hfirst : Ascends path first)
    (hsecond : Ascends path second) : first = second := by
  induction hfirst generalizing second with
  | top hnone =>
      cases hsecond with
      | top => rfl
      | up hsome _ => cases hnone.symm.trans hsome
  | up hsome _ ih =>
      cases hsecond with
      | top hnone => cases hnone.symm.trans hsome
      | up hsome' hmore =>
          obtain rfl := Option.some.inj (hsome.symm.trans hsome')
          rw [ih hmore]

theorem upward_of_parent? (h : isAbsolute path = true) (hparent : parent? path = some above) :
    upward path = path :: upward above := by
  rcases parent?_cases h with ⟨hnone, -⟩ | ⟨above', last, hsome, habsolute, -⟩
  · cases hnone.symm.trans hparent
  · obtain rfl := Option.some.inj (hsome.symm.trans hparent)
    exact (ascends_upward h).unique (.up hparent (ascends_upward habsolute))

/-- The start begins with every path on the way up. -/
theorem Ascends.start {paths : List String} (h : Ascends path paths) :
    ∀ above ∈ paths, above.toList <+: path.toList := by
  induction h with
  | top _ =>
      intro above hmem
      obtain rfl := List.mem_singleton.mp hmem
      exact List.prefix_refl _
  | up hparent _ ih =>
      intro above hmem
      rcases List.mem_cons.mp hmem with rfl | hmem
      · exact List.prefix_refl _
      · exact (ih above hmem).trans (parent?_start hparent)

/-- There is one path for each initial part of the names, the longest first. -/
theorem Ascends.map_names {paths : List String} (h : isAbsolute path = true)
    (hascends : Ascends path paths) :
    paths.map names = (List.range ((names path).length + 1)).reverse.map (names path).take := by
  induction hascends with
  | @top path hnone =>
      rcases parent?_cases h with ⟨-, hnames⟩ | ⟨above, last, hsome, -⟩
      · rw [hnames]
        show [names path] = [[]]
        rw [hnames]
      · rw [hnone] at hsome
        cases hsome
  | @up path above more hsome _ ih =>
      rcases parent?_cases h with ⟨hnone, -⟩ | ⟨above', last, hsome', habsolute, hnames, -⟩
      · rw [hnone] at hsome
        cases hsome
      · rw [hsome] at hsome'
        obtain rfl := Option.some.inj hsome'
        rw [List.map_cons, ih habsolute, hnames, List.length_append, List.length_singleton,
          List.range_succ (n := (names above).length + 1), List.reverse_append,
          List.reverse_singleton, List.singleton_append, List.map_cons]
        congr 1
        · rw [List.take_of_length_le (by simp)]
        · refine List.map_congr_left ?_
          intro k hk
          have hle : k ≤ (names above).length := by
            have hlt := List.mem_range.mp (List.mem_reverse.mp hk)
            omega
          rw [List.take_append_of_le_length hle]

example : (upward "/a/./b//").map names = [["a", "b"], ["a"], []] := by decide +kernel

end Dataspace.Path
