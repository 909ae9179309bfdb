/-
Files below a directory.

The path of a name inside a directory leads to where the directory's own path leads,
and from there one step down.  That step does not leave the directory, whatever the
path of the directory looks like, because a file name has no slash in it and is
neither of the two names that lead elsewhere.  Once a file is written there, that path
names it, and every path that leads elsewhere names what it named before: no path
went through the place of the file, since no directory was there.

What is refused only stops a path on its way.  A path that is followed to its end leads
where it would lead with nothing refused, and it is followed to its end if every
directory that it goes through may be searched.
-/
import Dataspace.Files.Disk
import Dataspace.Proofs.Text

namespace Dataspace

open Text

/-! ## Names and paths -/

/-- A name that stands for one step down. -/
structure IsFileName (name : String) : Prop where
  no_slash : '/' ∉ name.toList
  ne_empty : name ≠ ""
  ne_dot : name ≠ "."
  ne_dots : name ≠ ".."

namespace Path

variable {name directory : String}

/-- A path that a name can follow: it has a slash at its end, if it is not empty. -/
def slashed (directory : String) : String :=
  if directory.isEmpty || directory.toList.getLast? == some '/' then directory else directory ++ "/"

theorem slashed_empty : slashed "" = "" := rfl

theorem slashed_concat (before : String) : slashed (before ++ "/") = before ++ "/" := by
  simp [slashed]

/-- A path has a slash at its end already, or one is put there. -/
theorem slashed_cases (hne : directory ≠ "") : ∃ before,
    slashed directory = before ++ "/" ∧ (directory = before ∨ directory = before ++ "/") := by
  by_cases hlast : directory.toList.getLast? = some '/'
  · obtain ⟨cs, hcs⟩ := List.getLast?_eq_some_iff.mp hlast
    have hends : directory = String.ofList cs ++ "/" := String.toList_inj.mp (by simp [hcs])
    refine ⟨String.ofList cs, ?_, Or.inr hends⟩
    rw [hends, slashed_concat]
  · refine ⟨directory, ?_, Or.inl rfl⟩
    simp [slashed, hne, hlast]

theorem isAbsolute_append {first : String} (hne : first ≠ "") (second : String) :
    isAbsolute (first ++ second) = isAbsolute first := by
  cases hcs : first.toList with
  | nil => exact absurd (String.toList_eq_nil_iff.mp hcs) hne
  | cons c cs => simp [isAbsolute, hcs]

theorem isAbsolute_of_isFileName (hname : IsFileName name) : isAbsolute name = false := by
  cases hcs : name.toList with
  | nil => simp [isAbsolute, hcs]
  | cons c cs =>
      have hc : c ≠ '/' := fun h => hname.no_slash (by rw [hcs, h]; exact List.mem_cons_self)
      simpa [isAbsolute, hcs] using hc

theorem isAbsolute_slashed (directory : String) :
    isAbsolute (slashed directory) = isAbsolute directory := by
  by_cases hne : directory = ""
  · rw [hne, slashed_empty]
  · obtain ⟨before, hslashed, hbefore | hbefore⟩ := slashed_cases hne
    · rw [hslashed, hbefore, isAbsolute_append (hbefore ▸ hne)]
    · rw [hslashed, hbefore]

theorem join_eq (hname : isAbsolute name = false) (directory : String) :
    join directory name = slashed directory ++ name := by
  by_cases hempty : directory = ""
  · simp [join, slashed, hempty]
  · by_cases hlast : directory.toList.getLast? = some '/'
    · simp [join, slashed, hname, hempty, hlast]
    · simp [join, slashed, hname, hempty, hlast]

/-- The name follows the path, with a slash between them if there is none. -/
theorem join_cases (hname : isAbsolute name = false) (directory : String) :
    join directory name = directory ++ name ∨ join directory name = directory ++ "/" ++ name := by
  rw [join_eq hname, slashed]
  split
  · exact Or.inl rfl
  · exact Or.inr rfl

/-- A name inside a directory is looked for from where the directory is. -/
theorem isAbsolute_join (hname : isAbsolute name = false) (directory : String) :
    isAbsolute (join directory name) = isAbsolute directory := by
  rw [join_eq hname]
  by_cases hempty : directory = ""
  · rw [hempty, slashed_empty, String.empty_append, hname]
    rfl
  · obtain ⟨before, hslashed, -⟩ := slashed_cases hempty
    have hne : slashed directory ≠ "" := by
      simp [hslashed]
    rw [isAbsolute_append hne, isAbsolute_slashed]

theorem components_append_slash (before after : String) :
    components (before ++ "/" ++ after) = components before ++ components after := by
  have hcut : (before ++ "/" ++ after).toList = before.toList ++ '/' :: after.toList := by
    simp
  rw [components, split, hcut, pieces_append, List.map_append]
  rfl

theorem components_of_isFileName (hname : IsFileName name) : components name = [name] := by
  rw [components, split, pieces_of_not_mem hname.no_slash, List.map_singleton, String.ofList_toList]

end Path

/-- Two steps succeed if the first does and then the second. -/
theorem bind_eq_ok_iff {ε α β : Type} {x : Except ε α} {f : α → Except ε β} {b : β} :
    x.bind f = .ok b ↔ ∃ a, x = .ok a ∧ f a = .ok b := by
  cases x with
  | error e => simp [Except.bind]
  | ok a => simp [Except.bind]

theorem toOption_bind {ε α β : Type} (x : Except ε α) (f : α → Except ε β) :
    (x.bind f).toOption = x.toOption.bind fun a => (f a).toOption := by
  cases x <;> rfl

namespace Disk

variable {d : Disk} {name : String}

/-! ## Following components -/

/-- Where a component leads from a directory. -/
def next (base name : String) : String :=
  if name = "" ∨ name = "." then base
  else if name = ".." then above base
  else base ++ "/" ++ name

/-- One component is followed from a directory, unless the directory may not be searched for it or
it is too long. -/
theorem step_eq_ok_iff {base place : String} :
    d.step base name = .ok place ↔ d.node? base = some .directory ∧
      (name ≠ "" → d.refuses .search base = false) ∧
      (name ≠ "" → name ≠ "." → name ≠ ".." → (Utf8.encode name).length ≤ maxNameBytes) ∧
      place = next base name := by
  have hok : ∀ {x : String}, (Except.ok x : Except FileFault String) = .ok place ↔ place = x :=
    ⟨fun h => (Except.ok.inj h).symm, fun h => by rw [h]⟩
  unfold step next
  cases d.node? base with
  | none => simp
  | some node =>
      cases node with
      | file content => simp
      | directory =>
          by_cases hempty : name = ""
          · simp [hempty, hok]
          · cases d.refuses .search base with
            | true => simp [hempty]
            | false =>
                by_cases hdot : name = "."
                · simp [hdot, hok]
                · by_cases hdots : name = ".."
                  · simp [hdots, hok]
                  · by_cases hlong : maxNameBytes < (Utf8.encode name).length
                    · simp [hempty, hdot, hdots, hlong, Nat.not_le.mpr hlong]
                    · simp [hempty, hdot, hdots, hlong, Nat.not_lt.mp hlong, hok]

theorem follow_append (d : Disk) (base : String) (first second : List String) :
    d.follow base (first ++ second)
      = (d.follow base first).bind fun place => d.follow place second := by
  induction first generalizing base with
  | nil => rfl
  | cons x first ih =>
      rw [List.cons_append, follow, follow]
      cases d.step base x with
      | error fault => rfl
      | ok place => exact ih place

theorem follow_one (d : Disk) (base name : String) : d.follow base [name] = d.step base name := by
  rw [follow]
  cases d.step base name <;> rfl

/-- An empty component leads nowhere else. -/
theorem follow_empty_bind (d : Disk) (base : String) (name : String) :
    ((d.follow base [""]).bind fun place => d.follow place [name]) = d.follow base [name] := by
  simp only [follow_one]
  unfold step
  cases hnode : d.node? base with
  | none => rfl
  | some node =>
      cases node with
      | file content => rfl
      | directory => simp [Except.bind, hnode]

/-- A path with a name joined to it leads one step down from where the path leads. -/
theorem follow_join (hname : IsFileName name) (base directory : String) :
    d.follow base (Path.components (Path.join directory name))
      = (d.follow base (Path.components directory)).bind fun place => d.follow place [name] := by
  rw [Path.join_eq (Path.isAbsolute_of_isFileName hname)]
  by_cases hempty : directory = ""
  · subst hempty
    rw [Path.slashed_empty, String.empty_append, Path.components_of_isFileName hname]
    exact (follow_empty_bind d base name).symm
  · obtain ⟨before, hslashed, hbefore | hbefore⟩ := Path.slashed_cases hempty
    · rw [hslashed, Path.components_append_slash, Path.components_of_isFileName hname,
        follow_append, hbefore]
    · have hends : Path.components directory = Path.components before ++ [""] := by
        rw [hbefore, ← String.append_empty (s := before ++ "/"), Path.components_append_slash]
        rfl
      rw [hslashed, Path.components_append_slash, Path.components_of_isFileName hname, hends,
        follow_append, follow_append]
      cases d.follow base (Path.components before) with
      | error fault => rfl
      | ok place => exact (follow_empty_bind d place name).symm

/-! ## What is refused -/

/-- The directories that are searched for components, from `base` on.  An empty component is not
looked for. -/
def searched (base : String) : List String → List String
  | [] => []
  | name :: rest =>
    if name = "" then searched base rest else base :: searched (next base name) rest

theorem node?_unrefused (d : Disk) (path : String) : d.unrefused.node? path = d.node? path := rfl

theorem refuses_unrefused (d : Disk) (access : Access) (path : String) :
    d.unrefused.refuses access path = false := rfl

/-- Components lead where they lead with nothing refused, if every directory that is searched for
them may be. -/
theorem follow_eq_ok_iff {base target : String} {names : List String} :
    d.follow base names = .ok target ↔ d.unrefused.follow base names = .ok target ∧
      ∀ place ∈ searched base names, d.refuses .search place = false := by
  induction names generalizing base with
  | nil => exact (and_iff_left fun place hplace => absurd hplace List.not_mem_nil).symm
  | cons x names ih =>
      have hsearched : (∀ place ∈ searched base (x :: names), d.refuses .search place = false) ↔
          (x ≠ "" → d.refuses .search base = false) ∧
            ∀ place ∈ searched (next base x) names, d.refuses .search place = false := by
        rw [searched]
        by_cases hempty : x = ""
        · simp [hempty, next]
        · simp [hempty]
      rw [hsearched, follow, follow, bind_eq_ok_iff, bind_eq_ok_iff]
      simp only [step_eq_ok_iff, node?_unrefused, refuses_unrefused]
      constructor
      · rintro ⟨_, ⟨hnode, hsearch, hfits, rfl⟩, hrest⟩
        obtain ⟨hopen, hall⟩ := ih.mp hrest
        exact ⟨⟨_, ⟨hnode, fun _ => trivial, hfits, rfl⟩, hopen⟩, hsearch, hall⟩
      · rintro ⟨⟨_, ⟨hnode, -, hfits, rfl⟩, hopen⟩, hsearch, hall⟩
        exact ⟨_, ⟨hnode, hsearch, hfits, rfl⟩, ih.mpr ⟨hopen, hall⟩⟩

/-! ## One step down -/

/-- The path of a directory leads here; the empty path leads to the working directory. -/
def leadsTo (d : Disk) (directory : String) : Except FileFault String :=
  (d.origin directory).bind fun base => d.follow base (Path.components directory)

/-- There is room for a file of this name in the directory, which is at `place`: its path leads to
a directory there, which may be searched, no directory has the name, the file may be written, or
made if there is none, and nothing is too long. -/
structure HasRoom (d : Disk) (directory name place : String) : Prop where
  leads : d.leadsTo directory = .ok place
  node : d.node? place = some .directory
  searchable : d.refuses .search place = false
  free : d.node? (place ++ "/" ++ name) ≠ some .directory
  writable : d.refuses .write
    (if (d.node? (place ++ "/" ++ name)).isSome then place ++ "/" ++ name else place) = false
  no_nul : '\x00' ∉ (Path.join directory name).toList
  path_fits : (Utf8.encode (Path.join directory name)).length ≤ maxPathBytes
  name_fits : (Utf8.encode name).length ≤ maxNameBytes

/-- Slashes at the end of the path of a directory lead nowhere else. -/
theorem leadsTo_slashes {directory place : String} (hne : directory ≠ "")
    (hleads : d.leadsTo directory = .ok place) (hnode : d.node? place = some .directory) (n : Nat) :
    d.leadsTo (directory ++ slashes n) = .ok place := by
  induction n with
  | zero => rwa [slashes, List.replicate_zero, String.ofList_nil, String.append_empty]
  | succ n ih =>
      have hcomponents : Path.components (directory ++ slashes (n + 1))
          = Path.components (directory ++ slashes n) ++ [""] := by
        rw [slashes_succ, ← String.append_assoc, ← String.append_empty
          (s := directory ++ slashes n ++ String.singleton '/')]
        exact Path.components_append_slash _ ""
      rw [leadsTo, origin, Path.isAbsolute_append hne, ← origin] at ih ⊢
      obtain ⟨base, hbase, hfollow⟩ := bind_eq_ok_iff.mp ih
      refine bind_eq_ok_iff.mpr ⟨base, hbase, ?_⟩
      rw [hcomponents, follow_append, hfollow]
      exact (follow_one d place "").trans (step_eq_ok_iff.mpr
        ⟨hnode, fun h => absurd rfl h, fun h => absurd rfl h, rfl⟩)

theorem follow_name (hname : IsFileName name) {place target : String} :
    d.follow place [name] = .ok target ↔ d.node? place = some .directory ∧
      d.refuses .search place = false ∧ (Utf8.encode name).length ≤ maxNameBytes ∧
      target = place ++ "/" ++ name := by
  have hnext : next place name = place ++ "/" ++ name := by
    rw [next, if_neg (not_or.mpr ⟨hname.ne_empty, hname.ne_dot⟩), if_neg hname.ne_dots]
  rw [follow_one, step_eq_ok_iff, hnext]
  simp only [hname.ne_empty, hname.ne_dot, hname.ne_dots, ne_eq, not_false_eq_true, forall_const]

/-- The path of a name leads to the directory and one step down. -/
theorem resolve_join (hname : IsFileName name) {directory target : String} :
    d.resolve (Path.join directory name) = .ok target ↔
      '\x00' ∉ (Path.join directory name).toList ∧
      (Utf8.encode (Path.join directory name)).length ≤ maxPathBytes ∧
      ∃ place, d.leadsTo directory = .ok place ∧ d.node? place = some .directory ∧
        d.refuses .search place = false ∧ (Utf8.encode name).length ≤ maxNameBytes ∧
        target = place ++ "/" ++ name := by
  have hrelative := Path.isAbsolute_of_isFileName hname
  have hfilled : (Path.join directory name).isEmpty = false := by
    refine String.isEmpty_eq_false_iff.mpr ?_
    rw [Path.join_eq hrelative]
    simp [hname.ne_empty]
  have hleads : ((d.origin directory).bind fun base =>
      d.follow base (Path.components (Path.join directory name)))
        = (d.leadsTo directory).bind fun place => d.follow place [name] := by
    rw [leadsTo]
    cases d.origin directory with
    | error fault => rfl
    | ok base => exact follow_join hname base directory
  unfold resolve
  rw [origin, Path.isAbsolute_join hrelative, ← origin, hleads]
  by_cases hnul : '\x00' ∈ (Path.join directory name).toList
  · simp [hnul]
  · by_cases hlong : maxPathBytes < (Utf8.encode (Path.join directory name)).length
    · simp [hnul, hlong, Nat.not_le.mpr hlong]
    · simp only [if_neg hnul, if_neg hlong, hfilled, Bool.false_eq_true, if_false,
        bind_eq_ok_iff, follow_name hname]
      exact ⟨fun h => ⟨hnul, Nat.not_lt.mp hlong, h⟩, fun h => h.2.2⟩

/-! ## Writing -/

/-- The disk with this content in a file. -/
def withFile (d : Disk) (target : String) (content : Bytes) : Disk :=
  { d with nodes := Keyed.insert target (.file content) d.nodes }

theorem write_eq_ok_iff {path : String} {content : Bytes} {d' : Disk} :
    d.write path content = .ok d' ↔ ∃ target, d.resolve path = .ok target ∧
      d.node? target ≠ some .directory ∧
      (d.node? target = none → d.node? (above target) = some .directory) ∧
      d.refuses .write (if (d.node? target).isSome then target else above target) = false ∧
      d' = d.withFile target content := by
  unfold write
  cases hresolve : d.resolve path with
  | error fault => simp [bind, Except.bind]
  | ok target =>
      simp only [bind, Except.bind, Except.ok.injEq, exists_eq_left']
      cases hnode : d.node? target with
      | none =>
          cases habove : d.node? (above target) with
          | none => simp [throw, throwThe, MonadExceptOf.throw]
          | some node =>
              cases node with
              | file old => simp [throw, throwThe, MonadExceptOf.throw]
              | directory =>
                  cases hrefused : d.refuses .write (above target) with
                  | true => simp [hrefused, throw, throwThe, MonadExceptOf.throw]
                  | false => simp [hrefused, pure, Except.pure, withFile, eq_comm]
      | some node =>
          cases node with
          | file old =>
              cases hrefused : d.refuses .write target with
              | true => simp [hrefused, throw, throwThe, MonadExceptOf.throw]
              | false => simp [hrefused, pure, Except.pure, withFile, eq_comm]
          | directory => simp [throw, throwThe, MonadExceptOf.throw]

theorem above_child (hname : IsFileName name) (place : String) :
    above (place ++ "/" ++ name) = place := by
  have hslash : place ++ "/" ++ name = place ++ String.singleton '/' ++ name := rfl
  rw [above, hslash, beforeLast?_append hname.no_slash]
  rfl

/-- A file is written in a directory if and only if there is room for it. -/
theorem write_join_eq_ok_iff (hname : IsFileName name) {directory : String} {content : Bytes}
    {d' : Disk} :
    d.write (Path.join directory name) content = .ok d' ↔
      ∃ place, d.HasRoom directory name place ∧
        d' = d.withFile (place ++ "/" ++ name) content := by
  simp only [write_eq_ok_iff, resolve_join hname]
  constructor
  · rintro ⟨target, ⟨hnul, hpath, place, hleads, hnode, hsearch, hlength, rfl⟩, hfree, -,
      hwritable, rfl⟩
    rw [above_child hname] at hwritable
    exact ⟨place, ⟨hleads, hnode, hsearch, hfree, hwritable, hnul, hpath, hlength⟩, rfl⟩
  · rintro ⟨place, hroom, rfl⟩
    refine ⟨place ++ "/" ++ name, ⟨hroom.no_nul, hroom.path_fits, place, hroom.leads, hroom.node,
      hroom.searchable, hroom.name_fits, rfl⟩, hroom.free, ?_, ?_, rfl⟩
    · intro _
      rw [above_child hname]
      exact hroom.node
    · rw [above_child hname]
      exact hroom.writable

/-! ## After a file is written -/

section Written

variable {target path : String} (content : Bytes)

/-- What is kept anywhere else is what was kept there. -/
theorem node?_withFile (hne : target ≠ "") (path : String) :
    (d.withFile target content).node? path
      = if path = target then some (.file content) else d.node? path := by
  by_cases hempty : path = ""
  · subst hempty
    rw [if_neg (Ne.symm hne)]
    rfl
  · simp only [node?, String.isEmpty_eq_false_iff.mpr hempty, Bool.false_eq_true, if_false,
      withFile, Keyed.lookup_insert]

theorem refuses_withFile (access : Access) (path : String) :
    (d.withFile target content).refuses access path = d.refuses access path := rfl

/-- From where no directory was no step led, and none does. -/
theorem toOption_step_withFile (hne : target ≠ "") (hfree : d.node? target ≠ some .directory)
    (base name : String) :
    ((d.withFile target content).step base name).toOption = (d.step base name).toOption := by
  rw [step, step, node?_withFile content hne, refuses_withFile]
  by_cases hbase : base = target
  · subst hbase
    rw [if_pos rfl]
    cases hnode : d.node? base with
    | none => rfl
    | some node =>
        cases node with
        | file content => rfl
        | directory => exact absurd hnode hfree
  · rw [if_neg hbase]

theorem toOption_follow_withFile (hne : target ≠ "") (hfree : d.node? target ≠ some .directory)
    (base : String) (names : List String) :
    ((d.withFile target content).follow base names).toOption
      = (d.follow base names).toOption := by
  induction names generalizing base with
  | nil => rfl
  | cons name names ih =>
      simp only [follow, toOption_bind, toOption_step_withFile content hne hfree, ih]

theorem toOption_origin_withFile (hne : target ≠ "") (hfree : d.node? target ≠ some .directory)
    (path : String) :
    ((d.withFile target content).origin path).toOption = (d.origin path).toOption := by
  unfold origin
  split
  · rfl
  · exact toOption_follow_withFile (d := d.unrefused) content hne hfree "" _

theorem toOption_resolve_withFile (hne : target ≠ "") (hfree : d.node? target ≠ some .directory)
    (path : String) :
    ((d.withFile target content).resolve path).toOption = (d.resolve path).toOption := by
  have horigin := toOption_origin_withFile (d := d) content hne hfree path
  have hfollow := fun base =>
    toOption_follow_withFile (d := d) content hne hfree base (Path.components path)
  unfold resolve
  split
  · rfl
  · split
    · rfl
    · split
      · rfl
      · simp only [toOption_bind, horigin, hfollow]

/-- The path of the file names it. -/
theorem find?_withFile (hne : target ≠ "") (hfree : d.node? target ≠ some .directory)
    (hpath : d.resolve path = .ok target) :
    (d.withFile target content).find? path = some (.file content) := by
  rw [find?, toOption_resolve_withFile content hne hfree, hpath]
  show (d.withFile target content).node? target = _
  rw [node?_withFile content hne, if_pos rfl]

/-- A path that leads elsewhere names what it named. -/
theorem find?_withFile_of_ne (hne : target ≠ "") (hfree : d.node? target ≠ some .directory)
    (hpath : d.resolve path ≠ .ok target) :
    (d.withFile target content).find? path = d.find? path := by
  rw [find?, find?, toOption_resolve_withFile content hne hfree]
  cases hresolve : d.resolve path with
  | error fault => rfl
  | ok place =>
      have hplace : place ≠ target := fun h => hpath (h ▸ hresolve)
      show (d.withFile target content).node? place = d.node? place
      rw [node?_withFile content hne, if_neg hplace]

end Written

end Disk

end Dataspace
