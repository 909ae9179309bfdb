/-
The search for the configuration.

Which directories are looked at is known before anything is looked up.  The first of them
decides in which a configuration file is looked up and found.  What the file holds plays no
part in the choice, and what is further up plays none in the result.

That a directory holds the file is not enough for it to be found.  A path that is too long is
not looked up, and neither is one that goes through a directory that may not be searched; then
the file is passed over as if it were not there, and one further up decides.  If nothing is
refused and the start leaves room for the name of the file, every path is looked up.
-/
import Dataspace.Proofs.Ascent
import Dataspace.Proofs.Utf8

namespace Dataspace

open Text

/-! ## Files that are held and files that are found -/

namespace Disk

/-- The directory, which is at `place`, holds a file of this name with this content; nothing is said
of what is refused. -/
structure HasFile (d : Disk) (directory name place : String) (content : Bytes) : Prop where
  leads : d.unrefused.leadsTo directory = .ok place
  node : d.node? place = some .directory
  file : d.node? (place ++ "/" ++ name) = some (.file content)

/-- The system looks the path up: it is a path, not too long, and every directory on its way may be
searched. -/
structure LooksUp (d : Disk) (path : String) : Prop where
  no_nul : '\x00' ∉ path.toList
  path_fits : (Utf8.encode path).length ≤ maxPathBytes
  searchable : ∀ base, d.origin path = .ok base →
    ∀ place ∈ searched base (Path.components path), d.refuses .search place = false

variable {d : Disk} {name directory path : String} {content : Bytes}

/-- A path leads where it leads with nothing refused, if it is looked up. -/
theorem resolve_eq_ok_iff {target : String} :
    d.resolve path = .ok target ↔ d.LooksUp path ∧ d.unrefused.resolve path = .ok target := by
  unfold resolve
  by_cases hnul : '\x00' ∈ path.toList
  · rw [if_pos hnul, if_pos hnul]
    exact iff_of_false (fun h => nomatch h) (fun h => nomatch h.2)
  · by_cases hlong : maxPathBytes < (Utf8.encode path).length
    · rw [if_neg hnul, if_neg hnul, if_pos hlong, if_pos hlong]
      exact iff_of_false (fun h => nomatch h) (fun h => nomatch h.2)
    · rw [if_neg hnul, if_neg hnul, if_neg hlong, if_neg hlong]
      split
      · exact iff_of_false (fun h => nomatch h) (fun h => nomatch h.2)
      · have horigin : d.unrefused.origin path = d.origin path := rfl
        rw [horigin, bind_eq_ok_iff, bind_eq_ok_iff]
        constructor
        · rintro ⟨base, hbase, hfollow⟩
          obtain ⟨hopen, hsearch⟩ := follow_eq_ok_iff.mp hfollow
          refine ⟨⟨hnul, Nat.not_lt.mp hlong, ?_⟩, base, hbase, hopen⟩
          intro other hother
          obtain rfl := Except.ok.inj (hbase.symm.trans hother)
          exact hsearch
        · rintro ⟨hlooks, base, hbase, hopen⟩
          exact ⟨base, hbase, follow_eq_ok_iff.mpr ⟨hopen, hlooks.searchable base hbase⟩⟩

theorem find?_eq_some_iff {node : FileNode} :
    d.find? path = some node ↔ ∃ target, d.resolve path = .ok target ∧ d.node? target = some node := by
  rw [find?]
  cases d.resolve path with
  | error fault => simp [Except.toOption]
  | ok target => simp [Except.toOption]

/-- A path with a name joined to it leads to a file just when the directory holds it and the path is
looked up. -/
theorem resolve_join_file_iff (hname : IsFileName name)
    (hfits : (Utf8.encode name).length ≤ maxNameBytes) {target : String} :
    d.resolve (Path.join directory name) = .ok target ∧ d.node? target = some (.file content) ↔
      ∃ place, target = place ++ "/" ++ name ∧ d.HasFile directory name place content ∧
        d.LooksUp (Path.join directory name) := by
  rw [resolve_eq_ok_iff, resolve_join hname]
  constructor
  · rintro ⟨⟨hlooks, -, -, place, hleads, hnode, -, -, rfl⟩, hfile⟩
    exact ⟨place, rfl, ⟨hleads, hnode, hfile⟩, hlooks⟩
  · rintro ⟨place, rfl, hheld, hlooks⟩
    exact ⟨⟨hlooks, hlooks.no_nul, hlooks.path_fits, place, hheld.leads, hheld.node, rfl, hfits, rfl⟩,
      hheld.file⟩

theorem isFile_iff :
    d.isFile path = true ↔ ∃ content, d.find? path = some (.file content) := by
  unfold isFile
  split
  · rename_i content hfind
    exact ⟨fun _ => ⟨content, hfind⟩, fun _ => rfl⟩
  · rename_i hother
    refine ⟨fun h => absurd h Bool.false_ne_true, ?_⟩
    rintro ⟨content, hfind⟩
    exact absurd hfind (hother content)

/-- The text of a file that is found, if it may be read and is one. -/
theorem readText_of_file {target : String} (hresolve : d.resolve path = .ok target)
    (hfile : d.node? target = some (.file content)) :
    d.readText path = if d.refuses .read target then .error .denied
      else match Utf8.decode? content with
        | some text => .ok text
        | none => .error .notText := by
  have hread : d.read path = if d.refuses .read target then .error .denied else .ok content := by
    simp only [read, hresolve, bind, Except.bind, hfile]
    rfl
  simp only [readText, hread, bind, Except.bind]
  cases d.refuses .read target with
  | true => rfl
  | false =>
      simp only [Bool.false_eq_true, if_false]
      cases Utf8.decode? content <;> rfl

end Disk

namespace Configuration

variable {disk : Disk} {start directory place : String} {content : Bytes}

theorem isFileName_configFileName : IsFileName configFileName := by
  constructor <;> decide +kernel

theorem configFileName_fits : (Utf8.encode configFileName).length ≤ Disk.maxNameBytes := by
  decide +kernel

/-- What a configuration file of this content is loaded as: itself with its directory, or the fault
that there is in it.  It is at `place`, and may have to be left unread. -/
def ofFile (disk : Disk) (directory place : String) (content : Bytes) :
    Except LoadFault (Option (Configuration × String)) :=
  let path := Path.join directory configFileName
  if disk.refuses .read (place ++ "/" ++ configFileName) then .error (.unreadable path .denied)
  else match Utf8.decode? content with
    | none => .error (.unreadable path .notText)
    | some text =>
      match ofToml? text with
      | none => .error (.malformed path)
      | some c => .ok (some (c, directory))

theorem load_of_hasFile (hheld : disk.HasFile directory configFileName place content)
    (hlooks : disk.LooksUp (Path.join directory configFileName)) :
    (load disk (Path.join directory configFileName)).map (fun c => some (c, directory))
      = ofFile disk directory place content := by
  obtain ⟨hresolve, hfile⟩ := (Disk.resolve_join_file_iff isFileName_configFileName
    configFileName_fits).mpr ⟨place, rfl, hheld, hlooks⟩
  rw [load, Disk.readText_of_file hresolve hfile, ofFile]
  cases disk.refuses .read (place ++ "/" ++ configFileName) with
  | true => rfl
  | false =>
      simp only [Bool.false_eq_true, if_false]
      cases Utf8.decode? content with
      | none => rfl
      | some text =>
          dsimp only
          cases ofToml? text <;> rfl

theorem isFile_join_iff : disk.isFile (Path.join directory configFileName) = true ↔
    ∃ place content, disk.HasFile directory configFileName place content ∧
      disk.LooksUp (Path.join directory configFileName) := by
  simp only [Disk.isFile_iff, Disk.find?_eq_some_iff,
    Disk.resolve_join_file_iff isFileName_configFileName configFileName_fits]
  constructor
  · rintro ⟨content, _, place, -, hfound⟩
    exact ⟨place, content, hfound⟩
  · rintro ⟨place, content, hfound⟩
    exact ⟨content, _, place, rfl, hfound⟩

/-- A directory in which no file is found is passed over, whatever it holds. -/
theorem find_of_parent? {above : String} (h : Path.isAbsolute start = true)
    (hparent : Path.parent? start = some above)
    (hpassed : disk.isFile (Path.join start configFileName) = false) :
    find disk start = find disk above := by
  have hhome : home? disk start = home? disk above := by
    rw [home?, Path.upward_of_parent? h hparent, List.find?_cons_of_neg (by simp [hpassed])]
    rfl
  rw [find, find, hhome]

/-- If nothing is refused and the start leaves room for the name of the file, the file is looked up
in whatever the start begins with. -/
theorem looksUp_of_room (hopen : ∀ place, disk.refuses .search place = false)
    (hnul : '\x00' ∉ start.toList)
    (hroom : (Utf8.encode (start ++ "/" ++ configFileName)).length ≤ Disk.maxPathBytes)
    (hstart : directory.toList <+: start.toList) :
    disk.LooksUp (Path.join directory configFileName) := by
  have hrelative := Path.isAbsolute_of_isFileName isFileName_configFileName
  have hdirectory : (Utf8.encode directory).length ≤ (Utf8.encode start).length :=
    Utf8.length_encode_le hstart
  have hname : '\x00' ∉ configFileName.toList := by decide +kernel
  rw [Utf8.encode_append, Utf8.encode_append, List.length_append, List.length_append] at hroom
  rcases Path.join_cases hrelative directory with hjoin | hjoin
  · refine ⟨?_, ?_, fun _ _ place _ => hopen place⟩
    · rw [hjoin, String.toList_append, List.mem_append, not_or]
      exact ⟨fun hmem => hnul (hstart.subset hmem), hname⟩
    · rw [hjoin, Utf8.encode_append, List.length_append]
      omega
  · refine ⟨?_, ?_, fun _ _ place _ => hopen place⟩
    · rw [hjoin, String.toList_append, String.toList_append, List.mem_append, List.mem_append,
        not_or, not_or]
      exact ⟨⟨fun hmem => hnul (hstart.subset hmem), by decide⟩, hname⟩
    · rw [hjoin, Utf8.encode_append, Utf8.encode_append, List.length_append, List.length_append]
      omega

/-- The search from an absolute path looks at one directory for each initial part of its names, from
the path itself up to the root.  If in none of them a configuration file is held and looked up,
there is none to be found; otherwise the first in which one is decides, with what its file is loaded
as.  If nothing is refused and the start leaves room for the name of the file, the file is looked up
in all of them. -/
theorem find_nearest (disk : Disk) (h : Path.isAbsolute start = true) :
    ∃ paths, Path.Ascends start paths ∧
      paths.map Path.names = (List.range ((Path.names start).length + 1)).reverse.map
        (Path.names start).take ∧
      (((∀ directory ∈ paths, ∀ place content,
            disk.HasFile directory configFileName place content →
              ¬ disk.LooksUp (Path.join directory configFileName)) ∧
          find disk start = .ok none) ∨
        ∃ nearer directory further place content, paths = nearer ++ directory :: further ∧
          (∀ passed ∈ nearer, ∀ place content,
            disk.HasFile passed configFileName place content →
              ¬ disk.LooksUp (Path.join passed configFileName)) ∧
          disk.HasFile directory configFileName place content ∧
          disk.LooksUp (Path.join directory configFileName) ∧
          find disk start = (load disk (Path.join directory configFileName)).map
            (fun c => some (c, directory)) ∧
          find disk start = ofFile disk directory place content) ∧
      ((∀ place, disk.refuses .search place = false) → '\x00' ∉ start.toList →
        (Utf8.encode (start ++ "/" ++ configFileName)).length ≤ Disk.maxPathBytes →
        ∀ directory ∈ paths, disk.LooksUp (Path.join directory configFileName)) := by
  have hascends := Path.ascends_upward h
  have hnone : ∀ {passed : String},
      disk.isFile (Path.join passed configFileName) = false →
        ∀ place content, disk.HasFile passed configFileName place content →
          ¬ disk.LooksUp (Path.join passed configFileName) := by
    intro passed hpassed place content hheld hlooks
    rw [isFile_join_iff.mpr ⟨place, content, hheld, hlooks⟩] at hpassed
    cases hpassed
  refine ⟨Path.upward start, hascends, hascends.map_names h, ?_, ?_⟩
  · cases hhome : home? disk start with
    | none =>
        refine Or.inl ⟨?_, by rw [find, hhome]⟩
        intro directory hdirectory
        exact hnone (Bool.eq_false_iff.mpr (List.find?_eq_none.mp hhome directory hdirectory))
    | some directory =>
        obtain ⟨hfound, nearer, further, hpaths, hpassed⟩ := List.find?_eq_some_iff_append.mp hhome
        obtain ⟨place, content, hheld, hlooks⟩ := isFile_join_iff.mp hfound
        have hfind : find disk start = (load disk (Path.join directory configFileName)).map
            (fun c => some (c, directory)) := by
          rw [find, hhome]
        refine Or.inr ⟨nearer, directory, further, place, content, hpaths, ?_, hheld, hlooks, hfind,
          hfind.trans (load_of_hasFile hheld hlooks)⟩
        intro passed hmem
        exact hnone (by simpa using hpassed passed hmem)
  · intro hopen hnul hroom directory hdirectory
    exact looksUp_of_room hopen hnul hroom (hascends.start directory hdirectory)

/-- A nearer file that holds no configuration hides one further up, but not the one below it in a
directory that may not be searched is found.  It is, if nothing is refused. -/
theorem find_nearest_refused :
    let held := Utf8.encode "connector = \x7b url = 'https://c', username = 'u', password = 'p' \x7d"
    let disk : Disk :=
      { workingDirectory := "/w"
        nodes := [("/w", .directory), ("/w/a", .directory), ("/w/a/b", .directory),
          ("/w/a/b/idsprov.toml", .file held), ("/w/a/idsprov.toml", .file (Utf8.encode "connector")),
          ("/w/idsprov.toml", .file held)]
        refused := [(.search, "/w/a/b")] }
    Path.isAbsolute "/w/a/b/" = true ∧
      (∃ paths, Path.Ascends "/w/a/b/" paths ∧
        paths.map Path.names = [["w", "a", "b"], ["w", "a"], ["w"], []] ∧
        ∀ directory ∈ paths, disk.unrefused.LooksUp (Path.join directory configFileName)) ∧
      (∃ directory place content, find disk "/w/a/b/" = ofFile disk directory place content) ∧
      (find disk "/w/a/b/").isOk = false ∧ (find disk "/w").isOk = true ∧
      (find disk.unrefused "/w/a/b/").isOk = true := by
  intro held disk
  have habsolute : Path.isAbsolute "/w/a/b/" = true := by decide +kernel
  have hlist : Path.names "/w/a/b/" = ["w", "a", "b"] := by decide +kernel
  have hfailed : (find disk "/w/a/b/").isOk = false := by decide +kernel
  obtain ⟨paths, hascends, hnames, -, hlooks⟩ := find_nearest disk.unrefused habsolute
  obtain ⟨-, -, -, ⟨-, hnone⟩ | ⟨-, directory, -, place, content, -, -, -, -, -, hfind⟩, -⟩ :=
    find_nearest disk habsolute
  · rw [hnone] at hfailed
    cases hfailed
  · rw [hlist] at hnames
    refine ⟨habsolute, ⟨paths, hascends, hnames, ?_⟩, ⟨directory, place, content, hfind⟩, hfailed,
      by decide +kernel, by decide +kernel⟩
    exact hlooks (fun _ => rfl) (by decide +kernel) (by decide +kernel)

/-- So many slashes stand at the end of the start that the name of the file makes its path too long,
or the start may not be searched.  Either way the file further up is loaded, though the start holds a
configuration. -/
theorem find_passes_over_held :
    let inner := Utf8.encode "connector = \x7b url = 'https://inner', username = 'u', password = 'p' \x7d"
    let outer := Utf8.encode "connector = \x7b url = 'https://outer', username = 'u', password = 'p' \x7d"
    let disk : Disk :=
      { workingDirectory := "/w"
        nodes := [("/w", .directory), ("/w/a", .directory), ("/w/a/idsprov.toml", .file inner),
          ("/w/idsprov.toml", .file outer)] }
    let shut : Disk := { disk with refused := [(.search, "/w/a")] }
    let start := "/w/a" ++ slashes 4085
    let url : Except LoadFault (Option (Configuration × String)) → Option String := fun found =>
      found.toOption.join.map fun c => c.1.connector.url
    Path.isAbsolute start = true ∧ (Utf8.encode start).length ≤ Disk.maxPathBytes ∧
      disk.HasFile start configFileName "/w/a" inner ∧
      url (ofFile disk start "/w/a" inner) = some "https://inner" ∧
      url (find disk start) = some "https://outer" ∧
      shut.HasFile "/w/a" configFileName "/w/a" inner ∧
      url (ofFile shut "/w/a" "/w/a" inner) = some "https://inner" ∧
      url (find shut "/w/a") = some "https://outer" := by
  intro inner outer disk shut start url
  have habsolute : Path.isAbsolute start = true :=
    (Path.isAbsolute_append (by decide +kernel) _).trans (by decide +kernel)
  have hlength : (Utf8.encode start).length = 4089 := by
    rw [Utf8.encode_append, List.length_append, Utf8.length_encode_slashes]
    decide +kernel
  have hplain : disk.leadsTo "/w/a" = .ok "/w/a" := rfl
  have hleads : disk.leadsTo start = .ok "/w/a" :=
    Disk.leadsTo_slashes (by decide +kernel) hplain (by decide +kernel) _
  have hparent : Path.parent? start = some "/w" :=
    (Path.parent?_slashes (by decide +kernel) _).trans (by decide +kernel)
  have hlong : 4101 ≤ (Utf8.encode (Path.join start configFileName)).length := by
    have hname : (Utf8.encode configFileName).length = 12 := by decide +kernel
    rcases Path.join_cases (Path.isAbsolute_of_isFileName isFileName_configFileName) start with
      hjoin | hjoin
    · rw [hjoin, Utf8.encode_append, List.length_append]
      omega
    · rw [hjoin, Utf8.encode_append, Utf8.encode_append, List.length_append, List.length_append]
      omega
  have hpassed : disk.isFile (Path.join start configFileName) = false := by
    refine Bool.eq_false_iff.mpr ?_
    intro hfile
    obtain ⟨_, _, -, hlooks⟩ := isFile_join_iff.mp hfile
    exact absurd (Nat.le_trans hlong hlooks.path_fits) (by decide)
  refine ⟨habsolute, hlength ▸ by decide, ⟨hleads, by decide +kernel, by decide +kernel⟩,
    by decide +kernel, ?_, ⟨hplain, by decide +kernel, by decide +kernel⟩,
    by decide +kernel, by decide +kernel⟩
  rw [find_of_parent? habsolute hparent hpassed]
  decide +kernel

end Configuration

end Dataspace
