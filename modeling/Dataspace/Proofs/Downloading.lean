/-
What a download does to the disk.

The id of a handle has no slash in it, so the name of the file for an artifact's data
is one step down from the directory, and never one of the names that lead elsewhere.
Nothing is written unless the one request that is sent is answered with a success, and
then only that file.
-/
import Dataspace.Exchange.Artifact
import Dataspace.Proofs.Calls
import Dataspace.Proofs.Creating
import Dataspace.Proofs.Disks

namespace Dataspace

open Text

/-! ## The name of the file -/

theorem Handle.parse_of_parseAs {kind : EntityKind} {text : String} {h : Handle}
    (hparse : parseAs kind text = .ok h) : parse text = .ok h ∧ h.kind = kind := by
  obtain ⟨found, hfound, hkind⟩ := bind_eq_ok_iff.mp hparse
  unfold ofKind at hkind
  split at hkind
  · rename_i hsame
    cases hkind
    exact ⟨hfound, hsame⟩
  · cases hkind

/-- The name that the data of an artifact gets has no slash in it, and has more than its ending. -/
theorem isFileName_dataFileName {text : String} {artifact : Handle}
    (hparse : Handle.parse text = .ok artifact) : IsFileName (dataFileName artifact) := by
  obtain ⟨-, front, hspelled⟩ := Handle.parse_eq_ok_iff.mp hparse
  have hlength : 6 ≤ (dataFileName artifact).toList.length := by
    have hid : artifact.id.toList ≠ [] := fun hnil => hspelled.id_ne (String.toList_eq_nil_iff.mp hnil)
    have hpos := List.length_pos_iff.mpr hid
    simp only [dataFileName, String.toList_append, List.length_append]
    have hending : ".json".toList.length = 5 := by decide
    omega
  have hother : ∀ other : String, other.toList.length < 6 → dataFileName artifact ≠ other := by
    intro other hshort hsame
    rw [hsame] at hlength
    omega
  refine ⟨?_, hother "" (by decide), hother "." (by decide), hother ".." (by decide)⟩
  simp [dataFileName, hspelled.no_slash]

/-! ## The request and what follows it -/

/-- The request for the data of an artifact. -/
def dataRequest (artifact : Handle) : Request :=
  .get (artifact.uri ++ "/data")

section Download

variable {σ : Type} {c : Client σ} {artifact : Handle} {directory : String} {s next : σ} {disk : Disk}
  {answer : Except Outage Response}

theorem downloadData_of_error {e : ConnectorError}
    (hsend : c.transport.send (dataRequest artifact) s = (answer, next))
    (haccept : Client.accept (dataRequest artifact) answer = .error e) :
    c.logging.downloadData artifact directory ((s, []), disk)
      = (.error e, (next, [(dataRequest artifact, answer)]), disk) := by
  have hget : c.logging.get (artifact.uri ++ "/data") (s, [])
      = (.error e, next, [(dataRequest artifact, answer)]) :=
    (Client.execute_eq (Client.logging_send hsend [])).trans (congrArg (·, _) haccept)
  simp only [Client.downloadData, hget]

theorem downloadData_of_ok {response : Response}
    (hsend : c.transport.send (dataRequest artifact) s = (answer, next))
    (haccept : Client.accept (dataRequest artifact) answer = .ok response) (directory : String)
    (disk : Disk) :
    c.logging.downloadData artifact directory ((s, []), disk)
      = ((storeData artifact directory response.body disk).1,
        (next, [(dataRequest artifact, answer)]),
        (storeData artifact directory response.body disk).2) := by
  have hget : c.logging.get (artifact.uri ++ "/data") (s, [])
      = (.ok response, next, [(dataRequest artifact, answer)]) :=
    (Client.execute_eq (Client.logging_send hsend [])).trans (congrArg (·, _) haccept)
  simp only [Client.downloadData, hget]

theorem storeData_eq (artifact : Handle) (directory : String) (data : Bytes) (disk : Disk) :
    storeData artifact directory data disk
      = match disk.write (Path.join directory (dataFileName artifact)) data with
        | .ok disk => (.ok ⟨Path.join directory (dataFileName artifact), data.length, .of data⟩, disk)
        | .error fault =>
          (.error (.write (Path.join directory (dataFileName artifact)) fault), disk) := by
  delta storeData
  rfl

/-- Data is stored where there is room for its file; otherwise the disk is left as it is. -/
theorem storeData_cases (hname : IsFileName (dataFileName artifact)) (directory : String)
    (data : Bytes) (disk : Disk) :
    (∃ place, disk.HasRoom directory (dataFileName artifact) place ∧
      storeData artifact directory data disk
        = (.ok ⟨Path.join directory (dataFileName artifact), data.length, .of data⟩,
          disk.withFile (place ++ "/" ++ dataFileName artifact) data)) ∨
    ((¬ ∃ place, disk.HasRoom directory (dataFileName artifact) place) ∧
      ∃ fault, storeData artifact directory data disk
        = (.error (.write (Path.join directory (dataFileName artifact)) fault), disk)) := by
  cases hwrite : disk.write (Path.join directory (dataFileName artifact)) data with
  | ok disk' =>
      obtain ⟨place, hroom, rfl⟩ := (Disk.write_join_eq_ok_iff hname).mp hwrite
      refine Or.inl ⟨place, hroom, ?_⟩
      rw [storeData_eq, hwrite]
  | error fault =>
      refine Or.inr ⟨?_, fault, ?_⟩
      · rintro ⟨place, hroom⟩
        have hstored : disk.write (Path.join directory (dataFileName artifact)) data
            = .ok (disk.withFile (place ++ "/" ++ dataFileName artifact) data) :=
          (Disk.write_join_eq_ok_iff hname).mpr ⟨place, hroom, rfl⟩
        cases hwrite.symm.trans hstored
      · rw [storeData_eq, hwrite]

/-- Storing data writes the one file for it, or nothing. -/
theorem storeData_effect (hname : IsFileName (dataFileName artifact)) (directory : String)
    (data : Bytes) (disk : Disk) :
    let stored := storeData artifact directory data disk
    (stored.1.isOk = true ↔ ∃ place, disk.HasRoom directory (dataFileName artifact) place) ∧
    (∀ e, stored.1 = .error e → stored.2 = disk) ∧
    ∀ download, stored.1 = .ok download → ∃ place, disk.leadsTo directory = .ok place ∧
      download = ⟨Path.join directory (dataFileName artifact), data.length, .of data⟩ ∧
      stored.2 = disk.withFile (place ++ "/" ++ dataFileName artifact) data ∧
      stored.2.find? (Path.join directory (dataFileName artifact)) = some (.file data) ∧
      ∀ path, disk.resolve path ≠ .ok (place ++ "/" ++ dataFileName artifact) →
        stored.2.find? path = disk.find? path := by
  intro stored
  rcases storeData_cases hname directory data disk with
    ⟨place, hroom, hstored⟩ | ⟨hnone, fault, hrefused⟩
  · have htarget : place ++ "/" ++ dataFileName artifact ≠ "" := by
      simp
    have hpath : disk.resolve (Path.join directory (dataFileName artifact))
        = .ok (place ++ "/" ++ dataFileName artifact) :=
      (Disk.resolve_join hname).mpr ⟨hroom.no_nul, hroom.path_fits, place, hroom.leads,
        hroom.node, hroom.searchable, hroom.name_fits, rfl⟩
    have hpair : stored = _ := hstored
    rw [hpair]
    refine ⟨iff_of_true rfl ⟨place, hroom⟩, (fun _ h => nomatch h), ?_⟩
    intro download hdownload
    refine ⟨place, hroom.leads, (Except.ok.inj hdownload).symm, rfl,
      Disk.find?_withFile _ htarget hroom.free hpath, ?_⟩
    intro path hother
    exact Disk.find?_withFile_of_ne _ htarget hroom.free hother
  · have hpair : stored = _ := hrefused
    rw [hpair]
    exact ⟨iff_of_false Bool.false_ne_true hnone, fun _ _ => rfl, fun _ h => nomatch h⟩

end Download

/-- A download sends one request, for the data of the artifact, and stores what it is answered with
in one file, inside the directory and named by the artifact's id.  It succeeds if and only if the
answer is a success and there is room for the file.  Then the file holds the body as it came, its
size and its SHA-256 digest are reported, and whatever other paths lead to is unchanged; if it
fails, the disk is unchanged. -/
theorem download_effect {σ : Type} (c : Client σ) {text : String} {artifact : Handle}
    (hparse : Handle.parseAs .artifact text = .ok artifact) (directory : String) (s : σ)
    (disk : Disk) :
    let url := artifact.uri ++ "/data"
    let name := artifact.id ++ ".json"
    ∃ answer next result disk',
      c.transport.send (.get url) s = (answer, next) ∧
      c.logging.downloadData artifact directory ((s, []), disk)
        = (result, (next, [(.get url, answer)]), disk') ∧
      ('/' ∉ name.toList ∧ name ≠ "." ∧ name ≠ "..") ∧
      (result.isOk = true ↔ ∃ response place, answer = .ok response ∧
        (200 ≤ response.status ∧ response.status < 300) ∧ disk.HasRoom directory name place) ∧
      (∀ e, result = .error e → disk' = disk) ∧
      ∀ download, result = .ok download → ∃ response place,
        answer = .ok response ∧ disk.leadsTo directory = .ok place ∧
        download = ⟨Path.join directory name, response.body.length, ⟨Sha256.hex response.body⟩⟩ ∧
        disk' = disk.withFile (place ++ "/" ++ name) response.body ∧
        disk'.find? (Path.join directory name) = some (.file response.body) ∧
        ∀ path, disk.resolve path ≠ .ok (place ++ "/" ++ name) →
          disk'.find? path = disk.find? path := by
  intro url name
  have hname : IsFileName name := isFileName_dataFileName (Handle.parse_of_parseAs hparse).1
  rcases hsend : c.transport.send (.get url) s with ⟨answer, next⟩
  have hdots : '/' ∉ name.toList ∧ name ≠ "." ∧ name ≠ ".." :=
    ⟨hname.no_slash, hname.ne_dot, hname.ne_dots⟩
  have hsuccess : ∀ response, answer = .ok response →
      (200 ≤ response.status ∧ response.status < 300) →
      Client.accept (dataRequest artifact) answer = .ok response := fun response hanswer hstatus =>
    Client.accept_eq_ok_iff.mpr ⟨hanswer, Response.isSuccess_iff.mpr hstatus⟩
  cases haccept : Client.accept (dataRequest artifact) answer with
  | error e =>
      refine ⟨answer, next, _, _, rfl, downloadData_of_error hsend haccept, hdots, ?_,
        fun _ _ => rfl, fun _ h => nomatch h⟩
      refine iff_of_false Bool.false_ne_true ?_
      rintro ⟨response, place, hanswer, hstatus, -⟩
      cases haccept.symm.trans (hsuccess response hanswer hstatus)
  | ok response =>
      obtain ⟨hanswer, hstatus⟩ := Client.accept_eq_ok_iff.mp haccept
      obtain ⟨hok, herror, hstored⟩ := storeData_effect hname directory response.body disk
      refine ⟨answer, next, _, _, rfl, downloadData_of_ok hsend haccept directory disk, hdots,
        hok.trans ?_, herror, ?_⟩
      · constructor
        · rintro ⟨place, hroom⟩
          exact ⟨response, place, hanswer, Response.isSuccess_iff.mp hstatus, hroom⟩
        · rintro ⟨-, place, -, -, hroom⟩
          exact ⟨place, hroom⟩
      · intro download hdownload
        obtain ⟨place, hwritten⟩ := hstored download hdownload
        exact ⟨response, place, hanswer, hwritten⟩

/-- Bytes that are no text, over a file that is there. -/
theorem download_effect_of_bytes :
    let artifact : Handle := ⟨"https://c/api/artifacts/..", .artifact, ".."⟩
    let client := Client.connect "https://c" Transport.scripted
    let disk := ((Disk.empty "/w").makeDirectory "/w/out").withFile "/w/out/...json" [1]
    let run := client.logging.downloadData artifact "out" (([.ok ⟨200, none, [0xFF, 0x00]⟩], []), disk)
    Handle.parseAs .artifact "https://c/api/artifacts/../ " = .ok artifact ∧
      (∃ download, run.1 = .ok download ∧ download.path = "out/...json" ∧ download.size = 2 ∧
        download.digest.hex
          = "ea5dbf9596d187e9500f23e9a680109475341cf4e81f7e043f7d97152c10772f") ∧
      run.2.2.find? "out/...json" = some (.file [0xFF, 0x00]) := by
  have hpath : Path.join "out" (".." ++ ".json") = "out/...json" := rfl
  intro artifact client disk run
  have hparse : Handle.parseAs .artifact "https://c/api/artifacts/../ " = .ok artifact := rfl
  have hleads : disk.leadsTo "out" = .ok "/w/out" := by
    have hplace : (disk.leadsTo "out").toOption = some "/w/out" := by decide +kernel
    cases hfollowed : disk.leadsTo "out" with
    | error fault => simp [hfollowed, Except.toOption] at hplace
    | ok place => simpa [hfollowed, Except.toOption] using hplace
  have hroom : disk.HasRoom "out" (artifact.id ++ ".json") "/w/out" :=
    { leads := hleads
      node := by decide +kernel
      searchable := rfl
      free := by decide +kernel
      writable := rfl
      no_nul := by decide +kernel
      path_fits := by decide +kernel
      name_fits := by decide +kernel }
  obtain ⟨answer, next, result, disk', hsend, hrun, -, hok, -, hstored⟩ :=
    download_effect client hparse "out" [.ok ⟨200, none, [0xFF, 0x00]⟩] disk
  obtain ⟨rfl, rfl⟩ : answer = .ok ⟨200, none, [0xFF, 0x00]⟩ ∧ next = [] :=
    ⟨(congrArg Prod.fst hsend).symm, (congrArg Prod.snd hsend).symm⟩
  have hdone : result.isOk = true := hok.mpr ⟨_, _, rfl, by decide, hroom⟩
  have hrun' : run = _ := hrun
  rw [hrun']
  cases result with
  | error e => cases hdone
  | ok download =>
      obtain ⟨response, place, hanswer, -, rfl, -, hfound, -⟩ := hstored download rfl
      obtain rfl := Except.ok.inj hanswer
      rw [hpath] at hfound ⊢
      exact ⟨hparse, ⟨_, rfl, rfl, rfl, by decide +kernel⟩, hfound⟩

end Dataspace
