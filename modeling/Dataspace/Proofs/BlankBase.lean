/-
A connector whose base URL begins with a blank.

A client reads the location of a new entity without the blanks around it, so no
handle that it is given begins with a blank, and neither does the URL that a link
is posted to.  The connector looks for its base URL at the front of that URL and
does not find it.  So whatever else such a connector does, nothing is linked
there, and no offer can be provisioned whole.
-/
import Dataspace.Proofs.Answered
import Dataspace.Proofs.Excluded

namespace Dataspace

open Text

/-! ## Texts that do not begin with a blank -/

theorem startsBlank_ofList (cs : List Char) :
    startsBlank (String.ofList cs) = cs.head?.any isBlank := by
  rw [startsBlank, String.toList_ofList]

/-- The URI of a handle is read without the blanks around it. -/
theorem Handle.startsBlank_of_parse {s : String} {h : Handle} (hparse : parse s = .ok h) :
    startsBlank h.uri = false := by
  rw [(parse_ok hparse).1, startsBlank_ofList]
  exact any_head?_dropEndWhile _ _ (any_head?_trimChars s.toList)

theorem stripStart?_of_startsBlank {base url : String} (hbase : startsBlank base = true)
    (hurl : startsBlank url = false) : stripStart? base url = none := by
  refine if_neg fun hprefix => ?_
  obtain ⟨rest, hrest⟩ := List.isPrefixOf_iff_prefix.mp hprefix
  rw [startsBlank] at hbase hurl
  cases hcs : base.toList with
  | nil => simp [hcs] at hbase
  | cons c cs =>
      rw [hcs] at hbase hrest
      rw [← hrest] at hurl
      exact Bool.noConfusion (hbase.symm.trans hurl)

section Blank

variable {site : Site}

/-- A link step that is done had its link made, from a handle that an answer gave. -/
theorem Turns.linked {base : String} {policy : FailurePolicy} {slots : Nat} {q : Progress}
    {visits : List Visit} (h : Turns base policy (.start slots) visits q) {v : Visit}
    (hv : v ∈ visits) {parent child : Nat} (haction : v.step.action = .link parent child)
    (hdone : v.status = .done) :
    ∃ parentHandle childHandle answer,
      v.call = some (Client.linkRequest parentHandle childHandle, answer) ∧
      Client.linkResult parentHandle childHandle answer = .ok () ∧
      ∃ u ∈ visits, u.Gives base parent parentHandle := by
  obtain ⟨before, after, rfl⟩ := List.append_of_mem hv
  obtain ⟨m, hbefore, hafter⟩ := h.split
  cases hafter with
  | cons hturn _ =>
      cases hturn with
      | skipped _ => cases hdone
      | created _ haction' _ => cases haction'.symm.trans haction
      | uncreated _ _ _ | unlinked _ _ _ _ _ => cases hdone
      | linked _ haction' hparent _ hresult =>
          cases haction'.symm.trans haction
          obtain ⟨u, hu, hgives⟩ := hbefore.gives_of_handle? hparent
          exact ⟨_, _, _, rfl, hresult, u, List.mem_append_left _ hu, hgives⟩

end Blank

end Dataspace
