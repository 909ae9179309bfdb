/-
What a push has written, and the digest in it.

A line names a digest if the first word after its first `digest: ` begins with
`sha256:`.  A line that does not is passed over, whichever of the three steps of
reading it fails, so it hides no digest on a later line and adds none of its own: the
first line that names a digest decides.
-/
import Dataspace.Proofs.TextParts
import Dataspace.Registry.Docker

namespace Dataspace

open Text

/-! ## One line -/

/-- The line names the digest: it is the first word after the first `digest: ` of the line, and
begins with `sha256:`. -/
structure NamesDigest (line : List Char) (digest : String) : Prop where
  reported : ∃ before after, FirstOccurrence "digest: ".toList line before after ∧
    ∃ gap more, FirstWord after digest.toList gap more
  starts : "sha256:".toList <+: digest.toList

theorem lineDigest?_eq_some_iff {line : List Char} {digest : String} :
    lineDigest? line = some digest ↔ NamesDigest line digest := by
  unfold lineDigest?
  simp only [Option.bind_eq_bind, Option.bind_eq_some_iff, Prod.exists]
  constructor
  · rintro ⟨before, after, hcut, word, hword, hdigest⟩
    split at hdigest
    · rename_i hstarts
      obtain rfl := Option.some.inj hdigest
      rw [← String.toList_ofList (l := word)] at hword hstarts
      exact ⟨⟨before, after, cut?_eq_some_iff.mp hcut, head?_words_eq_some_iff.mp hword⟩,
        List.isPrefixOf_iff_prefix.mp hstarts⟩
    · cases hdigest
  · rintro ⟨⟨before, after, hcut, hword⟩, hstarts⟩
    refine ⟨before, after, cut?_eq_some_iff.mpr hcut, digest.toList,
      head?_words_eq_some_iff.mpr hword, ?_⟩
    rw [if_pos (List.isPrefixOf_iff_prefix.mpr hstarts), String.ofList_toList]

theorem lineDigest?_eq_none_iff {line : List Char} :
    lineDigest? line = none ↔ ∀ digest, ¬ NamesDigest line digest := by
  rw [Option.eq_none_iff_forall_ne_some]
  exact forall_congr' fun digest => not_congr lineDigest?_eq_some_iff

/-- A digest that is named is one word. -/
theorem NamesDigest.no_blank {line : List Char} {digest : String} (h : NamesDigest line digest) :
    ∀ c ∈ digest.toList, isBlank c = false := by
  obtain ⟨_, _, -, _, _, hword⟩ := h.reported
  exact hword.no_blank

/-! ## All that was written -/

/-- The first line that names a digest gives it. -/
theorem pushDigest?_eq_some_iff {output digest : String} :
    pushDigest? output = some digest ↔ ∃ earlier line later,
      Lined output.toList (earlier ++ line :: later) ∧ NamesDigest line digest ∧
        ∀ before ∈ earlier, ∀ other, ¬ NamesDigest before other := by
  unfold pushDigest?
  rw [List.findSome?_eq_some_iff]
  constructor
  · rintro ⟨earlier, line, later, hlines, hline, hearlier⟩
    exact ⟨earlier, line, later, lined_iff.mpr hlines, lineDigest?_eq_some_iff.mp hline,
      fun before hbefore => lineDigest?_eq_none_iff.mp (hearlier before hbefore)⟩
  · rintro ⟨earlier, line, later, hlined, hline, hearlier⟩
    exact ⟨earlier, line, later, lined_iff.mp hlined, lineDigest?_eq_some_iff.mpr hline,
      fun before hbefore => lineDigest?_eq_none_iff.mpr (hearlier before hbefore)⟩

theorem pushDigest?_eq_none_iff {output : String} :
    pushDigest? output = none ↔ ∃ ls, Lined output.toList ls ∧
      ∀ line ∈ ls, ∀ digest, ¬ NamesDigest line digest := by
  unfold pushDigest?
  rw [List.findSome?_eq_none_iff]
  constructor
  · intro hnone
    exact ⟨lines output.toList, lined_lines _,
      fun line hline => lineDigest?_eq_none_iff.mp (hnone line hline)⟩
  · rintro ⟨ls, hlined, hnone⟩ line hline
    rw [hlined.lines_eq] at hline
    exact lineDigest?_eq_none_iff.mpr (hnone line hline)

/-- Lines that name no digest may be left out, wherever they stand. -/
theorem pushDigest?_of_passed {output other : String} {earlier passed later : List (List Char)}
    (houtput : Lined output.toList (earlier ++ passed ++ later))
    (hother : Lined other.toList (earlier ++ later))
    (hpassed : ∀ line ∈ passed, ∀ digest, ¬ NamesDigest line digest) :
    pushDigest? other = pushDigest? output := by
  have hnone : passed.findSome? lineDigest? = none :=
    List.findSome?_eq_none_iff.mpr fun line hline =>
      lineDigest?_eq_none_iff.mpr (hpassed line hline)
  rw [pushDigest?, pushDigest?, houtput.lines_eq, hother.lines_eq, List.findSome?_append,
    List.findSome?_append, List.findSome?_append, hnone, Option.or_none]

/-- A push that ends with success reports what its output says. -/
theorem Docker.push_of_run {η : Type} {d : Docker} {host : ProgramHost η} {reference output : String}
    {s t : η} (h : d.run host ["push", reference] none s = (.ok output, t)) :
    (d.engine host).push reference s = (.ok (pushDigest? output), t) := by
  show (do
    let written ← d.run host ["push", reference] none
    return pushDigest? written : EngineRun η (Option String)) s = _
  simp only [bind, ExceptT.bind, ExceptT.mk, StateT.bind, h]
  rfl

/-- What a push reports for an output, whatever the output is.  It is a digest if and only if a
line of the output names it and no line before that one names any; so it has no blanks in it.  It
is nothing if and only if no line names a digest, and lines that name none can be left out anywhere
without a difference. -/
theorem push_reports_first_named (output : String) :
    (∀ {η : Type} (d : Docker) (host : ProgramHost η) (reference : String) (s t : η),
      d.run host ["push", reference] none s = (.ok output, t) →
      (d.engine host).push reference s = (.ok (pushDigest? output), t)) ∧
    (∀ digest, pushDigest? output = some digest ↔ ∃ earlier line later,
      Lined output.toList (earlier ++ line :: later) ∧ NamesDigest line digest ∧
        ∀ before ∈ earlier, ∀ other, ¬ NamesDigest before other) ∧
    (∀ digest, pushDigest? output = some digest → ∀ c ∈ digest.toList, isBlank c = false) ∧
    (pushDigest? output = none ↔ ∃ ls, Lined output.toList ls ∧
      ∀ line ∈ ls, ∀ digest, ¬ NamesDigest line digest) ∧
    ∀ (other : String) (earlier passed later : List (List Char)),
      Lined output.toList (earlier ++ passed ++ later) → Lined other.toList (earlier ++ later) →
      (∀ line ∈ passed, ∀ digest, ¬ NamesDigest line digest) →
      pushDigest? other = pushDigest? output := by
  refine ⟨?_, fun digest => pushDigest?_eq_some_iff, ?_, pushDigest?_eq_none_iff, ?_⟩
  · intro η d host reference s t hrun
    exact Docker.push_of_run hrun
  · intro digest hdigest
    obtain ⟨_, line, _, -, hnames, -⟩ := pushDigest?_eq_some_iff.mp hdigest
    exact hnames.no_blank
  · intro other earlier passed later houtput hother hpassed
    exact pushDigest?_of_passed houtput hother hpassed

/-- A digest of another form stands before the one that is reported, on a line of its own. -/
theorem push_reports_first_named_past_other_form :
    let output := "latest: digest: md5:1 size: 9\r\nlatest: digest:  sha256:84 size: 9\r\n"
    (∃ earlier line later, Lined output.toList (earlier ++ line :: later) ∧
      NamesDigest line "sha256:84" ∧ ∀ before ∈ earlier, ∀ other, ¬ NamesDigest before other) ∧
    pushDigest? "latest: digest:  sha256:84 size: 9" = pushDigest? output := by
  intro output
  obtain ⟨-, hsome, -, -, hpassed⟩ := push_reports_first_named output
  refine ⟨(hsome "sha256:84").mp (by decide +kernel), ?_⟩
  refine hpassed _ [] ["latest: digest: md5:1 size: 9".toList]
    ["latest: digest:  sha256:84 size: 9".toList] ?_ ?_ ?_
  · exact lined_iff.mpr (by decide +kernel)
  · exact lined_iff.mpr (by decide +kernel)
  · intro line hline
    obtain rfl := List.mem_singleton.mp hline
    exact lineDigest?_eq_none_iff.mp (by decide +kernel)

end Dataspace
