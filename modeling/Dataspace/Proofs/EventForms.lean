/-
The form of registry events.

An event is a record of records: it is written field by field and read by asking for the
same fields, so it is read back whole, from the value as well as from its text.  The only
fields that are not written and read as they are are the two times, which have to fit the
64-bit clock they are read for.
-/
import Dataspace.Proofs.Notifying
import Dataspace.Proofs.PayloadForms

namespace Dataspace

open Json

/-- The text of a number of seconds that fits a word of 64 bits is read. -/
theorem inRange_of_inWord {n : Int} (h : Time.InWord n) : JsonNumber.InRange (.int n) :=
  ⟨h.1, Int.lt_of_le_of_lt h.2 (by decide)⟩

theorem EventType.ofJson?_name (t : EventType) : ofJson? (.str t.name) = some t := by
  cases t <;> decide +kernel

namespace EventResource

def values (r : EventResource) : List (Option Json) :=
  [some (.str r.digest), some (.str r.tag), some (.str r.resourceUrl)]

theorem listed : Listed memberNames values toJson ofJson? id where
  written _ := rfl
  reads r := by
    have hwritten : r.toJson = .object (present memberNames r.values) := rfl
    rw [hwritten, ofJson?, fields?_present (by decide) rfl]
    rfl
  members r := by
    simp only [values, List.forall_mem_cons]
    exact ⟨.str _, .str _, .str _, List.forall_mem_nil _⟩
  stable _ := rfl

end EventResource

namespace EventRepository

def values (r : EventRepository) : List (Option Json) :=
  [some (.int r.dateCreated), some (.str r.name), some (.str r.nameSpace), some (.str r.fullName),
   some (.str r.visibility)]

variable {r : EventRepository}

theorem reads (h : Time.InWord r.dateCreated) : ofJson? r.toJson = some r := by
  have hwritten : r.toJson = .object (present memberNames r.values) := rfl
  rw [hwritten, ofJson?, fields?_present (by decide) rfl]
  simp only [values, Option.bind_eq_bind, Option.bind_some, required,
    RegistryEvent.asInt64?_seconds h]
  rfl

theorem textual (h : Time.InWord r.dateCreated) : Textual 1 r.toJson := by
  have hwritten : r.toJson = .object (present memberNames r.values) := rfl
  rw [hwritten]
  refine .present ?_
  simp only [values, List.mem_cons, Option.some.injEq, List.not_mem_nil, or_false]
  rintro v (rfl | rfl | rfl | rfl | rfl)
  · exact .int (inRange_of_inWord h)
  all_goals exact .str _

end EventRepository

namespace RegistryEvent

variable {e : RegistryEvent}

theorem reads_data (h : Time.InWord e.repository.dateCreated) :
    dataOfJson? e.dataJson = some (e.resources, e.repository) := by
  have hwritten : e.dataJson = .object (present dataNames
      [some (.arr (e.resources.map EventResource.toJson)), some e.repository.toJson]) := rfl
  rw [hwritten, dataOfJson?, fields?_present (by decide) rfl]
  simp only [Option.bind_eq_bind, Option.bind_some, required, listOf_map EventResource.listed.reads,
    EventRepository.reads h, List.map_id]
  rfl

/-- The value that is written for an event is read as that event. -/
theorem reads (h : Time.InWord e.occurAt) (hrepository : Time.InWord e.repository.dateCreated) : ofJson? e.toJson = some e := by
  have hwritten : e.toJson = .object (present memberNames
      [some (.str e.eventType.name), some (.int e.occurAt), some (.str e.operator),
       some e.dataJson]) := rfl
  rw [hwritten, ofJson?, fields?_present (by decide) rfl]
  simp only [Option.bind_eq_bind, Option.bind_some, required, EventType.ofJson?_name,
    asInt64?_seconds h, reads_data hrepository]
  rfl

theorem textual (h : Time.InWord e.occurAt) (hrepository : Time.InWord e.repository.dateCreated) : Textual 5 e.toJson := by
  have hresources : Textual 3 (.arr (e.resources.map EventResource.toJson)) := by
    refine .arr ?_
    intro v hv
    obtain ⟨r, -, rfl⟩ := List.mem_map.mp hv
    exact EventResource.listed.textual r
  have hdata : Textual 4 e.dataJson := by
    refine .object ?_
    simp only [List.mem_cons, List.not_mem_nil, or_false]
    rintro p (rfl | rfl)
    · exact hresources
    · exact (EventRepository.textual hrepository).mono (by decide)
  refine .object ?_
  simp only [List.mem_cons, List.not_mem_nil, or_false]
  rintro p (rfl | rfl | rfl | rfl)
  · exact .str _
  · exact .int (inRange_of_inWord h)
  · exact .str _
  · exact hdata

/-- So is its text. -/
theorem reads_text (h : Time.InWord e.occurAt) (hrepository : Time.InWord e.repository.dateCreated) :
    (Json.parse? e.toJson.compact).bind ofJson? = some e := by
  rw [((textual h hrepository).mono (by decide)).parse?, Option.bind_some, reads h hrepository]

end RegistryEvent

end Dataspace
