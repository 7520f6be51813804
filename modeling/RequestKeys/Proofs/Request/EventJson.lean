import RequestKeys.Proofs.Json.Written
import RequestKeys.Request.EventJson

/-!
# Events are read back

The JSON text of an event is one line that is read as the same event (`ofJsonText_toJsonText`),
whatever characters its fields are made of.  A query that is not there is not written, and one that
is empty is written as an empty string, so both are read back as they were.
-/

namespace RequestKeys

open Json (Node Spells SpellsMember Clear)

namespace Target

variable (t : Target)

/-- What the JSON text of a target is read as before its fields are looked at. -/
def node : Node :=
  .object ((some "path".toList, .string (some t.path)) :: match t.query with
    | some query => [(some "raw_query".toList, .string (some query))]
    | none => []) .closed

theorem spells_toJson : Spells t.toJson.write t.node := by
  refine Json.spells_object (.cons (.intro _ (Json.spells_writeString t.path)) ?_)
  cases t.query with
  | none => exact .nil
  | some query => exact .cons (.intro _ (Json.spells_writeString query)) .nil

theorem ofNode_node : ofNode t.node = .ok t := by
  obtain ⟨path, _ | query⟩ := t <;> rfl

theorem clear_toJson : Clear t.toJson.write := by
  refine Json.clear_object (List.forall_mem_cons.2 ⟨Json.clear_writeString _, ?_⟩)
  cases t.query with
  | none => exact nofun
  | some query => exact List.forall_mem_singleton.2 (Json.clear_writeString _)

end Target

namespace Event

variable (e : Event)

/-- What the JSON text of an event is read as before its fields are looked at. -/
def node : Node :=
  .object [(some "method".toList, .string (some e.method)), (some "url".toList, e.target.node),
    (some "event_key".toList, .string (some e.key))] .closed

theorem spells_toJsonText : Spells e.toJsonText e.node :=
  Json.spells_object <|
    .cons (.intro _ (Json.spells_writeString e.method)) <|
    .cons (.intro _ e.target.spells_toJson) <|
    .cons (.intro _ (Json.spells_writeString e.key)) .nil

theorem ofNode_node : ofNode e.node = .ok e := by
  simp [ofNode, node, Json.foldMembers, Draft.step, Json.readField, Json.Node.text,
    Json.Ending.read, Json.required, e.target.ofNode_node, Except.map, bind, Except.bind]

/-- An event is read back from its text. -/
theorem ofJsonText_toJsonText : ofJsonText e.toJsonText = .ok e := by
  rw [ofJsonText, Json.decode_of_spells e.spells_toJsonText, ofNode_node]

theorem toJsonText_inj {d e : Event} (h : d.toJsonText = e.toJsonText) : d = e := by
  have same := congrArg ofJsonText h
  rw [ofJsonText_toJsonText, ofJsonText_toJsonText] at same
  exact Except.ok.inj same

theorem clear_toJsonText : Clear e.toJsonText := by
  refine Json.clear_object ?_
  simp only [List.forall_mem_cons]
  exact ⟨Json.clear_writeString _, e.target.clear_toJson, Json.clear_writeString _, nofun⟩

end Event

end RequestKeys
