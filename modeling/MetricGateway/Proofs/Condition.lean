import MetricGateway.Condition
import MetricGateway.Proofs.Json.Record
import MetricGateway.Proofs.Text.Members

/-!
# Conditions and their texts

A condition is read from the text that is printed for it, unless its value is a number: such a value
keeps the text that it was given as, and a text such as `1e2` is printed as another number.
-/

namespace MetricGateway

namespace Condition

open Json

namespace Value

/-- Quoted texts are equal only if the texts are. -/
theorem quote_inj {s t : String} : quote s = quote t ↔ s = t := by
  unfold quote
  rw [String.append_left_inj, String.append_right_inj]

/-- A kind is read from its text with what is read from the text of its value. -/
theorem reads_kind {depth : Nat} (kind : String) {printed value : Json}
    (hvalue : Reads readValue depth printed.render value) :
    Reads record.read (depth + 1)
      (Json.object [("value", printed), ("_type", .string kind)]).render (kind, value) := by
  have hkind : Reads readString depth (Json.string kind).render kind :=
    (reads_string kind).mono (Nat.zero_le depth)
  exact Record.reads_object _ (.cons rfl rfl (hvalue.fill _ _ _ _ _)
    (.cons rfl rfl (hkind.fill _ _ _ _ _) (.nil _))) rfl

/-- A kind is read from its text with a text. -/
theorem reads_kind_string (kind s : String) :
    Reads record.read 1 (Json.object [("value", .string s), ("_type", .string kind)]).render
      (kind, .string s) :=
  reads_kind kind (reads_value fun _ => .string s)

/-- A value that is no number is read from its text. -/
theorem reads_toJson {value : Value} (h : ∀ numeral, value ≠ .double numeral) :
    Reads read 2 value.toJson.render value := by
  cases value with
  | text s =>
    exact ((reads_kind_string textKind s).mono (Nat.le_succ 1)).refined rfl
  | boolean b =>
    have hvalue : Reads readValue 0 (Json.boolean b).render (.boolean b) :=
      reads_value fun _ => .boolean b
    exact ((reads_kind booleanKind hvalue).mono (Nat.le_succ 1)).refined rfl
  | double numeral => exact absurd rfl (h numeral)
  | inSet members =>
    have hplain (more : Nat) : IsPlain (1 + more) (.array (members.toList.map .string)) := by
      rw [Nat.add_comm]
      refine .array fun item hitem => ?_
      obtain ⟨s, -, rfl⟩ := List.mem_map.1 hitem
      exact .string s
    have htexts : (members.toList.map Json.string).map Json.plainText = members.toList := by
      rw [List.map_map]
      exact List.map_id _
    refine (reads_kind inSetKind (reads_value hplain)).refined ?_
    change Except.ok (ofTexts ((members.toList.map Json.string).map Json.plainText)) = _
    rw [htexts, ofTexts, Text.Members.ofList_toList]

end Value

/-- A condition whose value is no number is read from its text. -/
theorem reads_toJson {condition : Condition} (h : ∀ numeral, condition.value ≠ .double numeral) :
    Reads read 3 condition.toJson.render condition := by
  obtain ⟨key, value, kind⟩ := condition
  have hkey : Reads readString 2 (Json.string key).render key :=
    (reads_string key).mono (Nat.zero_le 2)
  have hvalue : Reads Value.read 2 value.toJson.render value := Value.reads_toJson h
  cases kind with
  | none =>
    exact Record.reads_object _ (.cons rfl rfl (hkey.fill _ _ _ _ _)
      (.cons rfl rfl (hvalue.fill _ _ _ _ _) (.nil _))) rfl
  | some kind =>
    have hkind : Reads (readOptional readString) 2 (Json.string kind).render (some kind) :=
      (reads_text? (some kind)).mono (Nat.zero_le 2)
    exact Record.reads_object _ (.cons rfl rfl (hkey.fill _ _ _ _ _)
      (.cons rfl rfl (hvalue.fill _ _ _ _ _) (.cons rfl rfl (hkind.fill _ _ _ _ _) (.nil _)))) rfl

end Condition

end MetricGateway
