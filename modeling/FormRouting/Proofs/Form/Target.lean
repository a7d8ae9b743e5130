import FormRouting.Proofs.Form.Definition
import FormRouting.Proofs.Value.Submitted

/-!
# Targets of rules

The target of a rule that was read is not empty (`target_ne_empty`): it is the text of a field that
is not left blank, and only a blank field has the empty text (`Value.toText_ne_empty`). So no rule of
a form that was built from a definition (`Form.Loaded`) leads to an empty booking link, address or
message.
-/

namespace FormRouting

/-! ## Texts of values -/

theorem Date.text_ne_empty (d : Date) : d.text ≠ "" := by
  simp [text, Calendar.joined, String.intercalate_cons_cons]

theorem Moment.textWith_ne_empty (mark : String) (m : Moment) : m.textWith mark ≠ "" := by
  simp [textWith, Date.text_ne_empty]

/-- A field that is not left blank has a text that is not empty. -/
theorem Value.toText_ne_empty {v : Value} (h : v.isUnset = false) : v.toText ≠ "" := by
  cases v with
  | null => cases h
  | bool b => cases b <;> decide
  | int n =>
    rw [toText_int]
    exact toString_int_ne_empty n
  | real x => simpa [toText, literal] using x.text_ne_empty
  | text s => simpa [isUnset] using h
  | bytes bs => simp [toText, literal, Quoted.encodeBytes]
  | date d => exact d.text_ne_empty
  | moment m => exact m.textWith_ne_empty " "
  -- A collection has its brackets, which differ for a tuple of one item and for sets.
  | list items => simp [toText, literal, bracketed]
  | tuple items => rcases items with _ | ⟨item, _ | ⟨next, rest⟩⟩ <;> simp [toText, literal, bracketed]
  | set frozen items =>
    cases frozen <;> rcases items with _ | ⟨item, rest⟩ <;> simp [toText, literal, bracketed]
  | map entries => simp [toText, literal, bracketed]

/-! ## Actions and rules -/

theorem ActionKind.ofName?_eq_some_iff {s : String} {kind : ActionKind} :
    ofName? s = some kind ↔ s = kind.name := by
  constructor
  · intro h
    unfold ofName? at h
    have hname := List.find?_some h
    exact (beq_iff_eq.mp hname).symm
  · rintro rfl
    exact ofName?_name kind

/-- An action is read exactly when it is named, and its target field is the only one that is filled
and can be written. -/
theorem Action.ofRecord_eq_ok_iff {ruleId action record : Value} {a : Action} :
    ofRecord ruleId action record = .ok a ↔
      action = .text a.kind.name ∧ ∃ entries, record = .map entries ∧
        filledTargets entries = [a.kind] ∧
        (Value.field entries a.kind.targetField).readText = .ok a.target := by
  unfold ofRecord
  constructor
  · intro h
    split at h
    · cases h
    · dsimp only at h
      split at h
      · cases h
      · rename_i kind hnamed
        obtain ⟨entries, hentries, h⟩ := bind_eq_ok_iff.mp h
        have hrecord := Value.fields_eq_ok_iff.mp (mapError_eq_ok_iff.mp hentries)
        split_ifs at h with hfilled
        · obtain ⟨target, htarget, h⟩ := bind_eq_ok_iff.mp h
          obtain rfl := Except.ok.inj h
          refine ⟨?_, entries, hrecord, hfilled, mapError_eq_ok_iff.mp htarget⟩
          cases action with
          | text s => rw [ActionKind.ofName?_eq_some_iff.mp hnamed]
          | _ => cases hnamed
  · rintro ⟨rfl, entries, rfl, hfilled, htarget⟩
    simp [Value.unhashableKind?, Value.isHashable, Value.fields, Except.mapError, bind, Except.bind,
      pure, Except.pure, hfilled, htarget]

/-- The target of an action that was read is not empty. -/
theorem Action.target_ne_empty {ruleId action record : Value} {a : Action}
    (h : ofRecord ruleId action record = .ok a) : a.target ≠ "" := by
  obtain ⟨-, entries, -, hfilled, htarget⟩ := ofRecord_eq_ok_iff.mp h
  -- The target field of the action is among those that are filled, which means not left blank.
  have hmem : a.kind ∈ filledTargets entries := by
    rw [hfilled]
    exact List.mem_singleton_self _
  have hset : (Value.field entries a.kind.targetField).isUnset = false := by
    simpa using (List.mem_filter.mp hmem).2
  rw [← (Value.readText_eq_ok_iff.mp htarget).2]
  exact Value.toText_ne_empty hset

/-- A rule that was read has an action that was read from the same record. -/
theorem Rule.action_of_ofRecord {record : Value} {r : Rule} (h : ofRecord record = .ok r) :
    ∃ ruleId action, Action.ofRecord ruleId action record = .ok r.action := by
  unfold ofRecord at h
  obtain ⟨entries, -, h⟩ := bind_eq_ok_iff.mp h
  obtain ⟨id, -, h⟩ := bind_eq_ok_iff.mp h
  dsimp only at h
  split_ifs at h with hquestion
  · cases h
  · split at h
    · obtain ⟨priority, -, h⟩ := bind_eq_ok_iff.mp h
      obtain ⟨questionId, -, h⟩ := bind_eq_ok_iff.mp h
      obtain ⟨value, -, h⟩ := bind_eq_ok_iff.mp h
      obtain ⟨action, haction, h⟩ := bind_eq_ok_iff.mp h
      obtain rfl := Except.ok.inj h
      exact ⟨_, _, haction⟩
    · cases h

/-! ## Forms -/

namespace Form

/-- A form that was built from a definition, whatever was reported on the way. -/
def Loaded (form : Form) : Prop :=
  ∃ definition reports, ofDefinition definition = (reports, .ok form)

/-- No rule of a form that was built from a definition has an empty target. -/
theorem Loaded.target_ne_empty {form : Form} (h : form.Loaded) :
    ∀ r ∈ form.rules, r.action.target ≠ "" := by
  intro r hr
  obtain ⟨definition, reports, hform⟩ := h
  obtain ⟨record, hread⟩ := ofRecord_of_mem_rules hform hr
  obtain ⟨ruleId, action, haction⟩ := Rule.action_of_ofRecord hread
  exact Action.target_ne_empty haction

end Form

end FormRouting
