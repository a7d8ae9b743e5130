import FormRouting.Proofs.Form.Target
import FormRouting.Proofs.Value.Writable

/-!
# Reading rule records

A record is read as a rule by one check after the other. The checks that every later one rests on
are `Rule.Opens` and, up to the action, `Rule.Proceeds`. `Rule.Fails` lists the checks that refuse a
record, and `Rule.Ending` lists how reading a record ends; `Rule.ofRecord_ending` says that there is
no other end.

Some of the ends are no refusals: an infinite number in the place of the id or of the priority, a
value that cannot be a key in the place of the action, and whatever is to be written and cannot be,
be it a text of the rule or the message of a refusal. `Rule.Astray` describes the records that lead
there, and `Rule.ofRecord_eq_unreadable_iff` says that no others do.
-/

namespace FormRouting

/-! ## Conversions -/

namespace Value

/-- The values that cannot be keys: what can change, and a tuple that holds such a value. -/
inductive Keyless : Value → Prop where
  | list (items : List Value) : Keyless (.list items)
  | set (items : List Value) : Keyless (.set false items)
  | map (entries : List (Value × Value)) : Keyless (.map entries)
  | tuple {items : List Value} {v : Value} (hmem : v ∈ items) (h : Keyless v) :
      Keyless (.tuple items)

/-- But for tuples, the kind of a value says whether it can be a key. -/
theorem keyless_iff_of_ne_tuple {v : Value} (h : ∀ items, v ≠ .tuple items) :
    v.Keyless ↔ v.isHashable = false := by
  constructor
  · intro hkeyless
    cases hkeyless with
    | tuple hmem hitem => exact absurd rfl (h _)
    | _ => rfl
  · intro hkind
    cases v with
    | list items => exact .list items
    | map entries => exact .map entries
    | tuple items => exact absurd rfl (h items)
    | set frozen items =>
      cases frozen with
      | false => exact .set items
      | true => cases hkind
    | _ => cases hkind

theorem keyless_tuple_iff {items : List Value} :
    (Value.tuple items).Keyless ↔ ∃ v ∈ items, v.Keyless := by
  constructor
  · intro h
    cases h with
    | tuple hmem hitem => exact ⟨_, hmem, hitem⟩
  · rintro ⟨v, hmem, hitem⟩
    exact .tuple hmem hitem

mutual

/-- There is a kind to report exactly when the value cannot be a key. -/
theorem isSome_unhashableKind?_iff (v : Value) : v.unhashableKind?.isSome ↔ v.Keyless := by
  cases v with
  | tuple items =>
    rw [unhashableKind?, keyless_tuple_iff]
    exact isSome_unhashableAmong?_iff items
  | set frozen items =>
    rw [keyless_iff_of_ne_tuple (by simp)]
    cases frozen <;> simp [unhashableKind?, isHashable]
  | _ =>
    rw [keyless_iff_of_ne_tuple (by simp)]
    simp [unhashableKind?, isHashable]

theorem isSome_unhashableAmong?_iff (items : List Value) :
    (unhashableAmong? items).isSome ↔ ∃ v ∈ items, v.Keyless := by
  cases items with
  | nil => simp [unhashableAmong?]
  | cons v rest =>
    rw [unhashableAmong?, List.exists_mem_cons_iff, ← isSome_unhashableKind?_iff v,
      ← isSome_unhashableAmong?_iff rest]
    cases v.unhashableKind? <;> simp

end

/-- The infinite numbers, which stand for no integer in a way that reading does not foresee. -/
def IsInfinite (v : Value) : Prop :=
  ∃ negative, v = .real (.infinite negative)

theorem toInteger_eq_infinite_iff {v : Value} : v.toInteger = .error .infinite ↔ v.IsInfinite := by
  constructor
  · intro h
    -- A text or bytes may spell no integer, but not because they are infinite.
    have htext : ∀ source s, integerOfText source s ≠ .error .infinite := by
      intro source s
      unfold integerOfText
      split <;> simp
    cases v with
    | real x =>
      cases x with
      | infinite negative => exact ⟨negative, rfl⟩
      | nan => cases h
      | finite negative rank => cases h
    | text s => exact absurd h (htext _ _)
    | bytes bs => exact absurd h (htext _ _)
    | _ => cases h
  · rintro ⟨negative, rfl⟩
    rfl

/-- Only what counts as true can be infinite. -/
theorem isInfinite_orElse_int {v : Value} {n : ℤ} :
    (v.orElse (.int n)).IsInfinite ↔ v.IsInfinite := by
  unfold orElse
  split_ifs with htruthy
  · exact Iff.rfl
  · constructor
    · rintro ⟨negative, h⟩
      cases h
    · rintro ⟨negative, rfl⟩
      exact absurd rfl htruthy

end Value

theorem Operator.ofValue?_eq_some_iff {v : Value} {operator : Operator} :
    ofValue? v = some operator ↔ v = .text operator.name := by
  constructor
  · intro h
    cases v with
    | text s =>
      have hname := List.find?_some h
      rw [beq_iff_eq.mp hname]
    | _ => cases h
  · rintro rfl
    exact ofName?_name operator

/-! ## Refusals -/

/-- A record is refused when the message of the refusal can be written, and otherwise that fails. -/
theorem RuleError.refuse_cases (ruleId : Value) (defect : RuleDefect) :
    ((ruleId.isWritable = true ∧ defect.isWritable = true) ∧
        refuse ruleId defect = .refused ruleId defect) ∨
      (¬(ruleId.isWritable = true ∧ defect.isWritable = true) ∧
        refuse ruleId defect = .unreadable .unwritable) := by
  unfold refuse
  rw [← Bool.and_eq_true]
  split_ifs with h
  · exact .inl ⟨h, rfl⟩
  · exact .inr ⟨h, rfl⟩

/-! ## Actions -/

/-- Reading an action has four ends: the value in its place cannot be a key, or it names no action,
or the target fields that are filled are not just its own, or its target is read. -/
theorem Action.ofRecord_cases (ruleId action : Value) (entries : List (Value × Value)) :
    (∃ kind, action.unhashableKind? = some kind ∧
        ofRecord ruleId action (.map entries) = .error (.unreadable (.unhashable kind))) ∨
      (¬action.Keyless ∧ (∀ kind : ActionKind, action ≠ .text kind.name) ∧
        ofRecord ruleId action (.map entries) = .error (.refuse ruleId (.unknownAction action))) ∨
      ∃ kind : ActionKind, action = .text kind.name ∧
        ((filledTargets entries ≠ [kind] ∧ ofRecord ruleId action (.map entries) =
            .error (.refuse ruleId (.wrongTargets kind (filledTargets entries)))) ∨
          (filledTargets entries = [kind] ∧ ofRecord ruleId action (.map entries) =
            ((Value.field entries kind.targetField).readText.mapError .unreadable).map
              (⟨kind, ·⟩))) := by
  cases hkind : action.unhashableKind? with
  | some kind =>
    refine .inl ⟨kind, rfl, ?_⟩
    unfold ofRecord
    rw [hkind]
  | none =>
    -- What can be a key is looked up among the names, where only a text is found.
    have hkeyed : ¬action.Keyless := by
      rw [← Value.isSome_unhashableKind?_iff, hkind]
      exact Bool.false_ne_true
    refine .inr ?_
    by_cases hnamed : ∃ kind : ActionKind, action = .text kind.name
    · obtain ⟨kind, rfl⟩ := hnamed
      refine .inr ⟨kind, rfl, ?_⟩
      unfold ofRecord
      rw [hkind]
      dsimp only
      rw [ActionKind.ofName?_name]
      by_cases hfilled : filledTargets entries = [kind]
      · refine .inr ⟨hfilled, ?_⟩
        simp only [Value.fields, Except.mapError, bind, Except.bind, hfilled, if_true]
        cases (Value.field entries kind.targetField).readText <;> rfl
      · refine .inl ⟨hfilled, ?_⟩
        simp [Value.fields, Except.mapError, bind, Except.bind, throw, throwThe,
          MonadExceptOf.throw, hfilled]
    · rw [not_exists] at hnamed
      refine .inl ⟨hkeyed, hnamed, ?_⟩
      unfold ofRecord
      rw [hkind]
      cases action with
      | text s =>
        dsimp only
        cases hname : ActionKind.ofName? s with
        | none => rfl
        | some kind =>
          rw [ActionKind.ofName?_eq_some_iff.mp hname] at hnamed
          exact absurd rfl (hnamed kind)
      | _ => rfl

/-! ## Rules -/

namespace Rule

/-- An integer field is read when its value stands for an integer. -/
theorem integerField_of_toInteger {ruleId : Value} {defect : RuleDefect} {v : Value} {n : ℤ}
    (h : v.toInteger = .ok n) : integerField ruleId defect v = .ok n := by
  unfold integerField
  rw [h]

/-- An infinite number is no defect of an integer field. -/
theorem integerField_of_isInfinite {ruleId : Value} {defect : RuleDefect} {v : Value}
    (h : v.IsInfinite) :
    integerField ruleId defect v = .error (.unreadable (.integer .infinite)) := by
  unfold integerField
  rw [Value.toInteger_eq_infinite_iff.mpr h]

/-- Any other value that stands for no integer is the defect. -/
theorem integerField_of_none {ruleId : Value} {defect : RuleDefect} {v : Value}
    (h : ∀ n, v.toInteger ≠ .ok n) (hfinite : ¬v.IsInfinite) :
    integerField ruleId defect v = .error (.refuse ruleId defect) := by
  unfold integerField
  rw [← Value.toInteger_eq_infinite_iff] at hfinite
  cases hread : v.toInteger with
  | ok n => exact absurd hread (h n)
  | error e =>
    rw [hread] at hfinite
    cases e with
    | infinite => exact absurd rfl hfinite
    | _ => rfl

/-- A value stands for an integer, or is infinite, or neither. -/
theorem integer_cases (v : Value) :
    (∃ n, v.toInteger = .ok n) ∨ v.IsInfinite ∨ (∀ n, v.toInteger ≠ .ok n) ∧ ¬v.IsInfinite := by
  by_cases hread : ∃ n, v.toInteger = .ok n
  · exact .inl hread
  · by_cases hinfinite : v.IsInfinite
    · exact .inr (.inl hinfinite)
    · exact .inr (.inr ⟨not_exists.mp hread, hinfinite⟩)

/-- The value that is read as the priority: zero in place of what does not count as true. -/
def priorityOf (entries : List (Value × Value)) : Value :=
  (Value.field entries "priority").orElse (.int 0)

theorem isInfinite_priorityOf {entries : List (Value × Value)} :
    (priorityOf entries).IsInfinite ↔ (Value.field entries "priority").IsInfinite :=
  Value.isInfinite_orElse_int

/-- The value that answers are compared with, before it is read. -/
def valueOf (entries : List (Value × Value)) : Value :=
  Value.fieldOr entries "value" (.text "")

/-- The value that is read as the name of the action. -/
def actionOf (entries : List (Value × Value)) : Value :=
  Value.fieldOr entries "action" (.text "")

/-- A record passes the checks in front: its id stands for an integer, it names a question, and it
names an operator. -/
structure Opens (entries : List (Value × Value)) (id : ℤ) (operator : Operator) : Prop where
  id : (Value.field entries "id").toInteger = .ok id
  question : (Value.field entries "question_id").isUnset = false
  operator : Value.field entries "operator" = .text operator.name

/-- A record is read up to its action: it passes the checks in front, its priority stands for an
integer, and its question and its value can be written. -/
structure Proceeds (entries : List (Value × Value)) (id : ℤ) (operator : Operator)
    (priority : ℤ) : Prop extends Opens entries id operator where
  priority : (priorityOf entries).toInteger = .ok priority
  texts : (Value.field entries "question_id").isWritable = true ∧
    (valueOf entries).isWritable = true

/-- The rule that a record is read as when all its checks pass. -/
def built (entries : List (Value × Value)) (id : ℤ) (operator : Operator) (priority : ℤ)
    (action : Action) : Rule where
  id := id
  questionId := (Value.field entries "question_id").toText
  operator := operator
  value := (valueOf entries).toText
  action := action
  priority := priority
  isActive := (Value.fieldOr entries "is_active" (.bool true)).truthy

/-- A record fails a check, and passes those before it: the id that the refusal carries, and the
defect. -/
inductive Fails (entries : List (Value × Value)) : Value → RuleDefect → Prop where
  | id (h : ∀ n, (Value.field entries "id").toInteger ≠ .ok n)
      (hfinite : ¬(Value.field entries "id").IsInfinite) :
      Fails entries (Value.field entries "id") .idNotInteger
  | question {id : ℤ} (hid : (Value.field entries "id").toInteger = .ok id)
      (h : (Value.field entries "question_id").isUnset = true) :
      Fails entries (.int id) .missingQuestion
  | operator {id : ℤ} (hid : (Value.field entries "id").toInteger = .ok id)
      (hquestion : (Value.field entries "question_id").isUnset = false)
      (h : ∀ operator : Operator, Value.field entries "operator" ≠ .text operator.name) :
      Fails entries (.int id) (.unknownOperator (Value.field entries "operator"))
  | priority {id : ℤ} {operator : Operator} (hopens : Opens entries id operator)
      (h : ∀ n, (priorityOf entries).toInteger ≠ .ok n)
      (hfinite : ¬(Value.field entries "priority").IsInfinite) :
      Fails entries (.int id) (.priorityNotInteger (Value.field entries "priority"))
  | action {id priority : ℤ} {operator : Operator}
      (hproceeds : Proceeds entries id operator priority) (hkeyed : ¬(actionOf entries).Keyless)
      (h : ∀ kind : ActionKind, actionOf entries ≠ .text kind.name) :
      Fails entries (.int id) (.unknownAction (actionOf entries))
  | target {id priority : ℤ} {operator : Operator}
      (hproceeds : Proceeds entries id operator priority) {kind : ActionKind}
      (hkind : actionOf entries = .text kind.name) (h : Action.filledTargets entries ≠ [kind]) :
      Fails entries (.int id) (.wrongTargets kind (Action.filledTargets entries))

section

variable {entries : List (Value × Value)} {id priority : ℤ} {operator : Operator}

/-! ### The way to each end -/

/-- The id is read first, whatever else the record holds. -/
theorem ofRecord_of_isInfinite (h : (Value.field entries "id").IsInfinite) :
    ofRecord (.map entries) = .error (.unreadable (.integer .infinite)) := by
  unfold ofRecord
  simp only [Value.fields, Except.mapError, integerField_of_isInfinite h, bind, Except.bind]

/-- A record that passes the checks in front is read on with its priority, its texts and its
action. -/
theorem Opens.ofRecord_eq (h : Opens entries id operator) :
    ofRecord (.map entries) =
      (integerField (.int id) (.priorityNotInteger (Value.field entries "priority"))
        (priorityOf entries)).bind fun priority =>
          if (Value.field entries "question_id").isWritable = true ∧
              (valueOf entries).isWritable = true then
            (Action.ofRecord (.int id) (actionOf entries) (.map entries)).map
              (built entries id operator priority)
          else .error (.unreadable .unwritable) := by
  have hid : integerField (Value.field entries "id") .idNotInteger (Value.field entries "id") =
      .ok id := integerField_of_toInteger h.id
  have hoperator := Operator.ofValue?_eq_some_iff.mpr h.operator
  unfold ofRecord priorityOf valueOf
  simp only [Value.fields, Except.mapError, hid, h.question, hoperator, bind, Except.bind,
    Value.readText, Bool.false_eq_true, if_false]
  cases integerField (.int id) (.priorityNotInteger (Value.field entries "priority"))
      ((Value.field entries "priority").orElse (.int 0)) with
  | error e => rfl
  | ok priority =>
    by_cases hquestion : (Value.field entries "question_id").isWritable = true <;>
      by_cases hvalue : (Value.fieldOr entries "value" (.text "")).isWritable = true <;>
        simp only [hquestion, hvalue, and_self, and_false, false_and, if_true, if_false,
          Bool.false_eq_true]
    rfl

theorem Opens.ofRecord_of_isInfinite (h : Opens entries id operator)
    (hpriority : (Value.field entries "priority").IsInfinite) :
    ofRecord (.map entries) = .error (.unreadable (.integer .infinite)) := by
  rw [h.ofRecord_eq, integerField_of_isInfinite (isInfinite_priorityOf.mpr hpriority)]
  rfl

theorem Opens.ofRecord_of_not_isWritable (h : Opens entries id operator)
    (hpriority : (priorityOf entries).toInteger = .ok priority)
    (htexts : ¬((Value.field entries "question_id").isWritable = true ∧
      (valueOf entries).isWritable = true)) :
    ofRecord (.map entries) = .error (.unreadable .unwritable) := by
  rw [h.ofRecord_eq, integerField_of_toInteger hpriority, Except.bind, if_neg htexts]

/-- A record that is read up to its action is read on with it. -/
theorem Proceeds.ofRecord_eq (h : Proceeds entries id operator priority) :
    ofRecord (.map entries) =
      (Action.ofRecord (.int id) (actionOf entries) (.map entries)).map
        (built entries id operator priority) := by
  rw [h.toOpens.ofRecord_eq, integerField_of_toInteger h.priority, Except.bind, if_pos h.texts]

/-- A record that fails a check is refused, if that can be told. -/
theorem Fails.ofRecord_eq {ruleId : Value} {defect : RuleDefect} (h : Fails entries ruleId defect) :
    ofRecord (.map entries) = .error (.refuse ruleId defect) := by
  cases h with
  | id hnone hfinite =>
    unfold ofRecord
    simp only [Value.fields, Except.mapError, integerField_of_none hnone hfinite, bind, Except.bind]
  | question hid hunset =>
    unfold ofRecord
    simp only [Value.fields, Except.mapError, integerField_of_toInteger hid, hunset, bind,
      Except.bind]
    rfl
  | operator hid hquestion hnone =>
    have hoperator : Operator.ofValue? (Value.field entries "operator") = none := by
      rw [Option.eq_none_iff_forall_not_mem]
      exact fun operator h => hnone operator (Operator.ofValue?_eq_some_iff.mp h)
    unfold ofRecord
    simp only [Value.fields, Except.mapError, integerField_of_toInteger hid, hquestion, hoperator,
      bind, Except.bind]
    rfl
  | priority hopens hnone hfinite =>
    -- From here on the checks in front are passed, and what is left of reading is an equation.
    rw [hopens.ofRecord_eq, integerField_of_none hnone (isInfinite_priorityOf.not.mpr hfinite)]
    rfl
  | action hproceeds hkeyed hnone =>
    rw [hproceeds.ofRecord_eq]
    rcases Action.ofRecord_cases (.int _) (actionOf entries) entries with
      ⟨kind, hkind, -⟩ | ⟨-, -, haction⟩ | ⟨kind, hkind, -⟩
    · refine absurd ((Value.isSome_unhashableKind?_iff _).mp ?_) hkeyed
      rw [hkind, Option.isSome_some]
    · rw [haction]
      rfl
    · exact absurd hkind (hnone kind)
  | @target _ _ _ hproceeds kind hkind hfilled =>
    rw [hproceeds.ofRecord_eq]
    unfold Action.ofRecord
    simp [hkind, Value.unhashableKind?, Value.isHashable, Value.fields, Except.mapError, bind,
      Except.bind, throw, throwThe, MonadExceptOf.throw, hfilled, Except.map]

/-! ### All ends -/

/-- How reading a record ends: with the refusal of the first check that fails, with something that is
not foreseen or cannot be written, or with the rule. -/
inductive Ending (entries : List (Value × Value)) : Except RuleError Rule → Prop where
  | idInfinite (h : (Value.field entries "id").IsInfinite) :
      Ending entries (.error (.unreadable (.integer .infinite)))
  | refused {ruleId : Value} {defect : RuleDefect} (h : Fails entries ruleId defect)
      (htold : ruleId.isWritable = true ∧ defect.isWritable = true) :
      Ending entries (.error (.refused ruleId defect))
  | untold {ruleId : Value} {defect : RuleDefect} (h : Fails entries ruleId defect)
      (hlong : ¬(ruleId.isWritable = true ∧ defect.isWritable = true)) :
      Ending entries (.error (.unreadable .unwritable))
  | priorityInfinite {id : ℤ} {operator : Operator} (hopens : Opens entries id operator)
      (h : (Value.field entries "priority").IsInfinite) :
      Ending entries (.error (.unreadable (.integer .infinite)))
  | textUnwritable {id priority : ℤ} {operator : Operator} (hopens : Opens entries id operator)
      (hpriority : (priorityOf entries).toInteger = .ok priority)
      (h : ¬((Value.field entries "question_id").isWritable = true ∧
        (valueOf entries).isWritable = true)) :
      Ending entries (.error (.unreadable .unwritable))
  | actionKeyless {id priority : ℤ} {operator : Operator}
      (hproceeds : Proceeds entries id operator priority) {kind : String}
      (h : (actionOf entries).unhashableKind? = some kind) :
      Ending entries (.error (.unreadable (.unhashable kind)))
  | targetUnwritable {id priority : ℤ} {operator : Operator}
      (hproceeds : Proceeds entries id operator priority) {kind : ActionKind}
      (hkind : actionOf entries = .text kind.name) (hfilled : Action.filledTargets entries = [kind])
      (h : (Value.field entries kind.targetField).isWritable = false) :
      Ending entries (.error (.unreadable .unwritable))
  | rule {id priority : ℤ} {operator : Operator}
      (hproceeds : Proceeds entries id operator priority) {kind : ActionKind}
      (hkind : actionOf entries = .text kind.name) (hfilled : Action.filledTargets entries = [kind])
      (h : (Value.field entries kind.targetField).isWritable = true) :
      Ending entries (.ok (built entries id operator priority
        ⟨kind, (Value.field entries kind.targetField).toText⟩))

/-- A record that fails a check ends there. -/
theorem Fails.ending {ruleId : Value} {defect : RuleDefect} (h : Fails entries ruleId defect) :
    Ending entries (ofRecord (.map entries)) := by
  rw [h.ofRecord_eq]
  rcases RuleError.refuse_cases ruleId defect with ⟨htold, heq⟩ | ⟨hlong, heq⟩
  · rw [heq]
    exact .refused h htold
  · rw [heq]
    exact .untold h hlong

/-- From the action on there are the ends of the action and of its target, and the rule. -/
theorem Proceeds.ending (h : Proceeds entries id operator priority) :
    Ending entries (ofRecord (.map entries)) := by
  rcases Action.ofRecord_cases (.int id) (actionOf entries) entries with
    ⟨kind, hkind, haction⟩ | ⟨hkeyed, hnone, -⟩ | ⟨kind, hkind, ⟨hfilled, -⟩ | ⟨hfilled, haction⟩⟩
  · rw [h.ofRecord_eq, haction]
    exact .actionKeyless h hkind
  · exact (Fails.action h hkeyed hnone).ending
  · exact (Fails.target h hkind hfilled).ending
  · rw [h.ofRecord_eq, haction, Value.readText]
    by_cases htarget : (Value.field entries kind.targetField).isWritable = true
    · rw [if_pos htarget]
      exact .rule h hkind hfilled htarget
    · rw [if_neg htarget]
      exact .targetUnwritable h hkind hfilled (Bool.eq_false_iff.mpr htarget)

/-- Past the checks in front there are the ends of the priority and of the texts before those of the
action. -/
theorem Opens.ending (h : Opens entries id operator) :
    Ending entries (ofRecord (.map entries)) := by
  rcases integer_cases (priorityOf entries) with
    ⟨priority, hpriority⟩ | hinfinite | ⟨hnone, hfinite⟩
  · by_cases htexts : (Value.field entries "question_id").isWritable = true ∧
        (valueOf entries).isWritable = true
    · exact Proceeds.ending ⟨h, hpriority, htexts⟩
    · rw [h.ofRecord_of_not_isWritable hpriority htexts]
      exact .textUnwritable h hpriority htexts
  · have hpriority := isInfinite_priorityOf.mp hinfinite
    rw [h.ofRecord_of_isInfinite hpriority]
    exact .priorityInfinite h hpriority
  · exact (Fails.priority h hnone (isInfinite_priorityOf.not.mp hfinite)).ending

/-- Reading a record has one of these ends. -/
theorem ofRecord_ending (entries : List (Value × Value)) :
    Ending entries (ofRecord (.map entries)) := by
  -- The cases follow the checks in front, and a record that passes them is left to `Opens.ending`.
  rcases integer_cases (Value.field entries "id") with ⟨id, hid⟩ | hinfinite | ⟨hnone, hfinite⟩
  · by_cases hquestion : (Value.field entries "question_id").isUnset = true
    · exact (Fails.question hid hquestion).ending
    · rw [Bool.not_eq_true] at hquestion
      by_cases hoperator : ∃ operator : Operator,
          Value.field entries "operator" = .text operator.name
      · obtain ⟨operator, hoperator⟩ := hoperator
        exact Opens.ending ⟨hid, hquestion, hoperator⟩
      · exact (Fails.operator hid hquestion (not_exists.mp hoperator)).ending
  · rw [ofRecord_of_isInfinite hinfinite]
    exact .idInfinite hinfinite
  · exact (Fails.id hnone hfinite).ending

/-- A rule that was read is built from its record, which is read up to its action. -/
theorem built_of_ofRecord {r : Rule} (h : ofRecord (.map entries) = .ok r) :
    ∃ id operator priority action, Proceeds entries id operator priority ∧
      r = built entries id operator priority action := by
  have hending := ofRecord_ending entries
  rw [h] at hending
  cases hending with
  | rule hproceeds hkind hfilled htarget => exact ⟨_, _, _, _, hproceeds, rfl⟩

/-- The message of a refusal can be written. -/
theorem isWritable_of_refused {record ruleId : Value} {defect : RuleDefect}
    (h : ofRecord record = .error (.refused ruleId defect)) :
    ruleId.isWritable = true ∧ defect.isWritable = true := by
  cases record with
  | map entries =>
    have hending := ofRecord_ending entries
    rw [h] at hending
    cases hending with
    | refused hfails htold => exact htold
  | _ => cases h

/-- The id of a rule that was read from a record which can be written can be written, and so can its
priority. -/
theorem isWritable_of_ofRecord {r : Rule} (h : ofRecord (.map entries) = .ok r)
    (hwritable : (Value.map entries).isWritable = true) :
    IntegerText.isWritable r.id = true ∧ IntegerText.isWritable r.priority = true := by
  obtain ⟨id, operator, priority, action, hproceeds, rfl⟩ := built_of_ofRecord h
  have hfield := Value.isWritable_field hwritable
  have hpriority : (priorityOf entries).isWritable = true := by
    unfold priorityOf Value.orElse
    split_ifs
    · exact hfield "priority"
    · rw [Value.isWritable_int]
      decide
  exact ⟨Value.isWritable_of_toInteger hproceeds.id (hfield "id"),
    Value.isWritable_of_toInteger hproceeds.priority hpriority⟩

/-! ## Records that are neither read nor refused -/

/-- A record leads to an error that is no refusal: an infinite id, or an infinite priority; a question,
a value or a target that cannot be written; an action that cannot be a key; or a check that fails with
what cannot be told. Each comes in a record that passes the checks before. -/
inductive Astray (entries : List (Value × Value)) : Prop where
  | id (h : (Value.field entries "id").IsInfinite)
  | priority {id : ℤ} {operator : Operator} (hopens : Opens entries id operator)
      (h : (Value.field entries "priority").IsInfinite)
  | text {id priority : ℤ} {operator : Operator} (hopens : Opens entries id operator)
      (hpriority : (priorityOf entries).toInteger = .ok priority)
      (h : ¬((Value.field entries "question_id").isWritable = true ∧
        (valueOf entries).isWritable = true))
  | action {id priority : ℤ} {operator : Operator}
      (hproceeds : Proceeds entries id operator priority) (h : (actionOf entries).Keyless)
  | target {id priority : ℤ} {operator : Operator}
      (hproceeds : Proceeds entries id operator priority) {kind : ActionKind}
      (hkind : actionOf entries = .text kind.name) (hfilled : Action.filledTargets entries = [kind])
      (h : (Value.field entries kind.targetField).isWritable = false)
  | untold {ruleId : Value} {defect : RuleDefect} (hfails : Fails entries ruleId defect)
      (h : ¬(ruleId.isWritable = true ∧ defect.isWritable = true))

/-- Reading a record ends in an error that is no refusal exactly when the record leads there. -/
theorem ofRecord_eq_unreadable_iff :
    (∃ e, ofRecord (.map entries) = .error (.unreadable e)) ↔ Astray entries := by
  constructor
  · rintro ⟨e, he⟩
    -- There are no other ends than those of `Ending`, and two of them are no errors of this kind.
    have hending := ofRecord_ending entries
    rw [he] at hending
    cases hending with
    | idInfinite h => exact .id h
    | untold hfails hlong => exact .untold hfails hlong
    | priorityInfinite hopens h => exact .priority hopens h
    | textUnwritable hopens hpriority h => exact .text hopens hpriority h
    | actionKeyless hproceeds h =>
      refine .action hproceeds ((Value.isSome_unhashableKind?_iff _).mp ?_)
      rw [h, Option.isSome_some]
    | targetUnwritable hproceeds hkind hfilled h => exact .target hproceeds hkind hfilled h
  · intro h
    cases h with
    | id hinfinite => exact ⟨_, ofRecord_of_isInfinite hinfinite⟩
    | priority hopens hinfinite => exact ⟨_, hopens.ofRecord_of_isInfinite hinfinite⟩
    | text hopens hpriority htexts => exact ⟨_, hopens.ofRecord_of_not_isWritable hpriority htexts⟩
    | action hproceeds hkeyless =>
      obtain ⟨kind, hkind⟩ :=
        Option.isSome_iff_exists.mp ((Value.isSome_unhashableKind?_iff _).mpr hkeyless)
      refine ⟨.unhashable kind, ?_⟩
      rw [hproceeds.ofRecord_eq]
      unfold Action.ofRecord
      rw [hkind]
      rfl
    | target hproceeds hkind hfilled htarget =>
      refine ⟨.unwritable, ?_⟩
      rw [hproceeds.ofRecord_eq]
      unfold Action.ofRecord
      simp [hkind, Value.unhashableKind?, Value.isHashable, Value.fields, Except.mapError, bind,
        Except.bind, hfilled, Value.readText, htarget, Except.map]
    | untold hfails hlong =>
      refine ⟨.unwritable, ?_⟩
      rw [hfails.ofRecord_eq]
      rcases RuleError.refuse_cases _ _ with ⟨htold, -⟩ | ⟨-, heq⟩
      · exact absurd htold hlong
      · rw [heq]

end

end Rule

end FormRouting
