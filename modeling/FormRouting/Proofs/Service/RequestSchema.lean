import FormRouting.Proofs.Service.RequestBody
import FormRouting.Schema
import Mathlib.Data.List.Forall2

/-!
# Nothing in a request is converted

The answers of a request are declared as a union of types whose neighbours convert into each other: a
truth value can be taken as an integer, an integer as a floating-point number, and the text of a
number as that number. A union prefers a type that has the value as it is, and only if none has it,
the conversion of a member may be taken, whichever it is.

`FieldType` are declared types, each with the values that it has and with what it takes them as. They
come with the law that a value is taken as it is if the type has it. So a union is exact if it has
whatever its members convert (`exact_union`), although its members are not, and lists and mappings of
exact types are exact. The declared type of an answer is one of them, with any conversions
(`exact_answer`), and what a request's declaration takes are the bodies that are taken, as they were
sent (`bodies_are_taken_as_sent`).
-/

namespace FormRouting

open SubmissionRequest (IsScalar IsAnswer IsBody Sent TellsText)

/-! ## Types of single values -/

/-- The types of values that stand by themselves. -/
inductive ScalarType where
  | text
  | integer
  | real
  | truth

/-- The values of such a type. -/
inductive ScalarType.Has : ScalarType → Value → Prop where
  | text (s : String) : Has .text (.text s)
  | integer (n : Int) : Has .integer (.int n)
  | real (x : Binary64) : Has .real (.real x)
  | truth (b : Bool) : Has .truth (.bool b)

theorem ScalarType.exists_has_iff {v : Value} : (∃ t : ScalarType, t.Has v) ↔ IsScalar v := by
  constructor
  · rintro ⟨t, _ | _ | _ | _⟩ <;> constructor
  · rintro (_ | _ | _ | _) <;> exact ⟨_, by constructor⟩

/-- The conversions of JSON values to the types of single values. Which there are is left open, but
for two things: only single values are converted, and nothing is converted to a text. -/
structure Conversions where
  /-- A value is converted to a type as another value. -/
  Converts : ScalarType → Value → Value → Prop
  isScalar_of_converts : ∀ {t v w}, v.IsJson → Converts t v w → IsScalar v
  has_of_converts_text : ∀ {v w}, v.IsJson → Converts .text v w → ScalarType.text.Has v

/-! ## Declared types -/

/-- A declared type of a field. -/
structure FieldType where
  /-- The values that are of the type as they are. -/
  Has : Value → Prop
  /-- A value is taken as another one, which it may have been converted to. -/
  Takes : Value → Value → Prop
  takes_iff_of_has : ∀ {v w}, Has v → (Takes v w ↔ w = v)

namespace FieldType

/-- The type of null alone. -/
def null : FieldType where
  Has v := v = .null
  Takes v w := v = .null ∧ w = v
  takes_iff_of_has h := and_iff_right h

/-- A type of single values, to which others may be converted. -/
def scalar (c : Conversions) (t : ScalarType) : FieldType where
  Has := t.Has
  Takes v w := t.Has v ∧ w = v ∨ ¬t.Has v ∧ c.Converts t v w
  takes_iff_of_has h := by simp [h]

/-- A union prefers a member that has the value as it is. If there is none, any member may take it. -/
def union (members : List FieldType) : FieldType where
  Has v := ∃ t ∈ members, t.Has v
  Takes v w := (∃ t ∈ members, t.Has v) ∧ w = v ∨
    (¬∃ t ∈ members, t.Has v) ∧ ∃ t ∈ members, t.Takes v w
  takes_iff_of_has h := by simp only [h, not_true_eq_false, true_and, false_and, or_false]

/-- What is taken item by item is taken as it is if each item is. -/
theorem forall₂_iff_eq {α : Type} {has : α → Prop} {takes : α → α → Prop}
    (hexact : ∀ {a b}, has a → (takes a b ↔ b = a)) {as bs : List α} (h : ∀ a ∈ as, has a) :
    List.Forall₂ takes as bs ↔ bs = as := by
  induction as generalizing bs with
  | nil => rw [List.forall₂_nil_left_iff]
  | cons a as ih =>
    rw [List.forall_mem_cons] at h
    rw [List.forall₂_cons_left_iff]
    simp only [hexact h.1, ih h.2, exists_and_left, exists_eq_left]

/-- Lists, which are taken item by item. -/
def list (t : FieldType) : FieldType where
  Has v := ∃ items, v = .list items ∧ ∀ item ∈ items, t.Has item
  Takes v w := ∃ items items', v = .list items ∧ w = .list items' ∧
    List.Forall₂ t.Takes items items'
  takes_iff_of_has := by
    rintro v w ⟨items, rfl, hitems⟩
    constructor
    · rintro ⟨items', taken, heq, rfl, htaken⟩
      obtain rfl := Value.list.inj heq
      rw [(forall₂_iff_eq t.takes_iff_of_has hitems).mp htaken]
    · rintro rfl
      exact ⟨items, items, rfl, rfl, (forall₂_iff_eq t.takes_iff_of_has hitems).mpr rfl⟩

/-- A mapping keeps its keys, which are texts. -/
def mapping (t : FieldType) : FieldType where
  Has v := ∃ entries, v = .map entries ∧ ∀ e ∈ entries, ScalarType.text.Has e.1 ∧ t.Has e.2
  Takes v w := ∃ entries entries', v = .map entries ∧ w = .map entries' ∧
    List.Forall₂ (fun e e' => (ScalarType.text.Has e.1 ∧ e'.1 = e.1) ∧ t.Takes e.2 e'.2)
      entries entries'
  takes_iff_of_has := by
    have hentry : ∀ {e e' : Value × Value}, ScalarType.text.Has e.1 ∧ t.Has e.2 →
        ((ScalarType.text.Has e.1 ∧ e'.1 = e.1) ∧ t.Takes e.2 e'.2 ↔ e' = e) := by
      intro e e' h
      rw [t.takes_iff_of_has h.2, and_iff_right h.1, Prod.ext_iff]
    rintro v w ⟨entries, rfl, hentries⟩
    constructor
    · rintro ⟨entries', taken, heq, rfl, htaken⟩
      obtain rfl := Value.map.inj heq
      rw [(forall₂_iff_eq hentry hentries).mp htaken]
    · rintro rfl
      exact ⟨entries, entries, rfl, rfl, (forall₂_iff_eq hentry hentries).mpr rfl⟩

/-! ## Exact types -/

/-- A type that takes no JSON value but those that it has, and so converts nothing. -/
def Exact (t : FieldType) : Prop :=
  ∀ {v w}, v.IsJson → t.Takes v w → t.Has v

variable {t : FieldType} {v w : Value}

/-- What an exact type takes is taken as it is. -/
theorem Exact.takes_iff (h : t.Exact) (hv : v.IsJson) : t.Takes v w ↔ t.Has v ∧ w = v := by
  constructor
  · intro htakes
    have hhas := h hv htakes
    exact ⟨hhas, (t.takes_iff_of_has hhas).mp htakes⟩
  · rintro ⟨hhas, heq⟩
    exact (t.takes_iff_of_has hhas).mpr heq

/-- A union is exact if it has whatever its members take, even if no member is exact. -/
theorem exact_union {members : List FieldType}
    (h : ∀ t ∈ members, ∀ {v w}, v.IsJson → t.Takes v w → (union members).Has v) :
    (union members).Exact := by
  rintro v w hv (⟨hhas, -⟩ | ⟨-, t, hmem, htakes⟩)
  · exact hhas
  · exact h t hmem hv htakes

/-- What the members of a list have that are taken, if each has it that is. -/
theorem forall_mem_of_forall₂ {α : Type} {p q : α → Prop} {takes : α → α → Prop}
    (hq : ∀ {a b}, p a → takes a b → q a) {as bs : List α} (h : ∀ a ∈ as, p a)
    (htaken : List.Forall₂ takes as bs) : ∀ a ∈ as, q a := by
  have hboth := (List.forall₂_and_left as bs).mpr ⟨h, htaken⟩
  have heach := hboth.imp fun a b hab => (⟨hq hab.1 hab.2, trivial⟩ : q a ∧ True)
  exact ((List.forall₂_and_left as bs).mp heach).1

theorem exact_list (h : t.Exact) : (list t).Exact := by
  rintro v w hv ⟨items, taken, rfl, -, htaken⟩
  cases hv with
  | list hitems => exact ⟨items, rfl, forall_mem_of_forall₂ h hitems htaken⟩

theorem exact_mapping (h : t.Exact) : (mapping t).Exact := by
  rintro v w hv ⟨entries, taken, rfl, -, htaken⟩
  cases hv with
  | map _ hvalues =>
    have hentry : ∀ {e e' : Value × Value}, e.2.IsJson →
        (ScalarType.text.Has e.1 ∧ e'.1 = e.1) ∧ t.Takes e.2 e'.2 →
        ScalarType.text.Has e.1 ∧ t.Has e.2 :=
      fun hv htakes => ⟨htakes.1.1, h hv htakes.2⟩
    exact ⟨entries, rfl, forall_mem_of_forall₂ hentry hvalues htaken⟩

/-! ## The types of a request -/

variable (c : Conversions)

/-- The types of single values, in the order of their declaration. -/
def scalars : List FieldType :=
  [scalar c .text, scalar c .integer, scalar c .real, scalar c .truth]

/-- The items of an answer. -/
def item : FieldType :=
  union (scalars c)

/-- An answer: a single value, a list of items, or null. -/
def answer : FieldType :=
  union (scalars c ++ [list (item c), null])

/-- A text that may be null. -/
def optionalText : FieldType :=
  union [scalar c .text, null]

variable {c}

theorem mem_scalars_iff {t : FieldType} : t ∈ scalars c ↔ ∃ s, t = scalar c s := by
  constructor
  · intro h
    simp only [scalars, List.mem_cons, List.not_mem_nil, or_false] at h
    rcases h with rfl | rfl | rfl | rfl <;> exact ⟨_, rfl⟩
  · rintro ⟨_ | _ | _ | _, rfl⟩ <;> simp [scalars]

theorem has_item_iff : (item c).Has v ↔ IsScalar v := by
  rw [← ScalarType.exists_has_iff]
  constructor
  · rintro ⟨t, hmem, hhas⟩
    obtain ⟨s, rfl⟩ := mem_scalars_iff.mp hmem
    exact ⟨s, hhas⟩
  · rintro ⟨s, hhas⟩
    exact ⟨scalar c s, mem_scalars_iff.mpr ⟨s, rfl⟩, hhas⟩

/-- What a type of single values takes is a single value, converted or not. So some type of them has
it, though perhaps another one. -/
theorem isScalar_of_takes (hmem : t ∈ scalars c) (hv : v.IsJson) (h : t.Takes v w) : IsScalar v := by
  obtain ⟨s, rfl⟩ := mem_scalars_iff.mp hmem
  rcases h with ⟨hhas, -⟩ | ⟨-, hconverts⟩
  · exact ScalarType.exists_has_iff.mp ⟨s, hhas⟩
  · exact c.isScalar_of_converts hv hconverts

theorem exact_item : (item c).Exact :=
  exact_union fun _ hmem _ _ hv htakes => has_item_iff.mpr (isScalar_of_takes hmem hv htakes)

theorem has_answer_iff : (answer c).Has v ↔ IsAnswer v := by
  constructor
  · rintro ⟨t, hmem, hhas⟩
    rcases List.mem_append.mp hmem with hscalar | hother
    · exact .scalar (has_item_iff.mp ⟨t, hscalar, hhas⟩)
    · simp only [List.mem_cons, List.not_mem_nil, or_false] at hother
      rcases hother with rfl | rfl
      · obtain ⟨items, rfl, hitems⟩ := hhas
        exact .list fun v hmem => has_item_iff.mp (hitems v hmem)
      · obtain rfl := hhas
        exact .null
  · intro h
    cases h with
    | null => exact ⟨null, by simp, rfl⟩
    | scalar h =>
      obtain ⟨t, hmem, hhas⟩ := (has_item_iff (c := c)).mpr h
      exact ⟨t, List.mem_append_left _ hmem, hhas⟩
    | list h => exact ⟨list (item c), by simp, _, rfl, fun v hmem => has_item_iff.mpr (h v hmem)⟩

theorem exact_answer : (answer c).Exact := by
  refine exact_union fun t hmem v w hv htakes => has_answer_iff.mpr ?_
  rcases List.mem_append.mp hmem with hscalar | hother
  · exact .scalar (isScalar_of_takes hscalar hv htakes)
  · simp only [List.mem_cons, List.not_mem_nil, or_false] at hother
    rcases hother with rfl | rfl
    · obtain ⟨items, rfl, hitems⟩ := exact_list exact_item hv htakes
      exact .list fun v hmem => has_item_iff.mp (hitems v hmem)
    · obtain ⟨rfl, -⟩ := htakes
      exact .null

theorem exact_optionalText : (optionalText c).Exact := by
  refine exact_union fun t hmem v w hv htakes => ⟨t, hmem, ?_⟩
  simp only [List.mem_cons, List.not_mem_nil, or_false] at hmem
  rcases hmem with rfl | rfl
  · rcases htakes with ⟨hhas, -⟩ | ⟨-, hconverts⟩
    · exact hhas
    · exact c.has_of_converts_text hv hconverts
  · exact htakes.1

/-- What a field says that may be left out, where its type takes what it holds. -/
inductive TakesField (t : FieldType) (fields : List (Value × Value)) (name : String) : Value → Prop where
  | absent (h : Value.lookup name fields = none) : TakesField t fields name .null
  | present {v w : Value} (h : Value.lookup name fields = some v) (htakes : t.Takes v w) :
      TakesField t fields name w

/-- A text that a request may hold, as a value. -/
def said (s : Option String) : Value :=
  (s.map Value.text).getD .null

theorem has_optionalText_iff : (optionalText c).Has v ↔ ∃ s, v = said s := by
  constructor
  · rintro ⟨t, hmem, hhas⟩
    simp only [List.mem_cons, List.not_mem_nil, or_false] at hmem
    rcases hmem with rfl | rfl
    · obtain ⟨s⟩ := hhas
      exact ⟨some s, rfl⟩
    · exact ⟨none, hhas⟩
  · rintro ⟨_ | s, rfl⟩
    · exact ⟨null, by simp, rfl⟩
    · exact ⟨scalar c .text, by simp, .text s⟩

/-- What a field is taken as that may be left out, null or a text is what it says. -/
theorem takesField_optionalText_iff {fields : List (Value × Value)} {name : String}
    (hfields : ∀ {v}, Value.lookup name fields = some v → v.IsJson) {s : Option String} :
    (optionalText c).TakesField fields name (said s) ↔ TellsText fields name s := by
  constructor
  · generalize htold : said s = told
    rintro (h | ⟨h, htakes⟩)
    · cases s with
      | none => exact .absent h
      | some s => cases htold
    · obtain ⟨-, rfl⟩ := (exact_optionalText.takes_iff (hfields h)).mp htakes
      subst htold
      cases s with
      | none => exact .null h
      | some s => exact .text h
  · have htakes : ∀ s, (optionalText c).Takes (said s) (said s) := fun s =>
      ((optionalText c).takes_iff_of_has (has_optionalText_iff.mpr ⟨s, rfl⟩)).mpr rfl
    rintro (h | h | h)
    · exact .absent h
    · exact .present h (htakes none)
    · exact .present h (htakes (some _))

theorem takes_answers_iff (hv : v.IsJson) {answers : List (Value × Value)} :
    (mapping (answer c)).Takes v (.map answers) ↔
      v = .map answers ∧ ∀ e ∈ answers, IsAnswer e.2 := by
  rw [Exact.takes_iff (exact_mapping exact_answer) hv]
  constructor
  · rintro ⟨⟨entries, rfl, hentries⟩, heq⟩
    obtain rfl := Value.map.inj heq
    exact ⟨rfl, fun e hmem => has_answer_iff.mp (hentries e hmem).2⟩
  · rintro ⟨rfl, heach⟩
    cases hv with
    | map hkeys _ =>
      refine ⟨⟨answers, rfl, fun e hmem => ⟨?_, has_answer_iff.mpr (heach e hmem)⟩⟩, rfl⟩
      obtain ⟨key, hkey⟩ := hkeys e hmem
      rw [hkey]
      exact .text key

end FieldType

namespace SubmissionRequest

/-- A submission as it is declared: answers under texts, and two texts that may be left out or null.
Other fields are passed over. -/
structure Declared (c : Conversions) (fields : List (Value × Value)) (request : SubmissionRequest) :
    Prop where
  answers : ∃ v, Value.lookup "answers" fields = some v ∧
    (FieldType.mapping (.answer c)).Takes v (.map request.answers)
  email : (FieldType.optionalText c).TakesField fields "email" (FieldType.said request.email)
  name : (FieldType.optionalText c).TakesField fields "name" (FieldType.said request.name)

variable {c : Conversions} {fields : List (Value × Value)} {request : SubmissionRequest}

/-- What the declaration takes a body as is what the body says. -/
theorem declared_iff (hfields : (Value.map fields).IsJson) :
    Declared c fields request ↔ Sent fields request ∧ ∀ e ∈ request.answers, IsAnswer e.2 := by
  have hfield : ∀ {name : String} {v : Value}, Value.lookup name fields = some v → v.IsJson := by
    intro name v h
    cases hfields with
    | map _ hvalues =>
      obtain ⟨e, hmem, rfl⟩ := Value.exists_mem_of_lookup h
      exact hvalues e hmem
  constructor
  · rintro ⟨⟨v, hlookup, htakes⟩, hemail, hname⟩
    obtain ⟨rfl, heach⟩ := (FieldType.takes_answers_iff (hfield hlookup)).mp htakes
    exact ⟨⟨hlookup, (FieldType.takesField_optionalText_iff hfield).mp hemail,
      (FieldType.takesField_optionalText_iff hfield).mp hname⟩, heach⟩
  · rintro ⟨⟨hanswers, hemail, hname⟩, heach⟩
    have htakes := (FieldType.takes_answers_iff (c := c) (hfield hanswers)).mpr ⟨rfl, heach⟩
    exact ⟨⟨_, hanswers, htakes⟩, (FieldType.takesField_optionalText_iff hfield).mpr hemail,
      (FieldType.takesField_optionalText_iff hfield).mpr hname⟩

/-- How a body is taken. -/
structure TakenAsSent (c : Conversions) (body : Value) : Prop where
  /-- It is taken exactly if it is in the grammar of submissions. -/
  taken_iff : (∃ request, ofValue body = .ok request) ↔ IsBody body
  /-- Then the submission holds the answers, the address and the name as they were sent. -/
  sent : ∀ request, ofValue body = .ok request → ∃ fields, body = .map fields ∧ Sent fields request
  /-- This is what the declared types take it as, whatever values they convert into each other. -/
  declared : ∀ request, ofValue body = .ok request ↔
    ∃ fields, body = .map fields ∧ Declared c fields request

/-- Every JSON body is taken exactly if it is in the grammar, and as it was sent; and so is every text
that is read as JSON. -/
theorem bodies_are_taken_as_sent (c : Conversions) :
    (∀ body : Value, body.IsJson → TakenAsSent c body) ∧
      ∀ text body, Json.read (dropMark text) = .ok body →
        ofText text = ofValue body ∧ TakenAsSent c body := by
  have hbody : ∀ body : Value, body.IsJson → TakenAsSent c body := by
    intro body hjson
    refine ⟨exists_ofValue_iff, fun request h => ?_, fun request => ?_⟩
    · obtain ⟨fields, rfl, hsent, -⟩ := ofValue_eq_ok_iff.mp h
      exact ⟨fields, rfl, hsent⟩
    · rw [ofValue_eq_ok_iff]
      constructor
      · rintro ⟨fields, rfl, h⟩
        exact ⟨fields, rfl, (declared_iff hjson).mpr h⟩
      · rintro ⟨fields, rfl, h⟩
        exact ⟨fields, rfl, (declared_iff hjson).mp h⟩
  exact ⟨hbody, fun text body hread =>
    ⟨ofText_of_read hread, hbody body (Json.isJson_of_read hread)⟩⟩

/-- Conversions as a schema makes them that is not strict. -/
def lax? : ScalarType → Value → Option Value
  | .integer, .text s => (Schema.integerOfText? s).map .int
  | .integer, .real x => (Schema.integer? (.real x)).map .int
  | .integer, .bool b => some (.int (if b then 1 else 0))
  | .real, .text s => (RealText.read? s).map .real
  | .real, .int n => (Binary64.ofInt? n).map .real
  | .real, .bool b => (Binary64.ofInt? (if b then 1 else 0)).map .real
  | .truth, .text s =>
    if s ∈ ["1", "on", "t", "true", "y", "yes"] then some (.bool true)
    else if s ∈ ["0", "off", "f", "false", "n", "no"] then some (.bool false)
    else none
  | .truth, .int n =>
    if n = 1 then some (.bool true) else if n = 0 then some (.bool false) else none
  | .truth, .real x =>
    if x.sameInt 1 then some (.bool true) else if x.sameInt 0 then some (.bool false) else none
  | _, _ => none

def lax : Conversions where
  Converts t v w := lax? t v = some w
  isScalar_of_converts := by
    intro t v w _ h
    cases v <;> first | (cases t <;> cases h) | constructor
  has_of_converts_text := by
    intro v w _ h
    cases v <;> cases h

/-- Four answers that are converted into each other where another type is asked for, and all of them
as a list, are written as they were sent, and so are taken as they are. -/
theorem bodies_are_taken_as_sent_ones :
    let ones : List Value := [.bool true, .int 1, .real (.ofRatio false 1 1), .text "1"]
    let sent := "\x7b\"a\": true, \"b\": 1, \"c\": 1.0, \"d\": \"1\", \"e\": [true, 1, 1.0, \"1\"]\x7d"
    let text := "\x7b\"answers\": " ++ sent ++ ", \"email\": null, \"more\": 1\x7d"
    (∀ v ∈ ones, ∃ t : ScalarType, ¬t.Has v ∧ ∃ w, lax.Converts t v w) ∧
      ∃ body request, Json.read (dropMark text) = .ok body ∧ TakenAsSent lax body ∧
        ofText text = .ok request ∧ Json.write? (.map request.answers) = some sent := by
  intro ones sent text
  have hwritten : ((ofText text).toOption.bind fun r => Json.write? (.map r.answers)) = some sent := by
    decide +kernel
  constructor
  · have hconverts : ∀ {t : ScalarType} {v : Value}, (lax? t v).isSome → ∃ w, lax.Converts t v w :=
      fun h => Option.isSome_iff_exists.mp h
    simp only [ones, List.forall_mem_cons, List.not_mem_nil, false_implies, implies_true, and_true]
    refine ⟨⟨.integer, ?_, hconverts rfl⟩, ⟨.truth, ?_, hconverts rfl⟩,
      ⟨.truth, ?_, hconverts (by decide +kernel)⟩, .truth, ?_, hconverts rfl⟩ <;> rintro ⟨⟩
  · cases hrequest : ofText text with
    | error e =>
      rw [hrequest] at hwritten
      cases hwritten
    | ok request =>
      obtain ⟨body, hread, -⟩ := read_of_ofText hrequest
      have htaken := ((bodies_are_taken_as_sent lax).2 text body hread).2
      rw [hrequest] at hwritten
      exact ⟨body, request, hread, htaken, rfl, hwritten⟩

end SubmissionRequest

end FormRouting
