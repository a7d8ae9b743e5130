import FormRouting.LogContext
import FormRouting.Proofs.Text.Hexadecimal
import FormRouting.Proofs.Value.Mapping
import FormRouting.ServiceError

/-!
# Reports follow the context

What a report says of its context, after any steps that set the context or cleared it
(`reports_follow_context`).

The two fields of a context follow the steps alike: a step that gives a field a text sets it, a
clearing empties it, and any other step leaves it (`Tracks`). So after a run of steps a field has
the text that was given last since the last clearing (`Tracks.after`). They differ in what a step
gives: an empty id is one, and an empty slug is none.

A report is completed by putting texts under five names, each of them only if there is one
(`complete_eq`). As the names are distinct, each is found under its own (`lookup_putTexts`), and no
entry under another key is touched (`filter_putTexts`).
-/

namespace FormRouting

open Quoted (IsHexadecimal isHexadecimal_hex)

/-! ## Numbers of a span -/

/-- A number of the current span in writing. There is one if the span is recorded and the number is
not zero, and it has as many hexadecimal digits as the width says, if the number fits in. -/
structure Span.Writes (span : Option Span) (number : Span → ℤ) (width : ℕ) (text : Option String) :
    Prop where
  isSome_iff : text.isSome ↔ ∃ s, span = some s ∧ s.recording = true ∧ number s ≠ 0
  digits : ∀ s t, span = some s → text = some t → ∀ n : ℕ, number s = n → n < 16 ^ width →
    IsHexadecimal width n t.toList

theorem Span.isSome_idText?_iff {width : ℕ} {id : ℤ} : (idText? width id).isSome ↔ id ≠ 0 := by
  unfold idText?
  split_ifs with hzero hneg
  · exact iff_of_false Bool.false_ne_true (not_not.mpr hzero)
  · exact iff_of_true rfl hzero
  · exact iff_of_true rfl hzero

/-- A number that fits into the width is written in as many digits. -/
theorem Span.isHexadecimal_idText? {width n : ℕ} {t : String} (hwidth : 0 < width)
    (hn : n < 16 ^ width) (h : idText? width n = some t) : IsHexadecimal width n t.toList := by
  unfold idText? at h
  split_ifs at h with hzero hneg
  · -- Only a number below zero has a sign in front.
    omega
  · obtain rfl := Option.some.inj h
    rw [String.toList_ofList, Int.natAbs_natCast]
    exact isHexadecimal_hex hwidth hn

/-- The numbers of a span are written as they are when the span is recorded. -/
theorem Span.writes {width : ℕ} (hwidth : 0 < width) (span : Option Span) (number : Span → ℤ) :
    Writes span number width
      (span.bind fun s => if s.recording then idText? width (number s) else none) where
  isSome_iff := by
    cases span with
    | none => simp
    | some s =>
      rw [Option.bind_some]
      cases hrecording : s.recording with
      | false => simp [hrecording]
      | true => simp [hrecording, isSome_idText?_iff]
  digits := by
    rintro s t rfl ht n hn hfits
    rw [Option.bind_some] at ht
    split_ifs at ht
    rw [hn] at ht
    exact isHexadecimal_idText? hwidth hfits ht

namespace LogContext

/-! ## Steps -/

/-- What is done to a context between reports. -/
inductive Step where
  | setRequest (requestId : String)
  | setForm (slug : Option String)
  | clear

/-- The id of a request that a step gives, which may be empty. -/
def Step.requestId? : Step → Option String
  | .setRequest requestId => some requestId
  | _ => none

/-- The slug of a form that a step gives. An empty slug is none. -/
def Step.formSlug? : Step → Option String
  | .setForm (some slug) => if slug = "" then none else some slug
  | _ => none

theorem Step.formSlug?_eq_some_iff {step : Step} {slug : String} :
    step.formSlug? = some slug ↔ slug ≠ "" ∧ step = .setForm (some slug) := by
  obtain requestId | (_ | given) | - := step
  · simp [formSlug?]
  · simp [formSlug?]
  · rw [formSlug?, Option.ite_none_left_eq_some, Option.some.injEq, setForm.injEq,
      Option.some.injEq]
    constructor
    · rintro ⟨hne, rfl⟩
      exact ⟨hne, rfl⟩
    · rintro ⟨hne, rfl⟩
      exact ⟨hne, rfl⟩
  · simp [formSlug?]

/-- A text as a value, which is null if there is no text. -/
def textOrNull (text : Option String) : Value :=
  (text.map Value.text).getD .null

/-- Takes a step. -/
def take (c : LogContext) : Step → LogContext
  | .setRequest requestId => c.setRequest (.text requestId)
  | .setForm slug => c.setForm (textOrNull slug)
  | .clear => empty

/-- The context after steps, the first of which finds it empty. -/
def after (steps : List Step) : LogContext :=
  steps.foldl take empty

/-- Of the texts that steps gave since the last clearing, this is the last one. -/
def GaveLast (given : Step → Option String) (steps : List Step) (text : String) : Prop :=
  ∃ earlier step later, steps = earlier ++ step :: later ∧ given step = some text ∧
    ∀ s ∈ later, s ≠ .clear ∧ given s = none

theorem not_gaveLast_nil (given : Step → Option String) (text : String) :
    ¬GaveLast given [] text := by
  rintro ⟨earlier, step, later, h, -⟩
  exact List.append_ne_nil_of_right_ne_nil _ (List.cons_ne_nil _ _) h.symm

/-- The last text is that of one more step, or else that of the steps before it, which a clearing
forgets. -/
theorem gaveLast_concat_iff {given : Step → Option String} {steps : List Step} {step : Step}
    {text : String} :
    GaveLast given (steps ++ [step]) text ↔
      given step = some text ∨ given step = none ∧ step ≠ .clear ∧ GaveLast given steps text := by
  constructor
  · rintro ⟨earlier, source, later, hsteps, hsource, hlater⟩
    -- Either nothing came after the step that gave the text, or the new step did.
    rcases List.eq_nil_or_concat later with rfl | ⟨later, last, rfl⟩
    · obtain ⟨-, hlast⟩ := List.append_inj' hsteps rfl
      rw [List.singleton_inj.mp hlast]
      exact .inl hsource
    · rw [List.concat_eq_append, ← List.cons_append, ← List.append_assoc] at hsteps
      obtain ⟨hsteps, hlast⟩ := List.append_inj' hsteps rfl
      rw [List.concat_eq_append, List.forall_mem_append] at hlater
      obtain ⟨hclear, hnone⟩ := hlater.2 last (List.mem_singleton.mpr rfl)
      rw [List.singleton_inj.mp hlast]
      exact .inr ⟨hnone, hclear, earlier, source, later, hsteps, hsource, hlater.1⟩
  · rintro (hgiven | ⟨hnone, hclear, earlier, source, later, rfl, hsource, hlater⟩)
    · exact ⟨steps, step, [], rfl, hgiven, List.forall_mem_nil _⟩
    · refine ⟨earlier, source, later ++ [step], by simp, hsource, ?_⟩
      rw [List.forall_mem_append, List.forall_mem_singleton]
      exact ⟨hlater, hclear, hnone⟩

/-- Only what a step gave was given last. -/
theorem GaveLast.exists_step {given : Step → Option String} {steps : List Step} {text : String}
    (h : GaveLast given steps text) : ∃ step, given step = some text := by
  obtain ⟨-, step, -, -, hstep, -⟩ := h
  exact ⟨step, hstep⟩

/-! ## Fields of a context -/

/-- A field of a context keeps track of what steps give: it has the text of the step that gives one,
it is null after a clearing, and any other step leaves it as it was. -/
structure Tracks (field : LogContext → Value) (given : Step → Option String) : Prop where
  ofEmpty : field empty = .null
  set : ∀ (c : LogContext) step text, given step = some text → field (c.take step) = .text text
  kept : ∀ (c : LogContext) step, given step = none → step ≠ .clear →
    field (c.take step) = field c

theorem tracks_requestId : Tracks requestId Step.requestId? where
  ofEmpty := rfl
  set := by
    rintro c (requestId | slug | -) text h
    · rw [← Option.some.inj h]
      rfl
    · cases h
    · cases h
  kept := by
    rintro c (requestId | slug | -) h hclear
    · cases h
    · rw [take, setForm]
      split_ifs <;> rfl
    · exact absurd rfl hclear

theorem tracks_formSlug : Tracks formSlug Step.formSlug? where
  ofEmpty := rfl
  set := by
    intro c step slug h
    obtain ⟨hne, rfl⟩ := Step.formSlug?_eq_some_iff.mp h
    have htruthy : (textOrNull (some slug)).truthy = true := by
      simpa [textOrNull, Value.truthy] using hne
    rw [take, setForm, if_pos htruthy]
    rfl
  kept := by
    -- Neither no slug nor an empty one counts as true, and the field stays as it was.
    rintro c (requestId | (_ | slug) | -) h hclear
    · rfl
    · rfl
    · have hempty : slug = "" := by simpa [Step.formSlug?] using h
      rw [hempty]
      rfl
    · exact absurd rfl hclear

/-- After a run of steps, a field that keeps track of them has the text that was given last since
the last clearing, and is null if there is none. -/
theorem Tracks.after {field : LogContext → Value} {given : Step → Option String}
    (h : Tracks field given) (steps : List Step) :
    ∃ text, field (after steps) = textOrNull text ∧
      ∀ t, text = some t ↔ GaveLast given steps t := by
  induction steps using List.reverseRecOn with
  | nil =>
    refine ⟨none, h.ofEmpty, fun t => ?_⟩
    exact iff_of_false (Option.some_ne_none t).symm (not_gaveLast_nil given t)
  | append_singleton steps step ih =>
    -- The induction is from the end, as it is the last step that the text may come from.
    obtain ⟨text, hfield, htext⟩ := ih
    have hafter : LogContext.after (steps ++ [step]) = (LogContext.after steps).take step := by
      rw [LogContext.after, List.foldl_append]
      rfl
    simp only [hafter, gaveLast_concat_iff]
    cases hgiven : given step with
    | some new =>
      refine ⟨some new, h.set _ _ _ hgiven, fun t => ?_⟩
      simp
    | none =>
      by_cases hclear : step = .clear
      · rw [hclear]
        exact ⟨none, h.ofEmpty, by simp⟩
      · refine ⟨text, (h.kept _ _ hgiven hclear).trans hfield, fun t => ?_⟩
        simp [htext, hclear]

/-! ## Texts in a report -/

/-- Puts texts into a report, each under its name, where there is one. -/
def putTexts (texts : List (String × Option String)) (report : List (Value × Value)) :
    List (Value × Value) :=
  texts.foldl (fun report e => putText e.1 e.2 report) report

/-- A report has the given text under a name, and what the event had there if no text is given. -/
def HasText (event report : List (Value × Value)) (name : String) (text : Option String) : Prop :=
  Value.lookup name report = (text.map Value.text).or (Value.lookup name event)

/-- A key is a text other than the given names, or no text. -/
def isOther (names : List String) : Value → Bool
  | .text s => !names.contains s
  | _ => true

theorem hasText_putText (event : List (Value × Value)) (name : String) (text : Option String) :
    HasText event (putText name text event) name text := by
  cases text with
  | none => rfl
  | some t =>
    rw [HasText, putText, put, Value.lookup_putEntry, if_pos rfl]
    rfl

theorem lookup_putText_of_ne {key name : String} (h : name ≠ key) (text : Option String)
    (event : List (Value × Value)) :
    Value.lookup key (putText name text event) = Value.lookup key event := by
  cases text with
  | none => rfl
  | some t => exact Value.lookup_putEntry_of_ne h _ event

theorem lookup_putTexts_of_not_mem {texts : List (String × Option String)} {key : String}
    (h : key ∉ texts.map Prod.fst) (event : List (Value × Value)) :
    Value.lookup key (putTexts texts event) = Value.lookup key event := by
  induction texts generalizing event with
  | nil => rfl
  | cons e rest ih =>
    rw [List.map_cons, List.mem_cons, not_or] at h
    have hfirst := lookup_putText_of_ne (Ne.symm h.1) e.2 event
    exact (ih h.2 (putText e.1 e.2 event)).trans hfirst

/-- Texts that are put under distinct names are there, each under its own. -/
theorem hasText_putTexts {texts : List (String × Option String)}
    (hdistinct : (texts.map Prod.fst).Nodup) (event : List (Value × Value)) :
    ∀ e ∈ texts, HasText event (putTexts texts event) e.1 e.2 := by
  induction texts generalizing event with
  | nil => exact List.forall_mem_nil _
  | cons e rest ih =>
    rw [List.map_cons, List.nodup_cons] at hdistinct
    rw [List.forall_mem_cons]
    constructor
    · -- The others are put after it, under other names.
      have hrest := lookup_putTexts_of_not_mem hdistinct.1 (putText e.1 e.2 event)
      exact hrest.trans (hasText_putText event e.1 e.2)
    · intro later hmem
      have hne : e.1 ≠ later.1 := by
        intro h
        exact hdistinct.1 (h ▸ List.mem_map_of_mem hmem)
      have hlater := ih hdistinct.2 (putText e.1 e.2 event) later hmem
      rw [HasText, lookup_putText_of_ne hne] at hlater
      exact hlater

/-- Putting texts leaves all entries under other keys, in their order. -/
theorem filter_putTexts (texts : List (String × Option String)) {names : List String}
    (h : ∀ e ∈ texts, e.1 ∈ names) (event : List (Value × Value)) :
    (putTexts texts event).filter (fun e => isOther names e.1) =
      event.filter fun e => isOther names e.1 := by
  induction texts generalizing event with
  | nil => rfl
  | cons e rest ih =>
    obtain ⟨name, text⟩ := e
    rw [List.forall_mem_cons] at h
    have hname : isOther names (.text name) = false := by simpa [isOther] using h.1
    have hfirst : (putText name text event).filter (fun e => isOther names e.1) =
        event.filter fun e => isOther names e.1 := by
      cases text with
      | none => rfl
      | some t => exact Value.filter_putEntry hname _ event
    exact (ih h.2 (putText name text event)).trans hfirst

/-! ## The name of a logger -/

/-- A text is the part of a name before its first dot. -/
def BeforeDot (part name : String) : Prop :=
  '.' ∉ part.toList ∧ ∃ rest, name.toList = part.toList ++ '.' :: rest

/-- The service that a logger belongs to. -/
def serviceOf (logger : Option String) : Option String :=
  logger.bind fun name =>
    if name.toList.contains '.' then some (String.ofList (name.toList.takeWhile (· != '.')))
    else none

theorem takeWhile_eq_of_beforeDot {part name : String} (h : BeforeDot part name) :
    name.toList.takeWhile (· != '.') = part.toList := by
  obtain ⟨hpart, rest, hname⟩ := h
  have hall : ∀ c ∈ part.toList, (c != '.') = true := by
    intro c hc
    exact bne_iff_ne.mpr fun hdot => hpart (hdot ▸ hc)
  rw [hname, List.takeWhile_append_of_pos hall, List.takeWhile_cons_of_neg (by decide),
    List.append_nil]

theorem serviceOf_eq_some_iff {logger : Option String} {part : String} :
    serviceOf logger = some part ↔ ∃ name, logger = some name ∧ BeforeDot part name := by
  unfold serviceOf
  rw [Option.bind_eq_some_iff]
  refine exists_congr fun name => and_congr_right fun _ => ?_
  rw [Option.ite_none_right_eq_some, Option.some.injEq, List.contains_iff_mem]
  constructor
  · rintro ⟨hdot, rfl⟩
    obtain ⟨part, rest, hsplit, hpart⟩ := List.eq_append_cons_of_mem hdot
    have h : BeforeDot (String.ofList part) name := by
      rw [BeforeDot, String.toList_ofList]
      exact ⟨hpart, rest, hsplit⟩
    rw [takeWhile_eq_of_beforeDot h, String.ofList_toList]
    exact h
  · intro h
    have hname := takeWhile_eq_of_beforeDot h
    obtain ⟨-, rest, hsplit⟩ := h
    refine ⟨?_, ?_⟩
    · rw [hsplit]
      exact List.mem_append_right _ List.mem_cons_self
    · rw [hname, String.ofList_toList]

/-! ## Reports -/

/-- A report is given the service of its logger, if the logger's name is a text. -/
theorem addService_eq {event : List (Value × Value)} {logger : Option String}
    (h : Value.lookup "logger" event = logger.map Value.text) :
    addService event = .ok (putText "service" (serviceOf logger) event) := by
  unfold addService
  rw [Value.fieldOr, h]
  cases logger with
  | none => rfl
  | some name =>
    dsimp only [Option.map_some, Option.getD_some]
    rw [serviceOf, Option.bind_some]
    split_ifs <;> rfl

/-- A text that counts as true is one that is not empty. -/
theorem putTruthy_textOrNull (name : String) (text : Option String)
    (event : List (Value × Value)) :
    putTruthy name (textOrNull text) event = putText name (text.filter (· ≠ "")) event := by
  cases text with
  | none => rfl
  | some t =>
    by_cases ht : t = ""
    · rw [ht]
      rfl
    · have htruthy : (textOrNull (some t)).truthy = true := by
        simpa [textOrNull, Value.truthy] using ht
      have hfilter : (some t).filter (· ≠ "") = some t := by simp [ht]
      rw [putTruthy, if_pos htruthy, hfilter]
      rfl

/-- The fields in which a report says its context. -/
def contextFields : List String :=
  ["service", "trace_id", "span_id", "request_id", "form_slug"]

/-- What is put into a report: the service of the logger, the numbers of the span, and the id and
the slug unless they are empty. -/
def contextTexts (logger : Option String) (span : Option Span) (id slug : Option String) :
    List (String × Option String) :=
  [("service", serviceOf logger), ("trace_id", span.bind (·.traceText?)),
    ("span_id", span.bind (·.spanText?)), ("request_id", id.filter (· ≠ "")),
    ("form_slug", slug.filter (· ≠ ""))]

theorem names_contextTexts (logger : Option String) (span : Option Span) (id slug : Option String) :
    (contextTexts logger span id slug).map Prod.fst = contextFields := rfl

/-- A report is completed by putting texts under five names. -/
theorem complete_eq {c : LogContext} {event : List (Value × Value)} {logger id slug : Option String}
    (hlogger : Value.lookup "logger" event = logger.map Value.text)
    (hid : c.requestId = textOrNull id) (hslug : c.formSlug = textOrNull slug)
    (span : Option Span) :
    c.complete span event = .ok (putTexts (contextTexts logger span id slug) event) := by
  rw [complete, addService_eq hlogger, Except.map, addServed, hid, hslug, putTruthy_textOrNull,
    putTruthy_textOrNull, addSpan]
  rfl

/-- A report is an event with its whole context: what the steps set since the last clearing, the
service of the logger, and the numbers of the current span. -/
structure Completes (steps : List Step) (span : Option Span) (logger : Option String)
    (event report : List (Value × Value)) : Prop where
  /-- The id that was set last, unless it is empty. -/
  request : ∃ id, (∀ t, id = some t ↔ t ≠ "" ∧ GaveLast Step.requestId? steps t) ∧
    HasText event report "request_id" id
  /-- The last slug that is not empty. -/
  form : ∃ slug, (∀ t, slug = some t ↔ GaveLast Step.formSlug? steps t) ∧
    HasText event report "form_slug" slug
  service : ∃ part, (∀ t, part = some t ↔ ∃ name, logger = some name ∧ BeforeDot t name) ∧
    HasText event report "service" part
  /-- The trace is the one that the answer to a failed request mentions. -/
  trace : ∃ text, Span.Writes span (·.traceId) 32 text ∧
    (∀ (e : ServiceError) r, e.response span = .ok r → r.traceId = text) ∧
    HasText event report "trace_id" text
  span : ∃ text, Span.Writes span (·.spanId) 16 text ∧ HasText event report "span_id" text
  others : report.filter (fun e => isOther contextFields e.1) =
    event.filter fun e => isOther contextFields e.1

/-- The answer to a failed request mentions the trace of the current span. -/
theorem traceId_of_response {e : ServiceError} {span : Option Span} {r : ErrorResponse}
    (h : e.response span = .ok r) : r.traceId = span.bind (·.traceText?) := by
  unfold ServiceError.response at h
  dsimp only at h
  split at h
  · rw [← Except.ok.inj h]
  · cases h

/-- Reports follow the context. After any steps that set the context or cleared it, any event whose
logger, if it has one, is named by a text is completed by what was set last since the last clearing,
by the service and by the current span, and nothing else in it changes. -/
theorem reports_follow_context (steps : List Step) (span : Option Span) (logger : Option String)
    (event : List (Value × Value)) (hlogger : Value.lookup "logger" event = logger.map Value.text) :
    ∃ report, (after steps).complete span event = .ok report ∧
      Completes steps span logger event report := by
  obtain ⟨id, hid, hrequest⟩ := tracks_requestId.after steps
  obtain ⟨slug, hslug, hform⟩ := tracks_formSlug.after steps
  refine ⟨_, complete_eq hlogger hid hslug span, ?_⟩
  have hnames := names_contextTexts logger span id slug
  have hdistinct : contextFields.Nodup := by decide
  have hfields := hasText_putTexts (hnames ▸ hdistinct) event
  simp only [contextTexts, List.forall_mem_cons, List.not_mem_nil, false_implies, implies_true,
    and_true] at hfields
  obtain ⟨hservice, htrace, hspan, hrequestId, hformSlug⟩ := hfields
  have hothers : ∀ e ∈ contextTexts logger span id slug, e.1 ∈ contextFields := by
    intro e he
    exact hnames ▸ List.mem_map_of_mem he
  have hfilter (text : Option String) (t : String) :
      text.filter (· ≠ "") = some t ↔ t ≠ "" ∧ text = some t := by
    rw [Option.filter_eq_some_iff, decide_eq_true_iff, and_comm]
  -- No slug that a step gives is empty, so that nothing is lost when empty ones are left out.
  have hnonempty (t : String) (ht : GaveLast Step.formSlug? steps t) : t ≠ "" := by
    obtain ⟨step, hstep⟩ := ht.exists_step
    exact (Step.formSlug?_eq_some_iff.mp hstep).1
  exact {
    request := ⟨_, fun t => by rw [hfilter, hrequest], hrequestId⟩
    form := ⟨_, fun t => by rw [hfilter, hform, and_iff_right_of_imp (hnonempty t)], hformSlug⟩
    service := ⟨_, fun t => serviceOf_eq_some_iff, hservice⟩
    trace := ⟨_, Span.writes (by decide) span (·.traceId), fun _ _ => traceId_of_response, htrace⟩
    span := ⟨_, Span.writes (by decide) span (·.spanId), hspan⟩
    others := filter_putTexts _ hothers event }

/-- An empty id takes the place of the one before it, and so the event keeps its own. An empty slug
takes the place of none. Of the span only the trace has a number. -/
theorem reports_follow_context_emptied :
    let steps : List Step := [.setRequest "a", .setForm (some "old"), .clear,
      .setForm (some "intake"), .setRequest "b", .setForm (some ""), .setForm none, .setRequest ""]
    let span : Option Span := some ⟨255, 0, true⟩
    let event : List (Value × Value) := [(.text "logger", .text "routing.engine.rules"),
      (.text "request_id", .text "own"), (.int 1, .null)]
    let report : List (Value × Value) := event ++ [(.text "service", .text "routing"),
      (.text "trace_id", .text "000000000000000000000000000000ff"),
      (.text "form_slug", .text "intake")]
    Value.lookup "logger" event = some (.text "routing.engine.rules") ∧
      (after steps).complete span event = .ok report ∧
      Completes steps span (some "routing.engine.rules") event report := by
  intro steps span event report
  have hlogger : Value.lookup "logger" event = some (.text "routing.engine.rules") := rfl
  have hreport : (after steps).complete span event = .ok report := by cbv
  obtain ⟨result, hresult, hcompletes⟩ :=
    reports_follow_context steps span (some "routing.engine.rules") event hlogger
  obtain rfl := Except.ok.inj (hreport.symm.trans hresult)
  exact ⟨hlogger, hreport, hcompletes⟩

end LogContext

end FormRouting
