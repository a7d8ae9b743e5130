import FormRouting.Proofs.Service.Stateless

/-!
# The steps of handling a submission

A submission is handled in three steps: its form is loaded, its answers are judged, and its record is
kept. Only the first and the last of them touch the store, each by one call. `Service.advance` takes
one step, and `advance_thrice` says that three of them with nothing in between are `Service.submit`.
A submission that takes its steps at a service where other things go on is compared with one that is
handled alone: `Service.Handled` says that it has come as far as it would have alone, and
`Handled.advance` that a step keeps this, whatever has happened to the service in between.
-/

namespace FormRouting

/-- A submission that is to be handled: the slug of its form, and what is submitted. -/
structure Attempt where
  slug : String
  request : SubmissionRequest

/-- The record of an attempt about which a form came to a verdict. -/
def Attempt.record (a : Attempt) (form : Form) (verdict : Verdict) : Submission :=
  .ofDecision form.id (.map a.request.answers) verdict.decision a.request.email a.request.name

/-- How far the handling of an attempt has come. -/
inductive Progress where
  | arrived
  | loaded (form : Form)
  | decided (form : Form) (verdict : Verdict)
  | answered (result : Except Failure DecisionResponse)

/-- The number of steps after which an attempt can be where it is. -/
def Progress.steps : Progress → ℕ
  | .arrived => 0
  | .loaded _ => 1
  | .decided _ _ => 2
  | .answered _ => 3

theorem Progress.answered_of_steps {p : Progress} (h : 3 ≤ p.steps) :
    ∃ result, p = .answered result := by
  cases p with
  | answered result => exact ⟨result, rfl⟩
  | _ => simp [steps] at h

namespace Service

/-! ## The steps of one submission -/

/-- Takes the next step of an attempt. Once the attempt is answered no step is left. -/
def advance (s : Service) (a : Attempt) : Progress → Service × Progress
  | .arrived =>
    let loaded := s.loadForm a.slug
    (loaded.service, match loaded.result with
      | .ok form => .loaded form
      | .error failure => .answered (.error failure))
  | .loaded form =>
    let judged := s.judge form a.request.answers
    (judged.service, match judged.result with
      | .ok verdict => .decided form verdict
      | .error failure => .answered (.error failure))
  | .decided form verdict =>
    let recorded := s.recordSubmission form verdict.decision (a.record form verdict)
    (recorded.service, .answered (recorded.result.map fun () =>
      .ofDecision verdict.decision s.config.defaultMessage))
  | .answered result => (s, .answered result)

/-- The record that the next step of an attempt keeps, if it keeps one. -/
def kept? (s : Service) (a : Attempt) : Progress → Option Submission
  | .decided form verdict =>
    match s.calling .recordSubmission () with
    | .ok () => some (a.record form verdict)
    | .error _ => none
  | _ => none

theorem service_loadForm (s : Service) (slug : String) : (s.loadForm slug).service = s := by
  rcases s.loadForm_cases slug with ⟨form, -, hload⟩ | ⟨reports, failure, hload, -⟩
  · rw [hload]
    rfl
  · rw [hload]

section

variable {s : Service} {a : Attempt} {form : Form}

/-! ### Loading -/

theorem advance_of_found (h : (s.loadForm a.slug).result = .ok form) :
    s.advance a .arrived = (s, .loaded form) := by
  unfold advance
  dsimp only
  rw [service_loadForm, h]

theorem advance_of_missing {failure : Failure} (h : (s.loadForm a.slug).result = .error failure) :
    s.advance a .arrived = (s, .answered (.error failure)) := by
  unfold advance
  dsimp only
  rw [service_loadForm, h]

/-- A submission whose form cannot be loaded ends with this. -/
theorem submit_of_missing {failure : Failure} (h : (s.loadForm a.slug).result = .error failure) :
    (s.submit a.slug a.request).service = s ∧
      (s.submit a.slug a.request).result = .error failure := by
  unfold submit
  rw [Worked.andThen_of_error h]
  exact ⟨s.service_loadForm a.slug, rfl⟩

/-- A submission whose form can be loaded is handled with this form. -/
theorem submit_of_found (h : (s.loadForm a.slug).result = .ok form) :
    (s.submit a.slug a.request).service = (s.submitTo form a.request).service ∧
      (s.submit a.slug a.request).result = (s.submitTo form a.request).result := by
  unfold submit
  rw [Worked.andThen_of_ok h, service_loadForm]
  exact ⟨rfl, rfl⟩

/-! ### Judging -/

theorem advance_of_valid {verdict : Verdict}
    (h : judgement s.config form a.request.answers = .ok verdict) :
    s.advance a (.loaded form) =
      ((s.judge form a.request.answers).service, .decided form verdict) := by
  unfold advance
  dsimp only
  rw [(s.judge_onlyCounts form a.request.answers).result, h]

theorem advance_of_invalid {failure : Failure}
    (h : judgement s.config form a.request.answers = .error failure) :
    s.advance a (.loaded form) =
      ((s.judge form a.request.answers).service, .answered (.error failure)) := by
  unfold advance
  dsimp only
  rw [(s.judge_onlyCounts form a.request.answers).result, h]

/-- Judging changes nothing but what is counted. -/
theorem countsOnly_advance (s : Service) (a : Attempt) (form : Form) :
    s.CountsOnly (s.advance a (.loaded form)).1 :=
  (s.judge_onlyCounts form a.request.answers).service

end

/-- Three steps of an attempt with nothing in between are the handling of its submission. -/
theorem advance_thrice (s : Service) (a : Attempt) :
    (fun now : Service × Progress => now.1.advance a now.2)^[3] (s, .arrived) =
      ((s.submit a.slug a.request).service, .answered (s.submit a.slug a.request).result) := by
  -- The cases are where a submission can end: without a form, without a verdict, or with the call.
  show ((s.advance a .arrived).1.advance a (s.advance a .arrived).2).1.advance a
    ((s.advance a .arrived).1.advance a (s.advance a .arrived).2).2 = _
  cases hload : (s.loadForm a.slug).result with
  | error failure =>
    obtain ⟨hservice, hresult⟩ := submit_of_missing hload
    rw [advance_of_missing hload, hservice, hresult]
    rfl
  | ok form =>
    obtain ⟨hservice, hresult⟩ := submit_of_found hload
    rw [advance_of_found hload, hservice, hresult]
    dsimp only
    cases hverdict : judgement s.config form a.request.answers with
    | error failure =>
      obtain ⟨hservice, -, hresult⟩ := s.submitTo_of_error hverdict
      rw [advance_of_invalid hverdict, hservice, hresult]
      rfl
    | ok verdict =>
      obtain ⟨hservice, -, hresult⟩ := s.submitTo_of_ok hverdict
      have hjudged := (s.judge_onlyCounts form a.request.answers).service
      rw [advance_of_valid hverdict, hservice, hresult]
      unfold advance
      dsimp only
      rw [result_recordSubmission, hjudged.calling_eq, hjudged.sameSettings.config]
      rfl

/-- A step changes no settings and arranges no faults. -/
theorem sameSettings_advance (s : Service) (a : Attempt) (p : Progress) :
    s.SameSettings (s.advance a p).1 := by
  cases p with
  | arrived =>
    have hservice : (s.advance a .arrived).1 = s := s.service_loadForm a.slug
    rw [hservice]
    exact .refl s
  | loaded form => exact (s.countsOnly_advance a form).sameSettings
  | decided form verdict =>
    show s.SameSettings (s.recordSubmission form verdict.decision (a.record form verdict)).service
    cases hcall : s.calling .recordSubmission () with
    | error failure =>
      rw [service_recordSubmission_of_error _ _ _ _ hcall]
      exact .refl s
    | ok done =>
      have hcounts := countsOnly_recordSubmission s form verdict.decision (a.record form verdict) hcall
      exact ⟨hcounts.sameSettings.config, hcounts.sameSettings.faults⟩
  | answered result => exact .refl s

/-- A step changes the store by the record that it keeps, and by nothing else. -/
theorem store_advance (s : Service) (a : Attempt) (p : Progress) :
    (s.advance a p).1.store = (s.kept? a p).toList.foldl .record s.store := by
  cases p with
  | arrived => exact congrArg Service.store (s.service_loadForm a.slug)
  | loaded form => exact (s.countsOnly_advance a form).store_eq
  | decided form verdict =>
    show (s.recordSubmission form verdict.decision (a.record form verdict)).service.store = _
    unfold kept?
    cases hcall : s.calling .recordSubmission () with
    | error failure =>
      rw [service_recordSubmission_of_error _ _ _ _ hcall]
      rfl
    | ok done =>
      exact (countsOnly_recordSubmission s form verdict.decision (a.record form verdict) hcall).store_eq
  | answered result => rfl

/-- Each step brings an attempt further, until it is answered. -/
theorem steps_advance (s : Service) (a : Attempt) (p : Progress) :
    min 3 (p.steps + 1) ≤ (s.advance a p).2.steps := by
  cases p with
  | arrived =>
    cases hload : (s.loadForm a.slug).result with
    | error failure => simp [advance_of_missing hload, Progress.steps]
    | ok form => simp [advance_of_found hload, Progress.steps]
  | loaded form =>
    cases hverdict : judgement s.config form a.request.answers with
    | error failure => simp [advance_of_invalid hverdict, Progress.steps]
    | ok verdict => simp [advance_of_valid hverdict, Progress.steps]
  | decided form verdict => simp [advance, Progress.steps]
  | answered result => simp [advance, Progress.steps]

/-! ## Handling alone -/

/-- The service with nothing in its store but a form under a slug, or nothing at all, and with no
limit to the records that are kept. -/
def holding (s : Service) (slug : String) (version : Option Form) : Service :=
  { s with store := ⟨(version.map (slug, ·)).toList, [], none⟩ }

theorem get?_holding (s : Service) (slug : String) (version : Option Form) :
    (s.holding slug version).store.get? slug = version := by
  cases version with
  | none => rfl
  | some form => exact List.lookup_cons_self

/-- How far an attempt has come, and which records were kept of it, is what its handling by a service
alone leads to. -/
def Handled (t : Service) (a : Attempt) (records : List Submission) : Progress → Prop
  | .arrived => records = []
  | .loaded form => records = [] ∧ (t.loadForm a.slug).result = .ok form
  | .decided form verdict =>
    records = [] ∧ (t.loadForm a.slug).result = .ok form ∧
      judgement t.config form a.request.answers = .ok verdict
  | .answered result =>
    result = (t.submit a.slug a.request).result ∧
      records = (t.submit a.slug a.request).service.store.submissions

/-- A store has no records yet, and would keep any number of them. -/
structure Blank (store : MemoryStore) : Prop where
  submissions : store.submissions = []
  limit : store.limit = none

/-- Such a store keeps the record that it is given, and nothing else. -/
theorem Blank.submissions_record {store : MemoryStore} (h : Blank store)
    (record : Option Submission) :
    (record.toList.foldl .record store).submissions = record.toList := by
  cases record with
  | none => exact h.submissions
  | some record =>
    show MemoryStore.keep store.limit (record :: store.submissions) = [record]
    rw [h.limit, h.submissions]
    rfl

variable {s t : Service} {a : Attempt}

/-- A submission about which its form comes to a verdict ends with the call that keeps its record. -/
theorem submit_of_decided {form : Form} {verdict : Verdict} (ht : Blank t.store)
    (hload : (t.loadForm a.slug).result = .ok form)
    (hverdict : judgement t.config form a.request.answers = .ok verdict) :
    (t.submit a.slug a.request).result = (t.calling .recordSubmission ()).map (fun () =>
        .ofDecision verdict.decision t.config.defaultMessage) ∧
      (t.submit a.slug a.request).service.store.submissions =
        (t.kept? a (.decided form verdict)).toList := by
  obtain ⟨hservice, hresult⟩ := submit_of_found hload
  have hjudged := (t.judge_onlyCounts form a.request.answers).service
  have hstore := (t.judge form a.request.answers).service.store_advance a (.decided form verdict)
  have hkept : (t.judge form a.request.answers).service.kept? a (.decided form verdict) =
      t.kept? a (.decided form verdict) := by
    unfold kept?
    dsimp only
    rw [hjudged.calling_eq]
  rw [hkept, hjudged.store_eq] at hstore
  constructor
  · rw [hresult, result_submitTo, hverdict]
    rfl
  · rw [hservice, (t.submitTo_of_ok hverdict).1]
    exact (congrArg MemoryStore.submissions hstore).trans (ht.submissions_record _)

/-- Handling alone keeps one record of a submission that is accepted, and none of any other. -/
theorem length_submissions_submit (ht : Blank t.store) :
    (t.submit a.slug a.request).service.store.submissions.length =
      if (t.submit a.slug a.request).result.isOk then 1 else 0 := by
  cases hload : (t.loadForm a.slug).result with
  | error failure =>
    obtain ⟨hservice, hresult⟩ := submit_of_missing hload
    rw [hservice, hresult, ht.submissions]
    rfl
  | ok form =>
    cases hverdict : judgement t.config form a.request.answers with
    | error failure =>
      obtain ⟨hservice, hresult⟩ := submit_of_found hload
      obtain ⟨hafter, -, hinvalid⟩ := t.submitTo_of_error hverdict
      have hstore := (t.judge_onlyCounts form a.request.answers).service.store_eq
      rw [hservice, hresult, hafter, hinvalid, hstore, ht.submissions]
      rfl
    | ok verdict =>
      obtain ⟨hresult, hrecords⟩ := submit_of_decided ht hload hverdict
      rw [hresult, hrecords]
      unfold kept?
      dsimp only
      cases t.calling .recordSubmission () with
      | error failure => rfl
      | ok done => rfl

/-- A step that an attempt takes at a service brings it as far as it would alone, if the two services
have the same settings and, for the first step, the same form. Nothing else of the service is looked
at. -/
theorem Handled.advance {records : List Submission} {p : Progress} (h : t.Handled a records p)
    (hsettings : t.SameSettings s) (ht : Blank t.store)
    (hstored : p = .arrived → s.store.get? a.slug = t.store.get? a.slug) :
    t.Handled a (records ++ (s.kept? a p).toList) (s.advance a p).2 := by
  cases p with
  | arrived =>
    obtain rfl : records = [] := h
    have hsame : SameFor a.slug t s :=
      ⟨hsettings.config, hstored rfl, fun call => by rw [hsettings.faults]⟩
    cases hload : (t.loadForm a.slug).result with
    | ok form =>
      rw [advance_of_found (hsame.loadForm_eq.trans hload)]
      exact ⟨rfl, hload⟩
    | error failure =>
      obtain ⟨hservice, hresult⟩ := submit_of_missing hload
      rw [advance_of_missing (hsame.loadForm_eq.trans hload)]
      refine ⟨hresult.symm, ?_⟩
      rw [hservice, ht.submissions]
      rfl
  | loaded form =>
    -- The form was loaded before, so the store of the service does not matter any more.
    obtain ⟨rfl, hload⟩ := h
    cases hverdict : judgement t.config form a.request.answers with
    | ok verdict =>
      rw [advance_of_valid (hsettings.config ▸ hverdict)]
      exact ⟨rfl, hload, hverdict⟩
    | error failure =>
      obtain ⟨hservice, hresult⟩ := submit_of_found hload
      obtain ⟨hafter, -, hinvalid⟩ := t.submitTo_of_error hverdict
      have hstore := (t.judge_onlyCounts form a.request.answers).service.store_eq
      rw [advance_of_invalid (hsettings.config ▸ hverdict)]
      refine ⟨(hresult.trans hinvalid).symm, ?_⟩
      rw [hservice, hafter, hstore, ht.submissions]
      rfl
  | decided form verdict =>
    obtain ⟨rfl, hload, hverdict⟩ := h
    obtain ⟨hresult, hrecords⟩ := submit_of_decided ht hload hverdict
    -- The faults of the service are those there were alone, so the call ends alike.
    have hcalling : s.calling .recordSubmission () = t.calling .recordSubmission () := by
      unfold calling
      rw [hsettings.faults]
    have hkept : s.kept? a (.decided form verdict) = t.kept? a (.decided form verdict) := by
      unfold kept?
      dsimp only
      rw [hcalling]
    refine ⟨?_, ?_⟩
    · show (s.recordSubmission form verdict.decision (a.record form verdict)).result.map _ = _
      rw [hresult, result_recordSubmission, hsettings.config, hcalling]
    · rw [hkept, hrecords]
      rfl
  | answered result =>
    have hnone : records ++ (s.kept? a (.answered result)).toList = records := List.append_nil _
    rw [hnone]
    exact h

end Service

end FormRouting
