import FormRouting.Proofs.Metrics.Ledger

/-!
# The tally of everything that is counted

The ledger of all metrics that count, the requests and the checks of the health among them
(`Ledger.everyAccount`), and what is added to it besides what the routing itself counts. Metrics of
which the ledgers are the same but for their order have counted the same (`Tallies.sameCounts`).
-/

namespace FormRouting

namespace Ledger

/-- The account of every metric that counts. -/
def everyAccount : List Account :=
  (Metrics.ofService Metrics.routingService).metrics.filterMap fun metric =>
    if metric.kind = .info then none else some ⟨metric.name, metric.kind, metric.labelNames⟩

theorem everyAccount_eq : everyAccount = [
    ⟨Metrics.requests, .counter, ["method", "endpoint", "status_code"]⟩,
    ⟨Metrics.requestDuration, .histogram, ["method", "endpoint"]⟩,
    ⟨Metrics.healthChecks, .counter, ["status"]⟩,
    ⟨Metrics.errors, .counter, ["error_type", "service"]⟩,
    ⟨Metrics.businessEvents, .counter, ["event_type", "service"]⟩,
    ⟨Metrics.decisions, .counter, ["outcome"]⟩,
    ⟨Metrics.validationFailures, .counter, ["error_code"]⟩,
    ⟨Metrics.unresolvableRules, .counter, []⟩,
    ⟨Metrics.evaluationDuration, .histogram, []⟩] :=
  rfl

theorem covers_everyAccount : Covers everyAccount :=
  ⟨⟨by decide, by decide⟩, by simp [accounts, everyAccount_eq]⟩

/-- What is counted for a request that was answered: the request, and how long it took. -/
def requestMarks (verb endpoint status : String) : Ledger :=
  [(Metrics.requests, [verb, endpoint, status]), (Metrics.requestDuration, [verb, endpoint])]

end Ledger

namespace Metrics

open Ledger (Account everyAccount everyAccount_eq covers_everyAccount)

/-- Two metrics have counted the same number under every name and all values of its labels. -/
def SameCounts (m m' : Metrics) : Prop :=
  ∀ a ∈ everyAccount, ∀ key, ∃ n, m.Counts a.name key n ∧ m'.Counts a.name key n

/-- The metrics of routing start out with every account empty. -/
theorem tallies_start : (ofService routingService).Tallies everyAccount [] where
  service := rfl
  keeps := by
    refine keeps_of_initial fun a ha => ?_
    simp only [everyAccount_eq, List.mem_cons, List.not_mem_nil, or_false] at ha
    rcases ha with rfl | rfl | rfl | rfl | rfl | rfl | rfl | rfl | rfl <;> exact ⟨rfl, by decide⟩

/-- Metrics that have counted the same marks, in whichever order, have counted the same numbers. -/
theorem Tallies.sameCounts {m m' : Metrics} {marks later : Ledger}
    (h : m.Tallies everyAccount marks) (h' : m'.Tallies everyAccount later)
    (hperm : later.Perm marks) : m.SameCounts m' := by
  intro a ha key
  refine ⟨_, h.keeps.counts ha key, ?_⟩
  rw [← hperm.count_eq]
  exact h'.keeps.counts ha key

/-- Recording a check of the health adds it. -/
theorem adds_recordHealth (m : Metrics) (status : String) :
    m.Adds (m.recordHealth (.text status)).1 everyAccount [(healthChecks, [status])] :=
  m.adds_update (a := ⟨healthChecks, .counter, ["status"]⟩) covers_everyAccount.separate
    (by simp [everyAccount_eq]) [status] rfl rfl
    (Metric.areWritable_zip_text ["status"] [status]) .one

/-- Recording a request adds the request and the time that it took. -/
theorem adds_recordRequest (m : Metrics) (verb endpoint status : String) :
    m.Adds (m.recordRequest (.text verb) (.text endpoint) (.text status) (.real .zero)).1 everyAccount
      (Ledger.requestMarks verb endpoint status) := by
  intro before h
  have hlabels : Metric.labelTexts [("method", .text verb), ("endpoint", .text endpoint),
      ("status_code", .text status)] = ["method", "endpoint", "status_code"].zip
        [verb, endpoint, status] := rfl
  obtain ⟨hcounted, htaken⟩ := h.keeps.update_of_texts covers_everyAccount.separate
    (a := ⟨requests, .counter, ["method", "endpoint", "status_code"]⟩) (by simp [everyAccount_eq])
    [verb, endpoint, status] rfl hlabels
    (Metric.areWritable_zip_text ["method", "endpoint", "status_code"] [verb, endpoint, status]) .one
  have hservice : (m.update requests [("method", .text verb), ("endpoint", .text endpoint),
    ("status_code", .text status)] (.add (.int 1))).1.service = routingService := h.service
  unfold recordRequest
  generalize m.update requests [("method", .text verb), ("endpoint", .text endpoint),
    ("status_code", .text status)] (.add (.int 1)) = counted at hcounted htaken hservice ⊢
  obtain ⟨counted, refused⟩ := counted
  -- The request was counted, so the time is observed next.
  obtain rfl : refused = none := htaken
  have htexts : Metric.labelTexts [("method", .text verb), ("endpoint", .text endpoint)] =
      ["method", "endpoint"].zip [verb, endpoint] := rfl
  have hobserved := counted.adds_update
    (a := ⟨requestDuration, .histogram, ["method", "endpoint"]⟩) covers_everyAccount.separate
    (by simp [everyAccount_eq]) [verb, endpoint] rfl htexts
    (Metric.areWritable_zip_text ["method", "endpoint"] [verb, endpoint]) .observed _
    ⟨hservice, hcounted⟩
  rw [List.append_assoc] at hobserved
  exact hobserved

end Metrics

end FormRouting
