import FormRouting.Proofs.Service.Counting

/-!
# Requests and their ids

What a client and an operator can rely on for every request of a run, whatever steps and faults come
between: the reply has the id of the request, and the request is counted under its method, its path and
its status, so that the counter adds up to the number of requests. There is one exception
(`requests_are_labelled_and_counted_unless_lost`): a request that fails in a way that nothing expects
is answered without its id, and is not counted.
-/

namespace FormRouting.Service

open Ledger (everyAccount_eq)

/-- Every reply of a run is that of a hop, and every hop has the id of its request in its reply and is
counted under its method, its path and its status, and under these only, unless it is lost. So the
counter of requests adds up to the number of hops that are not lost. A hop that is lost has no id in
its reply. -/
theorem requests_are_labelled_and_counted_unless_lost (config : Config) (store : MemoryStore)
    (steps : List Step) :
    let s := start config store
    let counted := (s.hops steps).filter fun hop => !decide hop.Lost
    (∀ reply ∈ replies ((s.run steps).2.map (·.2)), ∃ hop ∈ s.hops steps, hop.reply = reply) ∧
      (∀ hop ∈ s.hops steps, hop.Labelled) ∧
      (s.run steps).1.metrics.total Metrics.requests = counted.length ∧
      ∀ key, (s.run steps).1.metrics.Counts Metrics.requests key
        ((counted.map Hop.labels).count key) := by
  intro s counted
  obtain ⟨hreplies, hlabelled⟩ := s.labelled_hops steps
  obtain ⟨marks, hrun, hkeys⟩ := s.exists_adds_run steps
  have hkeeps := (hrun [] Metrics.tallies_start).keeps
  rw [List.nil_append] at hkeeps
  have haccount : ⟨Metrics.requests, .counter, ["method", "endpoint", "status_code"]⟩ ∈
      Ledger.everyAccount := by simp [everyAccount_eq]
  refine ⟨hreplies, hlabelled, ?_, fun key => ?_⟩
  · calc (s.run steps).1.metrics.total Metrics.requests
        = (Ledger.keysOf Metrics.requests marks).length := hkeeps.total_eq haccount rfl
      _ = counted.length := by
          rw [hkeys]
          exact List.length_map _
  · have hcounts := hkeeps.counts haccount key
    rw [← Ledger.count_keysOf, hkeys] at hcounts
    exact hcounts

/-- A service without forms. -/
def desk : Service :=
  start ⟨"test", "INFO", "memory", "", none, 10, "Thank you", "routing", 8013, "0.0.0.0"⟩
    (.ofForms [] none)

/-- A check of the health whose path ends in a slash is sent on to the path without it. Each of the two
hops is counted. -/
theorem requests_are_labelled_and_counted_unless_lost_redirect :
    let steps : List Step := [.request ⟨"GET", "/health/", [("X-Request-ID", "abc")], "", "1"⟩]
    let metrics := (desk.run steps).1.metrics
    metrics.total Metrics.requests = 2 ∧
      metrics.Counts Metrics.requests ["GET", "/health/", "307"] 1 ∧
      metrics.Counts Metrics.requests ["GET", "/health", "200"] 1 := by
  intro steps metrics
  have hlabels : ((desk.hops steps).filter fun hop => !decide hop.Lost).map Hop.labels =
      [["GET", "/health/", "307"], ["GET", "/health", "200"]] := by decide +kernel
  have hdesk : start desk.config desk.store = desk := rfl
  obtain ⟨-, -, htotal, hcounts⟩ :=
    requests_are_labelled_and_counted_unless_lost desk.config desk.store steps
  have hsent := hcounts ["GET", "/health/", "307"]
  have hchecked := hcounts ["GET", "/health", "200"]
  rw [hdesk, ← List.length_map Hop.labels, hlabels] at htotal
  rw [hdesk, hlabels] at hsent hchecked
  exact ⟨htotal, hsent, hchecked⟩

/-- A visit that sends an id. -/
def visit : Request :=
  ⟨"GET", "/forms/x", [("X-Request-ID", "abc")], "", "1"⟩

/-- When the store fails in a way that nothing expects, the reply to a visit does not have the id that
the visit sent, and the visit is not counted. -/
theorem lost_visit_is_not_counted :
    let s := desk.addFault .getForm (.unforeseen "boom")
    visit.header? "x-request-id" = some "abc" ∧ (s.serve visit).2.2.status = 500 ∧
      (s.serve visit).2.2.requestId = none ∧
      (s.serve visit).1.metrics.total Metrics.requests = 0 := by
  intro s
  refine ⟨?_, ?_, ?_, ?_⟩
  · decide +kernel
  · decide +kernel
  · decide +kernel
  · decide +kernel

end FormRouting.Service
