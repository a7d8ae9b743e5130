import FormRouting.Proofs.Check.Definition

/-!
# Reports without problems

What it takes for the check of a whole document to find no problem. Adding the problems of a form to
a report adds up, and a name that was there before counts as one more (`size_add`). So a report is
empty exactly when every definition is without problems and the names are distinct
(`clean_iff`).
-/

namespace FormRouting.Check

namespace Report

theorem size_cons (name : String) (problems : List Problem) (report : Report) :
    size ((name, problems) :: report) = problems.length + size report := rfl

/-- Adding problems adds up, and a repeated name is a problem itself. -/
theorem size_add (name : String) (problems : List Problem) (report : Report) :
    (report.add name problems).size =
      report.size + problems.length + if name ∈ report.map Prod.fst then 1 else 0 := by
  induction report with
  | nil => simp [add, size]
  | cons e rest ih =>
    obtain ⟨first, listed⟩ := e
    rw [add, List.map_cons]
    by_cases hname : first = name
    · rw [if_pos hname, if_pos (hname ▸ List.mem_cons_self), size_cons, size_cons]
      simp only [List.length_append, List.length_singleton]
      omega
    · have hmem : name ∈ first :: rest.map Prod.fst ↔ name ∈ rest.map Prod.fst := by
        rw [List.mem_cons]
        exact or_iff_right (Ne.symm hname)
      rw [if_neg hname, size_cons, size_cons, ih]
      simp only [hmem]
      omega

/-- A report names what it named before and the new name. -/
theorem mem_names_add {name other : String} {problems : List Problem} {report : Report} :
    other ∈ (report.add name problems).map Prod.fst ↔
      other = name ∨ other ∈ report.map Prod.fst := by
  induction report with
  | nil => simp [add]
  | cons e rest ih =>
    obtain ⟨first, listed⟩ := e
    rw [add, List.map_cons, List.mem_cons]
    by_cases hname : first = name
    · rw [if_pos hname, List.map_cons, List.mem_cons, hname, or_self_left]
    · rw [if_neg hname, List.map_cons, List.mem_cons, ih, or_left_comm]

end Report

/-- The names that definitions have in a report, where the first one has the given place. -/
def NamedFrom : ℕ → List Value → List String → Prop
  | _, [], names => names = []
  | index, d :: rest, names =>
    ∃ name later, nameOf index d = .ok name ∧ NamedFrom (index + 1) rest later ∧
      names = name :: later

/-- Checking definitions finds no problem exactly when there was none before, there is none in any of
them, and their names are fresh. -/
theorem definitionsFrom_clean_iff {index : ℕ} {report : Report} {definitions : List Value} :
    (∃ result, definitionsFrom index report definitions = .ok result ∧ result.size = 0) ↔
      report.size = 0 ∧ (∀ d ∈ definitions, definition d = .ok []) ∧
        ∃ names, NamedFrom index definitions names ∧ Fresh (report.map Prod.fst) names := by
  induction definitions generalizing index report with
  | nil =>
    simp [definitionsFrom, NamedFrom, Fresh]
  | cons d rest ih =>
    unfold definitionsFrom
    -- What the report names is seen when the rest is checked, the name of `d` among it.
    have hseen : ∀ name problems names, Fresh ((report.add name problems).map Prod.fst) names ↔
        Fresh (name :: report.map Prod.fst) names := by
      intro name problems names
      refine fresh_congr fun other => ?_
      rw [Report.mem_names_add, List.mem_cons]
    constructor
    · rintro ⟨result, h, hsize⟩
      obtain ⟨name, hname, h⟩ := bind_eq_ok_iff.mp h
      obtain ⟨problems, hproblems, h⟩ := bind_eq_ok_iff.mp h
      obtain ⟨hadded, hrest, names, hnames, hfresh⟩ := ih.mp ⟨result, h, hsize⟩
      rw [Report.size_add] at hadded
      have hnone : problems = [] := List.length_eq_zero_iff.mp (by omega)
      have hnew : name ∉ report.map Prod.fst := by
        intro hmem
        rw [if_pos hmem] at hadded
        omega
      refine ⟨by omega, ?_, name :: names, ⟨name, names, hname, hnames, rfl⟩, ?_⟩
      · rw [List.forall_mem_cons]
        exact ⟨hnone ▸ hproblems, hrest⟩
      · exact fresh_cons_iff.mpr ⟨hnew, (hseen _ _ _).mp hfresh⟩
    · rintro ⟨hsize, hclean, _, ⟨name, names, hname, hnames, rfl⟩, hfresh⟩
      rw [List.forall_mem_cons] at hclean
      obtain ⟨hnew, hfresh⟩ := fresh_cons_iff.mp hfresh
      have hadded : (report.add name []).size = 0 := by
        rw [Report.size_add, hsize, if_neg hnew]
        rfl
      obtain ⟨result, hresult, hzero⟩ :=
        ih.mpr ⟨hadded, hclean.2, names, hnames, (hseen _ _ _).mpr hfresh⟩
      exact ⟨result, bind_eq_ok_iff.mpr ⟨name, hname, bind_eq_ok_iff.mpr ⟨[], hclean.1, hresult⟩⟩,
        hzero⟩

/-- The check of a document ends with success exactly when it lists definitions that are without
problems and have distinct names. -/
theorem clean_iff {path : String} {d : Value} :
    (∃ report, document path d = .ok report ∧ report.exitStatus = 0) ↔
      ∃ definitions, Definitions.ofDocument? d = some definitions ∧
        (∀ definition ∈ definitions, Check.definition definition = .ok []) ∧
        ∃ names, NamedFrom 0 definitions names ∧ names.Nodup := by
  have hexit : ∀ report : Report, report.exitStatus = 0 ↔ report.size = 0 := by
    intro report
    unfold Report.exitStatus
    split_ifs with h
    · exact iff_of_true rfl h
    · exact iff_of_false (by decide) h
  simp only [hexit]
  unfold document
  cases Definitions.ofDocument? d with
  | none => simp [Report.size]
  | some definitions =>
    simp only [Option.some.injEq, exists_eq_left']
    rw [definitionsFrom_clean_iff]
    simp only [List.map_nil, fresh_nil_left_iff, Report.size, List.foldr_nil, true_and]

end FormRouting.Check
