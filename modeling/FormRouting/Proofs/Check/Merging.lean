import FormRouting.Proofs.Check.Malformed
import FormRouting.Proofs.Repetitions
import Mathlib

/-!
# Reports by name

A report lists problems by the names of forms, and several definitions may go by one name. Merging
them loses nothing (`merging_loses_nothing`): what is told of all definitions, one after the other
(`told`), is what the report lists, under each name what is told under it. A definition goes by no
name if its slug cannot be written, and then there is no report (`long_slug_is_not_reported`).

Adding a definition to a report that lists what was told before makes it list that and what is told
of the new one (`grouped_add`), so that the report of a whole document is `grouped` with nothing
seen and nothing told at the start (`definitionsFrom_grouped`). The numbers follow from the lists:
the names in a report are distinct and every problem is told under one of them, so the problems by
name are a permutation of those that are told (`perm_told`).
-/

namespace FormRouting.Check

variable {name : String} {problems : List Problem}

/-! ## Names -/

/-- A definition at a place in its list goes by a name: the text of its slug, or the place if it has
no slug. -/
inductive GoesBy (index : ℕ) : Value → String → Prop where
  | slug {entries : List (Value × Value)} {slug : Value} {name : String}
      (h : Value.lookup "slug" entries = some slug) (hname : slug.readText = .ok name) :
      GoesBy index (.map entries) name
  | place {entries : List (Value × Value)} (h : Value.lookup "slug" entries = none) :
      GoesBy index (.map entries) ("#" ++ toString index)

theorem GoesBy.nameOf_eq {index : ℕ} {d : Value} (h : GoesBy index d name) :
    nameOf index d = .ok name := by
  refine bind_eq_ok_iff.mpr ?_
  cases h with
  | @slug entries slug _ h hname =>
    refine ⟨entries, rfl, ?_⟩
    rw [Value.fieldOr_of_lookup h, hname]
  | @place entries h =>
    refine ⟨entries, rfl, ?_⟩
    rw [Value.fieldOr, h]
    rfl

/-- The slug of a definition, if it has one, has a text. -/
def SlugHasText (d : Value) : Prop :=
  ∀ entries slug, d = .map entries → Value.lookup "slug" entries = some slug →
    ∃ name, slug.readText = .ok name

/-- What can be checked is a record, and goes by a name if its slug has a text. -/
theorem exists_goesBy {d : Value} (h : definition d = .ok problems) (hslug : SlugHasText d)
    (index : ℕ) : ∃ name, GoesBy index d name := by
  obtain ⟨entries, hentries, -⟩ := bind_eq_ok_iff.mp h
  obtain rfl := Value.fields_eq_ok_iff.mp hentries
  cases hlookup : Value.lookup "slug" entries with
  | none => exact ⟨_, .place hlookup⟩
  | some slug =>
    obtain ⟨name, hname⟩ := hslug entries slug rfl hlookup
    exact ⟨name, .slug hlookup hname⟩

/-- Definitions, the first of which has the given place in the list, are found to go by names and to
have problems. -/
def Found (index : ℕ) (definitions : List Value) (found : List (String × List Problem)) : Prop :=
  List.Forall₂ (fun d e => GoesBy d.2 d.1 e.1 ∧ definition d.1 = .ok e.2) (definitions.zipIdx index)
    found

/-- Definitions that can be checked are found to have names and problems. -/
theorem exists_found (index : ℕ) {definitions : List Value}
    (h : ∀ d ∈ definitions, ∃ problems, definition d = .ok problems)
    (hslugs : ∀ d ∈ definitions, SlugHasText d) : ∃ found, Found index definitions found := by
  induction definitions generalizing index with
  | nil => exact ⟨[], .nil⟩
  | cons d rest ih =>
    rw [List.forall_mem_cons] at h hslugs
    obtain ⟨⟨problems, hproblems⟩, hrest⟩ := h
    obtain ⟨name, hname⟩ := exists_goesBy hproblems hslugs.1 index
    obtain ⟨found, hfound⟩ := ih (index + 1) hrest hslugs.2
    exact ⟨(name, problems) :: found, .cons ⟨hname, hproblems⟩ hfound⟩

/-! ## What is told -/

/-- What is told of a definition: its problems and, if its name was seen before, one more. -/
def toldOf (seen : List String) (name : String) (problems : List Problem) : List Problem :=
  problems ++ if name ∈ seen then [.duplicateSlug] else []

/-- The problems that are told of definitions, in their order, each with the name that it is told
under. -/
def told (seen : List String) : List (String × List Problem) → List (String × Problem)
  | [] => []
  | (name, problems) :: rest =>
    (toldOf seen name problems).map (name, ·) ++ told (seen ++ [name]) rest

/-- The problems that are told under a name. -/
def under (name : String) (told : List (String × Problem)) : List Problem :=
  (told.filter (·.1 = name)).map Prod.snd

theorem under_append (name : String) (earlier later : List (String × Problem)) :
    under name (earlier ++ later) = under name earlier ++ under name later := by
  rw [under, List.filter_append, List.map_append]
  rfl

/-- Problems that are told under one name are told under no other. -/
theorem under_map (other name : String) (problems : List Problem) :
    under other (problems.map (name, ·)) = if name = other then problems else [] := by
  rw [under, List.filter_map, List.map_map]
  split_ifs with h
  · have hall : ∀ p ∈ problems, decide (name = other) = true := fun p _ => decide_eq_true h
    exact (congrArg _ (List.filter_eq_self.mpr hall)).trans (List.map_id _)
  · have hnone : ∀ p ∈ problems, ¬decide (name = other) = true := fun p _ => by simpa using h
    exact congrArg _ (List.filter_eq_nil_iff.mpr hnone)

theorem under_eq_nil {told : List (String × Problem)} (h : ∀ e ∈ told, e.1 ≠ name) :
    under name told = [] := by
  have hnone : told.filter (·.1 = name) = [] := by
    rw [List.filter_eq_nil_iff]
    intro e he
    rw [decide_eq_true_iff]
    exact h e he
  rw [under, hnone]
  rfl

/-- The problems that are told under a name, with the name again. -/
theorem map_under (name : String) (told : List (String × Problem)) :
    (under name told).map (name, ·) = told.filter (·.1 = name) := by
  have hname : ∀ e ∈ told.filter (·.1 = name), (name, e.2) = e := by
    intro e he
    rw [List.mem_filter, decide_eq_true_iff] at he
    rw [← he.2]
  calc (under name told).map (name, ·)
      = (told.filter (·.1 = name)).map fun e => (name, e.2) := by rw [under, List.map_map]; rfl
    _ = (told.filter (·.1 = name)).map id := List.map_congr_left hname
    _ = told.filter (·.1 = name) := List.map_id _

/-- Everything is told under the name of a definition. -/
theorem name_mem_of_mem_told {seen : List String} {found : List (String × List Problem)}
    {e : String × Problem} (h : e ∈ told seen found) : e.1 ∈ found.map Prod.fst := by
  induction found generalizing seen with
  | nil => cases h
  | cons first rest ih =>
    rw [told, List.mem_append] at h
    rw [List.map_cons, List.mem_cons]
    rcases h with h | h
    · obtain ⟨p, -, rfl⟩ := List.mem_map.mp h
      exact .inl rfl
    · exact .inr (ih h)

/-- One problem more is told of each definition that goes by the name of an earlier one. -/
theorem length_told (seen : List String) (found : List (String × List Problem)) :
    (told seen found).length + (seen ++ found.map Prod.fst).eraseDups.length =
      (found.map (·.2.length)).sum + found.length + seen.eraseDups.length := by
  induction found generalizing seen with
  | nil => simp [told]
  | cons first rest ih =>
    obtain ⟨name, problems⟩ := first
    have hrest := ih (seen ++ [name])
    rw [List.append_assoc, List.singleton_append, eraseDups_concat] at hrest
    have hfirst : (toldOf seen name problems).length =
        problems.length + if name ∈ seen then 1 else 0 := by
      rw [toldOf, List.length_append]
      split_ifs <;> rfl
    simp only [told, List.length_append, List.length_map, hfirst, List.map_cons, List.sum_cons,
      List.length_cons]
    split_ifs at hrest ⊢
    · omega
    · rw [List.length_append, List.length_singleton] at hrest
      omega

/-! ## Reports -/

/-- The report that lists what is told by names. -/
def grouped (names : List String) (told : List (String × Problem)) : Report :=
  names.eraseDups.map fun name => (name, under name told)

theorem names_grouped (names : List String) (told : List (String × Problem)) :
    (grouped names told).map Prod.fst = names.eraseDups := by
  rw [grouped, List.map_map]
  exact List.map_id _

/-- Problems that come under a new name are listed behind all others. -/
theorem Report.add_of_not_mem {report : Report} (h : name ∉ report.map Prod.fst) :
    report.add name problems = report ++ [(name, problems)] := by
  induction report with
  | nil => rfl
  | cons e rest ih =>
    rw [List.map_cons, List.mem_cons, not_or] at h
    rw [add, if_neg (Ne.symm h.1), ih h.2, List.cons_append]

/-- Problems that come under a name that is there are listed behind those under the name, and one
more behind them. -/
theorem Report.add_of_mem {names : List String} {listed : String → List Problem}
    (hdistinct : names.Nodup) (h : name ∈ names) :
    Report.add name problems (names.map fun n => (n, listed n)) = names.map fun n =>
      (n, listed n ++ if name = n then problems ++ [.duplicateSlug] else []) := by
  induction names with
  | nil => cases h
  | cons n rest ih =>
    rw [List.nodup_cons] at hdistinct
    rw [List.map_cons, List.map_cons, add]
    by_cases hname : name = n
    · subst hname
      have hrest : rest.map (fun n => (n, listed n)) = rest.map fun n =>
          (n, listed n ++ if name = n then problems ++ [.duplicateSlug] else []) := by
        refine List.map_congr_left fun n hn => ?_
        have hne : name ≠ n := fun h => hdistinct.1 (h ▸ hn)
        rw [if_neg hne, List.append_nil]
      rw [if_pos rfl, if_pos rfl, hrest, List.append_assoc]
    · have hmem := (List.mem_cons.mp h).resolve_left hname
      rw [if_neg (Ne.symm hname), if_neg hname, List.append_nil, ih hdistinct.2 hmem]

/-- Adding a definition to a report that lists what was told before makes it list that and what is
told of the definition. -/
theorem grouped_add {names : List String} {told : List (String × Problem)}
    (h : ∀ e ∈ told, e.1 ∈ names) (name : String) (problems : List Problem) :
    (grouped names told).add name problems =
      grouped (names ++ [name]) (told ++ (toldOf names name problems).map (name, ·)) := by
  have hfresh (hname : name ∉ names) : name ∉ (grouped names told).map Prod.fst := by
    rw [names_grouped]
    exact mt List.mem_eraseDups.mp hname
  unfold grouped at hfresh ⊢
  simp only [under_append, under_map, eraseDups_concat]
  by_cases hname : name ∈ names
  -- A name that was there keeps its place, and what is told under it is put behind the rest.
  · have hseen : toldOf names name problems = problems ++ [.duplicateSlug] := by
      rw [toldOf, if_pos hname]
    have hthere := List.mem_eraseDups.mpr hname
    rw [if_pos hname, Report.add_of_mem (nodup_eraseDups names) hthere, hseen]
  -- A new name comes last, and nothing was told under it before.
  · have hnew : toldOf names name problems = problems := by
      rw [toldOf, if_neg hname, List.append_nil]
    have hnone : under name told = [] := under_eq_nil fun e he hn => hname (hn ▸ h e he)
    have hothers : names.eraseDups.map (fun n => (n, under n told)) = names.eraseDups.map fun n =>
        (n, under n told ++ if name = n then problems else []) := by
      refine List.map_congr_left fun n hn => ?_
      have hne : name ≠ n := fun h => hname (h ▸ List.mem_eraseDups.mp hn)
      rw [if_neg hne, List.append_nil]
    rw [if_neg hname, Report.add_of_not_mem (hfresh hname), hnew, List.map_append, hothers,
      List.map_singleton, if_pos rfl, hnone, List.nil_append]

/-- Every problem that is told is listed once, if it is told under a name that is there. -/
theorem perm_told {names : List String} {told : List (String × Problem)}
    (h : ∀ e ∈ told, e.1 ∈ names) :
    (names.eraseDups.flatMap fun name => (under name told).map (name, ·)).Perm told := by
  simp only [map_under]
  exact flatMap_filter_perm (nodup_eraseDups names) fun e he => List.mem_eraseDups.mpr (h e he)

/-- The lines that are printed of what is told: a heading, the lines about each name with what is
told under it, and the total. -/
def printed (path : String) (names : List String) (told : List (String × Problem)) : List String :=
  ["Validating routing forms in " ++ path ++ "..."] ++
    names.eraseDups.flatMap (fun name => formLines name (under name told)) ++
    ["", "Validation complete: " ++ toString told.length ++ " total errors"]

/-- A report prints what is told under the names of definitions. -/
structure Prints (path : String) (names : List String) (told : List (String × Problem))
    (report : Report) : Prop where
  /-- The names come in the order of the first definitions that go by them, and under each one the
  problems in the order of the definitions. -/
  text : report.text path = String.join ((printed path names told).map (· ++ "\n"))
  /-- Each problem is printed once, under the name that it is told under. -/
  once : (names.eraseDups.flatMap fun name => (under name told).map (name, ·)).Perm told
  counts : (names.eraseDups.map fun name => (under name told).length).sum = told.length
  exit : report.exitStatus = 0 ↔ told.length = 0

theorem prints_grouped {names : List String} {told : List (String × Problem)}
    (h : ∀ e ∈ told, e.1 ∈ names) (path : String) :
    Prints path names told (grouped names told) := by
  have honce := perm_told h
  have hcounts : (names.eraseDups.map fun name => (under name told).length).sum = told.length := by
    rw [← honce.length_eq, List.length_flatMap]
    simp only [List.length_map]
  have hsize : (grouped names told).size = told.length := by
    rw [← hcounts, Report.size, grouped, List.map_map]
    rfl
  refine ⟨?_, honce, hcounts, ?_⟩
  · rw [Report.text, hsize, printed, grouped, List.flatMap_map]
  · rw [Report.exitStatus, hsize]
    by_cases hzero : told.length = 0
    · rw [if_pos hzero]
      exact iff_of_true rfl hzero
    · rw [if_neg hzero]
      exact iff_of_false Nat.one_ne_zero hzero

/-- The report of definitions lists what was told before them and what is told of them. -/
theorem definitionsFrom_grouped {index : ℕ} {definitions : List Value}
    {found : List (String × List Problem)} (hfound : Found index definitions found)
    (names : List String) (earlier : List (String × Problem)) (h : ∀ e ∈ earlier, e.1 ∈ names) :
    definitionsFrom index (grouped names earlier) definitions =
      .ok (grouped (names ++ found.map Prod.fst) (earlier ++ told names found)) := by
  -- The report so far is the grouping of what was told, and stays one with each definition.
  induction definitions generalizing index found names earlier with
  | nil =>
    obtain rfl := List.forall₂_nil_left_iff.mp hfound
    rw [told, List.map_nil, List.append_nil, List.append_nil]
    rfl
  | cons d rest ih =>
    rw [Found, List.zipIdx_cons] at hfound
    obtain ⟨e, later, ⟨hname, hproblems⟩, hrest, rfl⟩ := List.forall₂_cons_left_iff.mp hfound
    obtain ⟨name, problems⟩ := e
    have hcovered : ∀ e ∈ earlier ++ (toldOf names name problems).map (name, ·),
        e.1 ∈ names ++ [name] := by
      intro e he
      rcases List.mem_append.mp he with he | he
      · exact List.mem_append_left _ (h e he)
      · obtain ⟨p, -, rfl⟩ := List.mem_map.mp he
        exact List.mem_append_right _ (List.mem_singleton.mpr rfl)
    have hlater := ih hrest _ _ hcovered
    rw [List.append_assoc, List.append_assoc] at hlater
    refine bind_eq_ok_iff.mpr ⟨name, hname.nameOf_eq, bind_eq_ok_iff.mpr ⟨problems, hproblems, ?_⟩⟩
    rw [grouped_add h]
    exact hlater

/-- Definitions of which there is a report have slugs with texts. -/
theorem slugs_of_definitionsFrom {index : ℕ} {definitions : List Value} {report result : Report}
    (h : definitionsFrom index report definitions = .ok result) :
    ∀ d ∈ definitions, SlugHasText d := by
  induction definitions generalizing index report with
  | nil => exact List.forall_mem_nil _
  | cons d rest ih =>
    obtain ⟨name, hname, h⟩ := bind_eq_ok_iff.mp h
    obtain ⟨problems, -, h⟩ := bind_eq_ok_iff.mp h
    refine List.forall_mem_cons.mpr ⟨?_, ih h⟩
    rintro entries slug rfl hlookup
    obtain ⟨fields, hfields, hread⟩ := bind_eq_ok_iff.mp hname
    obtain rfl := Value.map.inj (Value.fields_eq_ok_iff.mp hfields)
    rw [Value.fieldOr_of_lookup hlookup] at hread
    exact ⟨name, hread⟩

/-- Merging by name loses nothing. When each definition that a document lists can be checked, there
is a report exactly if their slugs, where they have one, have texts. Every problem that is found in
one of them, and one more for each that goes by a name that was seen before, is then printed once,
under its name and in the order of the definitions. The total and the number of names are together as
many as the problems found and the definitions, the counts by name add up to the total, and the check
ends with status zero exactly if it is zero. -/
theorem merging_loses_nothing (path : String) (d : Value) (definitions : List Value)
    (hlists : Definitions.ofDocument? d = some definitions)
    (hreturns : ∀ definition ∈ definitions,
      ∃ problems, Check.definition definition = .ok problems) :
    ((∃ report, document path d = .ok report) ↔
        ∀ definition ∈ definitions, SlugHasText definition) ∧
      ((∀ definition ∈ definitions, SlugHasText definition) →
        ∃ found report, Found 0 definitions found ∧ document path d = .ok report ∧
          (∀ contents, Definitions.document contents = .ok d →
            file path contents = .ok report) ∧
          Prints path (found.map Prod.fst) (told [] found) report ∧
          (told [] found).length + (found.map Prod.fst).eraseDups.length =
            (found.map (·.2.length)).sum + definitions.length) := by
  have hmerged (hslugs : ∀ definition ∈ definitions, SlugHasText definition) :
      ∃ found, Found 0 definitions found ∧
        document path d = .ok (grouped (found.map Prod.fst) (told [] found)) := by
    obtain ⟨found, hfound⟩ := exists_found 0 hreturns hslugs
    refine ⟨found, hfound, ?_⟩
    rw [document, hlists]
    exact definitionsFrom_grouped hfound [] [] (List.forall_mem_nil _)
  refine ⟨⟨?_, fun hslugs => ?_⟩, fun hslugs => ?_⟩
  · rintro ⟨report, hreport⟩
    rw [document, hlists] at hreport
    exact slugs_of_definitionsFrom hreport
  · obtain ⟨found, -, hreport⟩ := hmerged hslugs
    exact ⟨_, hreport⟩
  · obtain ⟨found, hfound, hreport⟩ := hmerged hslugs
    have hfile (contents : Option ByteArray) (hread : Definitions.document contents = .ok d) :
        file path contents = .ok (grouped (found.map Prod.fst) (told [] found)) := by
      rw [file, hread]
      dsimp only
      rw [hreport]
      rfl
    have hnumber : definitions.length = found.length := by
      rw [← hfound.length_eq, List.length_zipIdx]
    refine ⟨found, _, hfound, hreport, hfile, prints_grouped ?_ path, ?_⟩
    · exact fun e => name_mem_of_mem_told
    · rw [hnumber]
      exact length_told [] found

/-- Two definitions go by the slug of the first one, and a slug may read like the place of a
definition that has none. -/
theorem merging_loses_nothing_places :
    let title : Value × Value := (.text "title", .text "T")
    let slug (s : String) : Value × Value := (.text "slug", .text s)
    let id (n : Int) : Value × Value := (.text "id", .int n)
    let definitions : List Value := [.map [slug "a", title], .map [id 1, title],
      .map [id 2, slug "#1", title], .map [id 3, slug "a", title], .map [id 4, slug "a", title]]
    let report : Report := [("a", [.missingField "id", .duplicateSlug, .duplicateSlug]),
      ("#1", [.missingField "slug", .duplicateSlug])]
    Definitions.ofDocument? (.list definitions) = some definitions ∧
      (∀ definition ∈ definitions, ∃ problems, Check.definition definition = .ok problems) ∧
      (∀ definition ∈ definitions, SlugHasText definition) ∧
      document "forms.yaml" (.list definitions) = .ok report ∧
      ∃ found, Found 0 definitions found ∧
        Prints "forms.yaml" (found.map Prod.fst) (told [] found) report ∧
        (told [] found).length + (found.map Prod.fst).eraseDups.length =
          (found.map (·.2.length)).sum + definitions.length := by
  intro title slug id definitions report
  have hlists : Definitions.ofDocument? (.list definitions) = some definitions := rfl
  have hreturns : ∀ definition ∈ definitions,
      ∃ problems, Check.definition definition = .ok problems := by
    intro definition h
    simp only [definitions, List.mem_cons, List.not_mem_nil, or_false] at h
    rcases h with rfl | rfl | rfl | rfl | rfl
    · exact ⟨[.missingField "id"], by cbv⟩
    · exact ⟨[.missingField "slug"], by cbv⟩
    · exact ⟨[], by cbv⟩
    · exact ⟨[], by cbv⟩
    · exact ⟨[], by cbv⟩
  have hreport : document "forms.yaml" (.list definitions) = .ok report := by cbv
  obtain ⟨hiff, hmerged⟩ := merging_loses_nothing "forms.yaml" _ definitions hlists hreturns
  have hslugs := hiff.mp ⟨report, hreport⟩
  obtain ⟨found, report', hfound, hreport', -, hprints, htotal⟩ := hmerged hslugs
  obtain rfl := Except.ok.inj (hreport.symm.trans hreport')
  exact ⟨hlists, hreturns, hslugs, hreport, found, hfound, hprints, htotal⟩

/-- The only definition of a document can be checked, and nothing is wrong with it; but its slug has
too many digits to be written, and nothing is printed. -/
theorem long_slug_is_not_reported :
    let long : Value := plain (.int (10 ^ IntegerText.digitLimit))
    Definitions.ofDocument? (.list [long]) = some [long] ∧ definition long = .ok [] ∧
      document "forms.yaml" (.list [long]) = .error .unwritable := by
  intro long
  have hlong : (Value.int (10 ^ IntegerText.digitLimit)).isWritable = false := by
    rw [Value.isWritable_int, IntegerText.not_isWritable_ten_pow]
  exact ⟨rfl, definition_plain _, document_plain hlong⟩

end FormRouting.Check
