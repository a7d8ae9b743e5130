import FormRouting.Proofs.Json.Grammar
import FormRouting.Proofs.Json.Number

/-!
# What is written as JSON

The writer writes numbers that are not finite by names, which are no JSON. Whether a value holds such
a number decides whether its text is JSON (`isText_write_iff`): a text without one is derived from the
grammar, and in a text with one a letter of the name stands outside of quotes, which it does in
nothing that the grammar derives. `Rendered` says both of a written value, and `rendered_encode`
shows it for each kind of value from what was written for its members.

Finite numbers take the longest to check. Their digits begin with a zero only if they are a single
zero, whose point is behind it (`Lead`), and so the layout is a number wherever it puts the point.
-/

namespace FormRouting

/-! ## Numbers -/

namespace Json

theorem digits_toDigits (n : ℕ) : Digits (Nat.toDigits 10 n) :=
  ⟨Nat.toDigits_ne_nil, fun _ h => Nat.isDigit_of_mem_toDigits (by decide) (by decide) h⟩

theorem Digits.append {cs ds : List Char} (h : Digits cs) (hds : ∀ c ∈ ds, c.isDigit = true) :
    Digits (cs ++ ds) := by
  refine ⟨List.append_ne_nil_of_left_ne_nil h.ne_nil ds, ?_⟩
  rw [List.forall_mem_append]
  exact ⟨h.digit, hds⟩

theorem digits_zero : Digits ['0'] :=
  ⟨List.cons_ne_nil _ _, List.forall_mem_singleton.mpr rfl⟩

theorem isDigit_of_mem_replicate {n : ℕ} : ∀ c ∈ List.replicate n '0', c.isDigit = true := by
  intro c hc
  rw [List.eq_of_mem_replicate hc]
  decide

/-- The digits of a natural number are the whole part of a number. -/
theorem whole_toDigits (n : ℕ) : Whole (Nat.toDigits 10 n) := by
  rcases n.eq_zero_or_pos with rfl | hn
  · exact .zero
  · obtain ⟨c, cs, hdigits, hc⟩ := exists_toDigits_eq_cons hn
    have h := digits_toDigits n
    rw [hdigits] at h ⊢
    exact .digits h hc

/-- A written integer is a number. -/
theorem numeral_toString (n : ℤ) : Numeral (toString n).toList := by
  have hwhole : ∀ sign ∈ [[], ['-']], Numeral (sign ++ (Nat.toDigits 10 n.natAbs ++ ([] ++ []))) :=
    fun sign hsign => .mk hsign (whole_toDigits n.natAbs) .absent .absent
  rw [toList_toString_eq]
  split_ifs
  · simpa using hwhole ['-'] (by decide)
  · simpa using hwhole [] (by decide)

end Json

namespace NumberLayout

open Json

/-- The digits of a decimal and the position of its point: a single zero with the point behind it, or
digits that begin otherwise. -/
inductive Lead : List Char → ℤ → Prop where
  | zero : Lead ['0'] 1
  | digits {c : Char} {cs : List Char} {position : ℤ} (h : Digits (c :: cs)) (hc : c ≠ '0') :
      Lead (c :: cs) position

theorem Lead.whole {digits : List Char} {position : ℤ} (h : Lead digits position) :
    Whole digits := by
  cases h with
  | zero => exact .zero
  | digits h hc => exact .digits h hc

theorem Lead.toDigits {digits : List Char} {position : ℤ} (h : Lead digits position) :
    Digits digits := by
  cases h with
  | zero => exact digits_zero
  | digits h _ => exact h

theorem lead_digitsAndPosition (d : Decimal) :
    Lead (digitsAndPosition d).1 (digitsAndPosition d).2 := by
  obtain ⟨n, exponent⟩ := d
  unfold digitsAndPosition
  dsimp only
  rw [Nat.toList_repr]
  rcases n.eq_zero_or_pos with rfl | hn
  · exact .zero
  · obtain ⟨c, cs, hdigits, hc⟩ := exists_toDigits_eq_cons hn
    have hall := (digits_toDigits n).digit
    rw [hdigits] at hall ⊢
    -- Leaving last zeros off ends before the first digit, which is none.
    obtain ⟨kept, hkept⟩ : ∃ kept, (((c :: cs).reverse.dropWhile (· == '0')).reverse) = c :: kept := by
      rw [List.reverse_cons, List.dropWhile_append]
      split_ifs
      · exact ⟨[], by simp [hc]⟩
      · exact ⟨(cs.reverse.dropWhile (· == '0')).reverse, by simp⟩
    have hprefix : ∀ x ∈ c :: kept, x.isDigit = true := by
      intro x hx
      rw [← hkept, List.mem_reverse] at hx
      have hmem := (List.dropWhile_sublist _).subset hx
      exact hall x (List.mem_reverse.mp hmem)
    rw [hkept]
    exact .digits ⟨List.cons_ne_nil c kept, hprefix⟩ hc

/-- Digits with the point at the given position are a number. -/
theorem numeral_positional {digits : List Char} {position : ℤ} (h : Lead digits position)
    {sign : List Char} (hsign : sign ∈ [[], ['-']]) :
    Numeral (sign ++ json.positional digits position) := by
  unfold positional
  dsimp only
  split_ifs with hbefore hbehind
  · -- The point stands before the digits, behind a zero.
    have hfraction : Digits (List.replicate (-position).toNat '0' ++ digits) := by
      refine ⟨List.append_ne_nil_of_right_ne_nil _ h.toDigits.ne_nil, ?_⟩
      rw [List.forall_mem_append]
      exact ⟨isDigit_of_mem_replicate, h.toDigits.digit⟩
    simpa using Numeral.mk hsign .zero (.present hfraction) .absent
  · -- It stands behind the digits, perhaps behind zeros that are added to them.
    have hwhole : Whole (digits ++ List.replicate (position - digits.length).toNat '0') := by
      cases h with
      | zero => exact .zero
      | digits h hc => exact .digits (h.append isDigit_of_mem_replicate) hc
    simpa [json, plain] using Numeral.mk hsign hwhole (.present digits_zero) .absent
  · -- It stands between two of the digits, so that these are more than one.
    have hlength : position.toNat < digits.length := by omega
    obtain ⟨first, hfirst⟩ : ∃ first, position.toNat = first + 1 :=
      Nat.exists_eq_add_one.mpr (by omega)
    cases h with
    | zero =>
      rw [List.length_singleton] at hlength
      omega
    | @digits c cs _ h hc =>
      have htake : Whole ((c :: cs).take position.toNat) := by
        rw [hfirst, List.take_succ_cons]
        refine .digits ⟨List.cons_ne_nil c _, fun x hx => h.digit x ?_⟩ hc
        rw [← List.take_succ_cons] at hx
        exact List.mem_of_mem_take hx
      have hdrop : Digits ((c :: cs).drop position.toNat) :=
        ⟨by rw [ne_eq, List.drop_eq_nil_iff]; omega,
          fun x hx => h.digit x (List.mem_of_mem_drop hx)⟩
      simpa using Numeral.mk hsign htake (.present hdrop) .absent

/-- Digits with an exponent are a number. -/
theorem numeral_scientific {digits : List Char} {position : ℤ} (h : Lead digits position)
    {sign : List Char} (hsign : sign ∈ [[], ['-']]) (exponent : ℤ) :
    Numeral (sign ++ json.scientific digits exponent) := by
  have hpadded : Digits (padded json.exponentWidth exponent.natAbs).toList := by
    unfold padded
    rw [String.toList_append, String.toList_ofList, Nat.toList_repr]
    refine ⟨List.append_ne_nil_of_right_ne_nil _ Nat.toDigits_ne_nil, ?_⟩
    rw [List.forall_mem_append]
    exact ⟨isDigit_of_mem_replicate, (digits_toDigits _).digit⟩
  have hexponent : Exponent ('e' :: ([if exponent < 0 then '-' else '+'] ++
      (padded json.exponentWidth exponent.natAbs).toList)) := by
    refine .present (by decide) ?_ hpadded
    split_ifs <;> decide
  unfold scientific
  dsimp only
  have hdigit := h.toDigits.digit
  split
  · -- A single digit stands before the point, whichever it is, and the others behind it.
    rename_i first second rest
    simp only [List.forall_mem_cons] at hdigit
    have hfirst : Whole [first] := by
      by_cases hzero : first = '0'
      · rw [hzero]
        exact .zero
      · refine .digits ⟨List.cons_ne_nil first [], ?_⟩ hzero
        simpa using hdigit.1
    have hrest : Digits (second :: rest) := by
      refine ⟨List.cons_ne_nil second rest, ?_⟩
      rw [List.forall_mem_cons]
      exact hdigit.2
    simpa using Numeral.mk hsign hfirst (.present hrest) hexponent
  · simpa using Numeral.mk hsign h.whole .absent hexponent

/-- A written finite number is a number. -/
theorem numeral_write (negative : Bool) (rank : Fin Binary64.finiteCount) :
    Numeral (json.write (.finite negative rank)).toList := by
  have hsign : (if negative then ['-'] else []) ∈ [[], ['-']] := by
    cases negative <;> decide
  have hlead := lead_digitsAndPosition (Decimal.shortest rank)
  rw [write, String.toList_ofList]
  unfold magnitude
  dsimp only
  by_cases hmoderate : json.leastPosition ≤ (digitsAndPosition (Decimal.shortest rank)).2 ∧
      (digitsAndPosition (Decimal.shortest rank)).2 ≤ json.greatestPosition
  · rw [if_pos hmoderate]
    exact numeral_positional hlead hsign
  · rw [if_neg hmoderate]
    exact numeral_scientific hlead hsign _

end NumberLayout

namespace Json

/-- A number that is not finite is written by a name. -/
theorem loud_write {x : Binary64} (h : isStrict (.real x) = false) :
    Loud (NumberLayout.json.write x).toList := by
  cases x with
  | nan => exact fun rest => rfl
  | infinite negative => cases negative <;> exact fun rest => rfl
  | finite negative rank => cases h

/-! ## Texts -/

theorem isSome_hexDigitValue?_digitChar {d : ℕ} (h : d < 16) :
    (hexDigitValue? d.digitChar).isSome := by
  rw [hexDigitValue?_digitChar h]
  rfl

theorem textPart_unitEscape {n : ℕ} (h : n < 0x10000) : TextPart (unitEscape n) := by
  rw [unitEscape, Quoted.hex_four h]
  refine .unit ?_
  simp only [List.forall_mem_cons, List.not_mem_nil, false_implies, implies_true, and_true]
  refine ⟨?_, ?_, ?_, ?_⟩ <;> exact isSome_hexDigitValue?_digitChar (by omega)

/-- What is written for a character are one or two parts of a text. -/
theorem exists_textParts_escapeChar (c : Char) :
    ∃ parts : List (List Char), escapeChar c = parts.flatten ∧ ∀ part ∈ parts, TextPart part := by
  have hescape := escape_escapeChar c
  generalize escapeChar c = written at hescape
  cases hescape with
  | @short letter h _ =>
    -- The letters of short escapes are those that are read as characters.
    have hletter : letter ∈ ['"', '\\', '/', 'b', 'f', 'n', 'r', 't'] := by
      unfold shortEscape? at h
      split at h <;> first | decide | cases h
    exact ⟨[['\\', letter]], rfl, by simpa using .short hletter⟩
  | plain hlow _ hquote hbackslash =>
    exact ⟨[[c]], rfl, by simpa using .plain hlow hquote hbackslash⟩
  | unit h => exact ⟨[unitEscape c.toNat], by simp, by simpa using textPart_unitEscape h⟩
  | pair h =>
    have hlast := toNat_lt c
    have hhigh := textPart_unitEscape (n := 0xD800 + (c.toNat - 0x10000) / 0x400) (by omega)
    have hlow := textPart_unitEscape (n := 0xDC00 + (c.toNat - 0x10000) % 0x400) (by omega)
    exact ⟨[unitEscape _, unitEscape _], by rw [List.flatten_cons, List.flatten_singleton],
      by simpa using ⟨hhigh, hlow⟩⟩

theorem quotation_encodeText (s : String) : Quotation (encodeText s) := by
  obtain ⟨parts, hparts, h⟩ : ∃ parts : List (List Char), s.toList.flatMap escapeChar = parts.flatten ∧
      ∀ part ∈ parts, TextPart part := by
    induction s.toList with
    | nil => exact ⟨[], rfl, by simp⟩
    | cons c cs ih =>
      obtain ⟨parts, hparts, h⟩ := ih
      obtain ⟨first, hfirst, hc⟩ := exists_textParts_escapeChar c
      refine ⟨first ++ parts, ?_, List.forall_mem_append.mpr ⟨hc, h⟩⟩
      rw [List.flatMap_cons, hfirst, hparts, List.flatten_append]
  rw [encodeText, hparts]
  exact .mk h

/-! ## Members -/

theorem blanks_nil : Blanks [] := List.forall_mem_nil _

theorem blanks_space : Blanks [' '] :=
  List.forall_mem_singleton.mpr rfl

/-- Blanks may stand before a member. -/
theorem Derives.member_of_blanks {kind : MemberKind} {cs b : List Char} (hb : Blanks b)
    (h : Derives (.member kind) cs) : Derives (.member kind) (b ++ cs) := by
  cases h with
  | item hbefore h hafter =>
    rw [← List.append_assoc]
    exact .item (List.forall_mem_append.mpr ⟨hb, hbefore⟩) h hafter
  | entry hbefore hkey hbetween h =>
    rw [← List.append_assoc]
    exact .entry (List.forall_mem_append.mpr ⟨hb, hbefore⟩) hkey hbetween h

/-- A value is a member of a list as it is. -/
theorem Derives.item_of_value {cs : List Char} (h : Derives .value cs) :
    Derives (.member .item) cs := by
  simpa using Derives.item blanks_nil h blanks_nil

/-- What is written for the members of a list or of a mapping is derived as its members. -/
theorem derives_separated {kind : MemberKind} {m : List Char} {members : List (List Char)}
    (h : ∀ m' ∈ m :: members, Derives (.member kind) m') {b : List Char} (hb : Blanks b) :
    Derives (.members kind) (b ++ separated (m :: members)) := by
  induction members generalizing m b with
  | nil =>
    have hm := h m List.mem_cons_self
    exact .single (hm.member_of_blanks hb)
  | cons m' members ih =>
    rw [List.forall_mem_cons] at h
    obtain ⟨hm, hmembers⟩ := h
    -- The blank behind a comma is before the next member.
    have hrest := ih hmembers blanks_space
    have hfirst := hm.member_of_blanks hb
    simpa [separated] using Derives.several hfirst hrest

/-- Of written members some are loud, and the others are silent. -/
theorem loud_separated {members : List (List Char)} (h : ∀ m ∈ members, Silent m ∨ Loud m)
    (hloud : ∃ m ∈ members, Loud m) : Loud (separated members) := by
  induction members with
  | nil =>
    obtain ⟨m, hm, -⟩ := hloud
    cases hm
  | cons m members ih =>
    rw [List.forall_mem_cons] at h
    cases members with
    | nil =>
      obtain ⟨m', hm', hloud⟩ := hloud
      rwa [List.mem_singleton.mp hm'] at hloud
    | cons m' members =>
      change Loud (m ++ ',' :: ' ' :: separated (m' :: members))
      rcases h.1 with hsilent | hm
      · -- The first member is silent, and so a later one is loud.
        have hlater : ∃ m'' ∈ m' :: members, Loud m'' := by
          obtain ⟨m'', hm'', hloud⟩ := hloud
          rcases List.mem_cons.mp hm'' with rfl | hlater
          · exact absurd hloud hsilent.not_loud
          · exact ⟨m'', hlater, hloud⟩
        have hcomma : Silent [',', ' '] :=
          (Silent.singleton (by decide)).append (.singleton (by decide))
        exact hsilent.loud (hcomma.loud (ih h.2 hlater))
      · exact hm.append _

/-! ## Values -/

/-- What is written for a value or a member: it is derived from the grammar if it holds no number that
is not finite, and otherwise the name of one stands in it. -/
structure Rendered (symbol : Symbol) (strict : Bool) (cs : List Char) : Prop where
  derived : strict = true → Derives symbol cs
  named : strict = false → Loud cs

/-- What is written for several members. -/
structure RenderedAll (kind : MemberKind) (strict : Bool) (members : List (List Char)) : Prop where
  derived : strict = true → ∀ m ∈ members, Derives (.member kind) m
  named : strict = false → ∃ m ∈ members, Loud m
  sound : ∀ m ∈ members, Silent m ∨ Loud m

theorem Rendered.silent_or_loud {symbol : Symbol} {strict : Bool} {cs : List Char}
    (h : Rendered symbol strict cs) : Silent cs ∨ Loud cs := by
  cases strict with
  | true => exact .inl (h.derived rfl).silent
  | false => exact .inr (h.named rfl)

/-- A value that holds no number that is not finite whatever it is. -/
theorem Rendered.of_derives {symbol : Symbol} {cs : List Char} (h : Derives symbol cs) :
    Rendered symbol true cs :=
  ⟨fun _ => h, fun hfalse => Bool.noConfusion hfalse⟩

theorem RenderedAll.nil (kind : MemberKind) : RenderedAll kind true [] :=
  ⟨fun _ => List.forall_mem_nil _, fun hfalse => Bool.noConfusion hfalse, List.forall_mem_nil _⟩

theorem RenderedAll.cons {kind : MemberKind} {first rest : Bool} {m : List Char}
    {members : List (List Char)} (hm : Rendered (.member kind) first m)
    (h : RenderedAll kind rest members) : RenderedAll kind (first && rest) (m :: members) where
  derived hstrict := by
    rw [Bool.and_eq_true] at hstrict
    rw [List.forall_mem_cons]
    exact ⟨hm.derived hstrict.1, h.derived hstrict.2⟩
  named hloose := by
    rcases Bool.and_eq_false_iff.mp hloose with hfirst | hrest
    · exact ⟨m, List.mem_cons_self, hm.named hfirst⟩
    · obtain ⟨m', hm', hloud⟩ := h.named hrest
      exact ⟨m', List.mem_cons_of_mem m hm', hloud⟩
  sound := by
    rw [List.forall_mem_cons]
    exact ⟨hm.silent_or_loud, h.sound⟩

/-- A value as a member of a list. -/
theorem Rendered.item {strict : Bool} {cs : List Char} (h : Rendered .value strict cs) :
    Rendered (.member .item) strict cs :=
  ⟨fun hstrict => (h.derived hstrict).item_of_value, h.named⟩

/-- A value as the one of an entry. -/
theorem Rendered.entry {strict : Bool} {cs : List Char} (h : Rendered .value strict cs)
    (key : String) : Rendered (.member .entry) strict (encodeText key ++ ':' :: ' ' :: cs) where
  derived hstrict := by
    have hvalue := (h.derived hstrict).item_of_value.member_of_blanks blanks_space
    simpa using Derives.entry blanks_nil (quotation_encodeText key) blanks_nil hvalue
  named hloose := by
    have hcolon : Silent [':', ' '] :=
      (Silent.singleton (by decide)).append (.singleton (by decide))
    exact (quotation_encodeText key).silent.loud (hcolon.loud (h.named hloose))

/-- Members between brackets. -/
theorem RenderedAll.list {strict : Bool} {members : List (List Char)}
    (h : RenderedAll .item strict members) :
    Rendered .value strict ('[' :: (separated members ++ [']'])) where
  derived hstrict := by
    cases members with
    | nil => exact .emptyList blanks_nil
    | cons m members =>
      have hmembers := derives_separated (h.derived hstrict) blanks_nil
      exact .list hmembers
  named hloose := by
    have hopen : Silent ['['] := .singleton (by decide)
    exact hopen.loud ((loud_separated h.sound (h.named hloose)).append _)

/-- Entries between braces. -/
theorem RenderedAll.map {strict : Bool} {members : List (List Char)}
    (h : RenderedAll .entry strict members) :
    Rendered .value strict ('\x7b' :: (separated members ++ ['\x7d'])) where
  derived hstrict := by
    cases members with
    | nil => exact .emptyMap blanks_nil
    | cons m members =>
      have hmembers := derives_separated (h.derived hstrict) blanks_nil
      exact .map hmembers
  named hloose := by
    have hopen : Silent ['\x7b'] := .singleton (by decide)
    exact hopen.loud ((loud_separated h.sound (h.named hloose)).append _)

theorem rendered_real (x : Binary64) :
    Rendered .value (isStrict (.real x)) (NumberLayout.json.write x).toList where
  derived hstrict := by
    cases x with
    | finite negative rank => exact .number (NumberLayout.numeral_write negative rank)
    | nan | infinite _ => cases hstrict
  named := loud_write

mutual

/-- A written value. The recursion is that of the writer. -/
theorem rendered_encode {cs : List Char} :
    ∀ v : Value, encode? v = some cs → Rendered .value (isStrict v) cs
  | .null, h => by
    obtain rfl := Option.some.inj h
    exact .of_derives .null
  | .bool b, h => by
    obtain rfl := Option.some.inj h
    cases b with
    | true => exact .of_derives .true
    | false => exact .of_derives .false
  | .int n, h => by
    obtain ⟨hwritable, hcs⟩ := Option.ite_none_right_eq_some.mp h
    obtain rfl := Option.some.inj hcs
    rw [isStrict, hwritable]
    exact .of_derives (.number (numeral_toString n))
  | .real x, h => by
    obtain rfl := Option.some.inj h
    exact rendered_real x
  | .text s, h => by
    obtain rfl := Option.some.inj h
    exact .of_derives (.text (quotation_encodeText s))
  | .list items, h | .tuple items, h => by
    obtain ⟨members, hmembers, rfl⟩ := Option.map_eq_some_iff.mp h
    exact (rendered_encodeItems items hmembers).list
  | .map entries, h => by
    obtain ⟨members, hmembers, rfl⟩ := Option.map_eq_some_iff.mp h
    exact (rendered_encodeEntries entries hmembers).map

theorem rendered_encodeItems {members : List (List Char)} :
    ∀ items : List Value, encodeItems? items = some members →
      RenderedAll .item (areStrict items) members
  | [], h => by
    obtain rfl := Option.some.inj h
    exact .nil .item
  | v :: rest, h => by
    rw [encodeItems?] at h
    split at h
    · rename_i m members hm hmembers
      obtain rfl := Option.some.inj h
      exact .cons (rendered_encode v hm).item (rendered_encodeItems rest hmembers)
    · cases h

theorem rendered_encodeEntries {members : List (List Char)} :
    ∀ entries : List (Value × Value), encodeEntries? entries = some members →
      RenderedAll .entry (areStrictEntries entries) members
  | [], h => by
    obtain rfl := Option.some.inj h
    exact .nil .entry
  | (k, v) :: rest, h => by
    rw [encodeEntries?] at h
    split at h
    · rename_i key m members hkey hm hmembers
      obtain rfl := Option.some.inj h
      rw [areStrictEntries, hkey, Option.isSome_some, Bool.true_and]
      exact .cons ((rendered_encode v hm).entry key) (rendered_encodeEntries rest hmembers)
    · cases h

end

/-- The text of a value is JSON exactly if the value holds no number that is not finite. -/
theorem isText_write_iff {v : Value} {s : String} (h : write? v = some s) :
    IsText s ↔ isStrict v = true := by
  obtain ⟨cs, hcs, rfl⟩ := Option.map_eq_some_iff.mp h
  have hrendered := (rendered_encode v hcs).item
  rw [IsText, String.toList_ofList]
  constructor
  · intro htext
    by_contra hloose
    exact htext.silent.not_loud (hrendered.named (Bool.eq_false_iff.mpr hloose))
  · exact hrendered.derived

end Json

end FormRouting
