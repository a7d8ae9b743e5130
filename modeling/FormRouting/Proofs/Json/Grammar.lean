import FormRouting.Json.Reader

/-!
# The grammar of JSON

The texts that are JSON, said by their grammar and not by a reader (`Derives`, `IsText`). It has no
words for the numbers that are not finite, although the reader takes such words and the writer writes
them.

Two texts with the same characters can differ in what stands in quotes. `names` goes through a text
and tells whether a letter with which such a word begins stands outside of quotes. A text in which
the quotes are closed and no such letter does changes nothing for what follows it (`Silent`), and so
these texts can be put together. Everything that the grammar derives is one of them
(`Derives.silent`).
-/

namespace FormRouting.Json

/-! ## The grammar -/

/-- Blanks, which may stand around values and separators. -/
def Blanks (cs : List Char) : Prop :=
  ∀ c ∈ cs, isBlank c = true

/-- One digit or more. -/
structure Digits (cs : List Char) : Prop where
  ne_nil : cs ≠ []
  digit : ∀ c ∈ cs, c.isDigit = true

/-- The whole part of a number: a single zero, or digits that begin otherwise. -/
inductive Whole : List Char → Prop where
  | zero : Whole ['0']
  | digits {c : Char} {cs : List Char} (h : Digits (c :: cs)) (hc : c ≠ '0') : Whole (c :: cs)

inductive Fraction : List Char → Prop where
  | absent : Fraction []
  | present {cs : List Char} (h : Digits cs) : Fraction ('.' :: cs)

inductive Exponent : List Char → Prop where
  | absent : Exponent []
  | present {e : Char} {sign cs : List Char} (he : e ∈ ['e', 'E'])
      (hsign : sign ∈ [[], ['+'], ['-']]) (h : Digits cs) : Exponent (e :: (sign ++ cs))

/-- A number: perhaps a minus sign, the whole part, and perhaps a fraction and an exponent. -/
inductive Numeral : List Char → Prop where
  | mk {sign whole fraction exponent : List Char} (hsign : sign ∈ [[], ['-']]) (hwhole : Whole whole)
      (hfraction : Fraction fraction) (hexponent : Exponent exponent) :
      Numeral (sign ++ (whole ++ (fraction ++ exponent)))

/-- What stands for a character or a UTF-16 unit between quotes. -/
inductive TextPart : List Char → Prop where
  | plain {c : Char} (hlow : 0x20 ≤ c.toNat) (hquote : c ≠ '"') (hbackslash : c ≠ '\\') :
      TextPart [c]
  | short {c : Char} (h : c ∈ ['"', '\\', '/', 'b', 'f', 'n', 'r', 't']) : TextPart ['\\', c]
  | unit {a b c d : Char} (h : ∀ x ∈ [a, b, c, d], (hexDigitValue? x).isSome) :
      TextPart ['\\', 'u', a, b, c, d]

/-- A text in quotes. -/
inductive Quotation : List Char → Prop where
  | mk {parts : List (List Char)} (h : ∀ part ∈ parts, TextPart part) :
      Quotation ('"' :: (parts.flatten ++ ['"']))

/-- What a list or a mapping has several of. -/
inductive MemberKind where
  | item
  | entry

/-- What the grammar derives: values, members with the blanks around them, and members with commas
between them. -/
inductive Symbol where
  | value
  | member (kind : MemberKind)
  | members (kind : MemberKind)

/-- A text is derived from a symbol of the grammar. -/
inductive Derives : Symbol → List Char → Prop where
  | null : Derives .value ['n', 'u', 'l', 'l']
  | true : Derives .value ['t', 'r', 'u', 'e']
  | false : Derives .value ['f', 'a', 'l', 's', 'e']
  | number {cs : List Char} (h : Numeral cs) : Derives .value cs
  | text {cs : List Char} (h : Quotation cs) : Derives .value cs
  | emptyList {b : List Char} (hb : Blanks b) : Derives .value ('[' :: (b ++ [']']))
  | list {cs : List Char} (h : Derives (.members .item) cs) : Derives .value ('[' :: (cs ++ [']']))
  | emptyMap {b : List Char} (hb : Blanks b) : Derives .value ('\x7b' :: (b ++ ['\x7d']))
  | map {cs : List Char} (h : Derives (.members .entry) cs) :
      Derives .value ('\x7b' :: (cs ++ ['\x7d']))
  | item {before cs after : List Char} (hbefore : Blanks before) (h : Derives .value cs)
      (hafter : Blanks after) : Derives (.member .item) (before ++ (cs ++ after))
  | entry {before key between cs : List Char} (hbefore : Blanks before) (hkey : Quotation key)
      (hbetween : Blanks between) (h : Derives (.member .item) cs) :
      Derives (.member .entry) (before ++ (key ++ (between ++ ':' :: cs)))
  | single {kind : MemberKind} {cs : List Char} (h : Derives (.member kind) cs) :
      Derives (.members kind) cs
  | several {kind : MemberKind} {cs rest : List Char} (h : Derives (.member kind) cs)
      (hrest : Derives (.members kind) rest) : Derives (.members kind) (cs ++ ',' :: rest)

/-- A JSON text is one value, perhaps with blanks around it. -/
def IsText (s : String) : Prop :=
  Derives (.member .item) s.toList

/-! ## What stands outside of quotes -/

/-- Where a text has been read up to. -/
inductive Place where
  | outside
  | inside
  /-- Behind a backslash in quotes. -/
  | escaped

/-- The place behind a character. -/
def Place.next : Place → Char → Place
  | .outside, c => if c = '"' then .inside else .outside
  | .inside, c => if c = '"' then .outside else if c = '\\' then .escaped else .inside
  | .escaped, _ => .inside

/-- Whether a letter stands outside of quotes with which the name of a number begins that is not
finite. -/
def names : Place → List Char → Bool
  | _, [] => false
  | .outside, c :: cs => c == 'N' || c == 'I' || names (Place.next .outside c) cs
  | place, c :: cs => names (place.next c) cs

/-- A text in which the quotes are closed and no such letter stands outside of them: nothing changes
for what follows. -/
def Silent (cs : List Char) : Prop :=
  ∀ rest, names .outside (cs ++ rest) = names .outside rest

/-- A text in which such a letter stands outside of quotes. -/
def Loud (cs : List Char) : Prop :=
  ∀ rest, names .outside (cs ++ rest) = true

theorem Silent.not_loud {cs : List Char} (h : Silent cs) : ¬Loud cs := by
  intro hloud
  have hnone : names .outside (cs ++ []) = false := h []
  rw [hloud []] at hnone
  cases hnone

namespace Silent

variable {cs ds : List Char}

theorem nil : Silent [] := fun _ => rfl

theorem append (h : Silent cs) (h' : Silent ds) : Silent (cs ++ ds) := by
  intro rest
  rw [List.append_assoc, h, h']

theorem cons {c : Char} (hquote : c ≠ '"') (hN : c ≠ 'N') (hI : c ≠ 'I') (h : Silent cs) :
    Silent (c :: cs) := by
  intro rest
  have hplace : Place.next .outside c = .outside := if_neg hquote
  rw [List.cons_append, names, hplace, h rest]
  simp [hN, hI]

theorem singleton {c : Char} (h : c ∉ ['"', 'N', 'I']) : Silent [c] := by
  simp only [List.mem_cons, List.not_mem_nil, or_false, not_or] at h
  exact cons h.1 h.2.1 h.2.2 nil

/-- Characters that are neither quotes nor such letters. -/
theorem of_forall (h : ∀ c ∈ cs, c ∉ ['"', 'N', 'I']) : Silent cs := by
  induction cs with
  | nil => exact nil
  | cons c cs ih =>
    rw [List.forall_mem_cons] at h
    exact (singleton h.1).append (ih h.2)

theorem loud (h : Silent cs) (h' : Loud ds) : Loud (cs ++ ds) := by
  intro rest
  rw [List.append_assoc, h, h']

end Silent

theorem Loud.append {cs : List Char} (h : Loud cs) (ds : List Char) : Loud (cs ++ ds) := by
  intro rest
  rw [List.append_assoc, h]

/-! ## What is derived is silent -/

theorem Blanks.silent {cs : List Char} (h : Blanks cs) : Silent cs := by
  refine .of_forall fun c hc => ?_
  have hblank := h c hc
  rintro hmem
  simp only [List.mem_cons, List.not_mem_nil, or_false] at hmem
  rcases hmem with rfl | rfl | rfl <;> exact absurd hblank (by decide)

theorem Digits.silent {cs : List Char} (h : Digits cs) : Silent cs := by
  refine .of_forall fun c hc => ?_
  have hdigit := h.digit c hc
  rintro hmem
  simp only [List.mem_cons, List.not_mem_nil, or_false] at hmem
  rcases hmem with rfl | rfl | rfl <;> exact absurd hdigit (by decide)

theorem Whole.silent {cs : List Char} (h : Whole cs) : Silent cs := by
  cases h with
  | zero => exact .of_forall (by simp)
  | digits h _ => exact h.silent

theorem Fraction.silent {cs : List Char} (h : Fraction cs) : Silent cs := by
  cases h with
  | absent => exact .nil
  | present h => exact .cons (by decide) (by decide) (by decide) h.silent

theorem Exponent.silent {cs : List Char} (h : Exponent cs) : Silent cs := by
  cases h with
  | absent => exact .nil
  | @present e sign cs he hsign h =>
    have hletter : Silent [e] := by
      refine .of_forall ?_
      simp only [List.mem_cons, List.not_mem_nil, or_false] at he
      rcases he with rfl | rfl <;> simp
    have hmark : Silent sign := by
      refine .of_forall ?_
      simp only [List.mem_cons, List.not_mem_nil, or_false] at hsign
      rcases hsign with rfl | rfl | rfl <;> simp
    exact hletter.append (hmark.append h.silent)

theorem Numeral.silent {cs : List Char} (h : Numeral cs) : Silent cs := by
  obtain ⟨hsign, hwhole, hfraction, hexponent⟩ := h
  refine Silent.append (.of_forall ?_)
    (hwhole.silent.append (hfraction.silent.append hexponent.silent))
  simp only [List.mem_cons, List.not_mem_nil, or_false] at hsign
  rcases hsign with rfl | rfl <;> simp

/-- What stands for a character in quotes does not end them. -/
theorem TextPart.names_inside {cs : List Char} (h : TextPart cs) (rest : List Char) :
    names .inside (cs ++ rest) = names .inside rest := by
  cases h with
  | plain _ hquote hbackslash => simp [names, Place.next, hquote, hbackslash]
  | short _ => simp [names, Place.next]
  | @unit a b c d h =>
    -- None of the four digits is a quote or a backslash.
    have hdigit : ∀ x ∈ [a, b, c, d], Place.next .inside x = .inside := by
      intro x hx
      have hhex := h x hx
      have hquote : x ≠ '"' := by rintro rfl; cases hhex
      have hbackslash : x ≠ '\\' := by rintro rfl; cases hhex
      simp [Place.next, hquote, hbackslash]
    simp only [List.forall_mem_cons, List.not_mem_nil, false_implies, implies_true, and_true] at hdigit
    obtain ⟨ha, hb, hc, hd⟩ := hdigit
    simp [names, ha, hb, hc, hd, Place.next.eq_def .inside '\\', Place.next.eq_def .escaped]

theorem Quotation.silent {cs : List Char} (h : Quotation cs) : Silent cs := by
  obtain ⟨hparts⟩ := h
  rename_i parts
  have hbody : ∀ rest, names .inside (parts.flatten ++ rest) = names .inside rest := by
    intro rest
    induction parts with
    | nil => rfl
    | cons part parts ih =>
      rw [List.forall_mem_cons] at hparts
      rw [List.flatten_cons, List.append_assoc, hparts.1.names_inside, ih hparts.2]
  intro rest
  have hopen : names .outside ('"' :: (parts.flatten ++ ['"']) ++ rest) =
      names .inside (parts.flatten ++ '"' :: rest) := by
    simp [names, Place.next]
  rw [hopen, hbody]
  simp [names, Place.next]

/-- What the grammar derives has no such letter outside of quotes. -/
theorem Derives.silent {symbol : Symbol} {cs : List Char} (h : Derives symbol cs) : Silent cs := by
  have hplain : ∀ {c : Char} {cs : List Char}, c ∉ ['"', 'N', 'I'] → Silent cs →
      Silent (c :: cs) := fun hc hcs => (Silent.singleton hc).append hcs
  induction h with
  | null | true | false => exact .of_forall (by simp)
  | number h => exact h.silent
  | text h => exact h.silent
  | emptyList hb => exact hplain (by decide) (hb.silent.append (.singleton (by decide)))
  | list _ ih => exact hplain (by decide) (ih.append (.singleton (by decide)))
  | emptyMap hb => exact hplain (by decide) (hb.silent.append (.singleton (by decide)))
  | map _ ih => exact hplain (by decide) (ih.append (.singleton (by decide)))
  | item hbefore _ hafter ih => exact hbefore.silent.append (ih.append hafter.silent)
  | entry hbefore hkey hbetween _ ih =>
    exact hbefore.silent.append
      (hkey.silent.append (hbetween.silent.append (hplain (by decide) ih)))
  | single _ ih => exact ih
  | several _ _ ih ihrest => exact ih.append (hplain (by decide) ihrest)

end FormRouting.Json
