/-
Documents that are read back from their text.

The reader gives a document back, member by member and character by character, in whatever layout it
is written.  It limits how deep arrays and objects may nest, and it reads a number with a fraction
as the decimal that is written, which may have more digits than the one that was meant; so the
documents are those of limited nesting whose numbers are integers of sixty-four bits.

New notions:
* `IsWithin` — documents that nest at most so deep, with integers of sixty-four bits for numbers;
* `IsRead` — whether a document is read from its text, whatever stands behind it;
* `readWithin?` — the reader with another limit.

Main results:
* `stringBody?_quoted`, `magnitude?_digitsOf` — strings and integers;
* `isRead_array`, `isRead_object` — an array and an object, if their elements and members are read;
* `readWithin?_text` — a document is read from its text, compact or with an indent.
-/
import Screenplay.Proofs.Json.Layout

namespace Screenplay.Json

/-! ### Between tokens -/

section Between

variable {blanks : List Char} {depth fuel : Nat}

theorem skipBlanks_layout (h : ∀ c ∈ blanks, isLayout c) (rest : List Char) :
    skipBlanks (blanks ++ rest) = skipBlanks rest :=
  List.dropWhile_append_of_pos h

theorem skipBlanks_cons {c : Char} (h : isLayout c = false) (rest : List Char) :
    skipBlanks (c :: rest) = c :: rest :=
  List.dropWhile_cons_of_neg (ne_true_of_eq_false h)

theorem skipBlanks_mark {mark : Char} (h : ∀ c ∈ blanks, isLayout c) (hmark : isLayout mark = false)
    (rest : List Char) : skipBlanks (blanks ++ mark :: rest) = mark :: rest := by
  rw [skipBlanks_layout h, skipBlanks_cons hmark]

theorem value?_layout (h : ∀ c ∈ blanks, isLayout c) (rest : List Char) :
    value? depth fuel (blanks ++ rest) = value? depth fuel rest := by
  cases fuel with
  | zero => rfl
  | succ fuel => rw [value?, value?, skipBlanks_layout h]

theorem items?_layout (h : ∀ c ∈ blanks, isLayout c) (rest : List Char) :
    items? depth fuel (blanks ++ rest) = items? depth fuel rest := by
  cases fuel with
  | zero => rfl
  | succ fuel => rw [items?, items?, value?_layout h]

theorem members?_layout (h : ∀ c ∈ blanks, isLayout c) (rest : List Char) :
    members? depth fuel (blanks ++ rest) = members? depth fuel rest := by
  cases fuel with
  | zero => rfl
  | succ fuel => rw [members?, members?, skipBlanks_layout h]

end Between

/-! ### Strings -/

theorem hexUnit?_digitChar :
    ∀ n < 0x20, hexUnit? '0' '0' (Nat.digitChar (n / 16)) (Nat.digitChar (n % 16)) = some n := by
  decide

/-- A character is read from its escaped form. -/
theorem stringBody?_escape (c : Char) (rest : List Char) :
    stringBody? (escape c ++ rest) = (stringBody? rest).map fun (cs, tail) => (c :: cs, tail) := by
  unfold escape
  split_ifs with hquote hbackslash hfeed hreturn htab hback hform hcontrol
  · subst hquote
    simp [stringBody?, escaped?]
  · subst hbackslash
    simp [stringBody?, escaped?]
  · subst hfeed
    simp [stringBody?, escaped?]
  · subst hreturn
    simp [stringBody?, escaped?]
  · subst htab
    simp [stringBody?, escaped?]
  · subst hback
    simp [stringBody?, escaped?]
  · subst hform
    simp [stringBody?, escaped?]
  · have hunit := hexUnit?_digitChar c.toNat hcontrol
    have hhigh : isHighSurrogate c.toNat = false := by
      simp [isHighSurrogate]
      omega
    have hlow : isLowSurrogate c.toNat = false := by
      simp [isLowSurrogate]
      omega
    simp [stringBody?, hunit, hhigh, hlow]
  · simp [stringBody?, hbackslash, hcontrol]

/-- A string is read up to its closing quote. -/
theorem stringBody?_quoted (cs rest : List Char) :
    stringBody? (cs.flatMap escape ++ '"' :: rest) = some (cs, rest) := by
  induction cs with
  | nil => simp [stringBody?]
  | cons c cs ih =>
    rw [List.flatMap_cons, List.append_assoc, stringBody?_escape, ih, Option.map_some]

/-! ### Integers -/

/-- Whether what stands behind a value ends it: nothing, layout, or a mark. -/
def EndsValue (rest : List Char) : Prop :=
  ∀ c ∈ rest.head?, isLayout c ∨ c = ',' ∨ c = ']' ∨ c = '\x7d'

theorem EndsValue.not_isNumeric {rest : List Char} (h : EndsValue rest) :
    ∀ c ∈ rest.head?, isNumeric c = false ∧ c ≠ 'E' := by
  intro c hc
  have hlayout := h c hc
  simp only [isLayout, Bool.or_eq_true, decide_eq_true_eq] at hlayout
  rcases hlayout with (((rfl | rfl) | rfl) | rfl) | rfl | rfl | rfl <;> decide

theorem endsValue_nil : EndsValue [] := by simp [EndsValue]

theorem endsValue_layout {gap : List Char} {mark : Char} (h : ∀ c ∈ gap, isLayout c)
    (hmark : mark = ',' ∨ mark = ']' ∨ mark = '\x7d') (rest : List Char) :
    EndsValue (gap ++ mark :: rest) := by
  intro c hc
  cases gap with
  | nil =>
    obtain rfl : mark = c := by simpa using hc
    exact .inr hmark
  | cons d gap =>
    obtain rfl : d = c := by simpa using hc
    exact .inl (h d List.mem_cons_self)

/-- Digits of a number that fits sixty-four bits are all taken up. -/
theorem appendDigits_eq {digits : List Char} {significand : Nat}
    (h : Nat.ofDigitChars 10 digits significand < UInt64.size) :
    appendDigits significand digits = (Nat.ofDigitChars 10 digits significand, []) := by
  induction digits generalizing significand with
  | nil => rfl
  | cons c digits ih =>
    rw [Nat.ofDigitChars_cons] at h ⊢
    have hnext : significand * 10 + (c.toNat - '0'.toNat) < UInt64.size := by
      rw [Nat.ofDigitChars_eq_ofDigitChars_zero] at h
      have hpow : 0 < 10 ^ digits.length := Nat.pow_pos (by decide)
      have hle := Nat.le_mul_of_pos_left (10 * significand + (c.toNat - '0'.toNat)) hpow
      omega
    rw [appendDigits]
    simp only [if_pos hnext]
    rw [Nat.mul_comm significand]
    exact ih h

/-- Only zero is written with a zero in front. -/
theorem digitsOf_of_head? {n : Nat} (h : (Decimal.digitsOf n).head? = some '0') :
    Decimal.digitsOf n = ['0'] := by
  have hdigit : ∀ d < 10, Nat.digitChar d = '0' → d = 0 := by decide
  have hzero : n = 0 := by
    induction n using Nat.strong_induction_on with
    | _ n ih =>
      rw [Decimal.digitsOf, Nat.toDigits_eq_if (by decide)] at h
      split at h
      · next hlt => exact hdigit n hlt (Option.some.inj h)
      · next hle =>
        obtain ⟨c, cs, hcs⟩ := List.exists_cons_of_ne_nil
          (Nat.toDigits_ne_nil : Nat.toDigits 10 (n / 10) ≠ [])
        rw [hcs] at h
        have hhead : (Decimal.digitsOf (n / 10)).head? = some '0' := by
          rw [Decimal.digitsOf, hcs]
          exact h
        have := ih (n / 10) (by omega) hhead
        omega
  subst hzero
  rfl

section Digits

variable {n : Nat} {rest : List Char}

theorem takeWhile_digitsOf (h : EndsValue rest) :
    (Decimal.digitsOf n ++ rest).takeWhile Char.isDigit = Decimal.digitsOf n ∧
      (Decimal.digitsOf n ++ rest).dropWhile Char.isDigit = rest := by
  have hdigits : ∀ c ∈ Decimal.digitsOf n, c.isDigit := fun c hc =>
    Nat.isDigit_of_mem_toDigits (by decide) (by decide) hc
  rw [List.takeWhile_append_of_pos hdigits, List.dropWhile_append_of_pos hdigits]
  cases rest with
  | nil => simp
  | cons c rest =>
    have hc : ¬c.isDigit := by
      intro hdigit
      have hnumeric := (h.not_isNumeric c rfl).1
      simp [isNumeric, hdigit] at hnumeric
    rw [List.takeWhile_cons_of_neg hc, List.dropWhile_cons_of_neg hc, List.append_nil]
    exact ⟨rfl, rfl⟩

theorem fraction?_of_endsValue (h : EndsValue rest) : fraction? rest = some (none, rest) := by
  unfold fraction?
  split
  · exact absurd (h.not_isNumeric '.' rfl).1 (by decide)
  · rfl

theorem exponent?_of_endsValue (h : EndsValue rest) : exponent? rest = some (none, rest) := by
  cases rest with
  | nil => rfl
  | cons c rest =>
    obtain ⟨hnumeric, hcapital⟩ := h.not_isNumeric c rfl
    have hsmall : c ≠ 'e' := by
      rintro rfl
      exact absurd hnumeric (by decide)
    simp [exponent?, hsmall, hcapital]

/-- An integer without its sign is read from its digits. -/
theorem magnitude?_digitsOf (hn : n < UInt64.size) (h : EndsValue rest) (negative : Bool) :
    magnitude? negative (Decimal.digitsOf n ++ rest) =
      some (.integer (if negative then -(n : Int) else n), rest) := by
  obtain ⟨hwhole, hrest⟩ := takeWhile_digitsOf (n := n) h
  have hvalue : Nat.ofDigitChars 10 (Decimal.digitsOf n) 0 = n := Nat.ofDigitChars_ten_toDigits
  have hleading : ¬(Decimal.digitsOf n = [] ∨
      ((Decimal.digitsOf n).head? = some '0' ∧ Decimal.digitsOf n ≠ ['0'])) := by
    rintro (hnone | ⟨hzero, hlong⟩)
    · exact Nat.toDigits_ne_nil hnone
    · exact hlong (digitsOf_of_head? hzero)
  have hsignificand : appendDigits 0 (Decimal.digitsOf n) = (n, []) := by
    rw [appendDigits_eq (by rwa [hvalue]), hvalue]
  have hrange : inDoubleRange n 0 = true := by
    simp only [inDoubleRange, Int.le_refl, decide_true, Bool.true_or]
  simp [magnitude?, hwhole, hrest, hleading, fraction?_of_endsValue h, exponent?_of_endsValue h,
    hsignificand, appendDigits, hrange, hvalue]

end Digits

/-! ### Values -/

/-- Whether a document is read from its text in any layout, whatever stands behind it. -/
def IsRead (depth : Nat) (document : Json) : Prop :=
  ∀ (indent : Option Nat) (level fuel : Nat) (rest : List Char), EndsValue rest →
    2 * (write indent level document).length ≤ fuel →
    value? depth (fuel + 1) (write indent level document ++ rest) = some (document, rest)

section Values

variable {depth fuel : Nat}

theorem isRead_null (depth : Nat) : IsRead depth .null := by
  intro indent level fuel rest _ _
  rw [write]
  rfl

theorem isRead_bool (depth : Nat) (value : Bool) : IsRead depth (.bool value) := by
  intro indent level fuel rest _ _
  cases value with
  | true =>
    rw [write]
    rfl
  | false =>
    rw [write]
    rfl

theorem quoted_append (s : String) (rest : List Char) :
    quoted s ++ rest = '"' :: (s.toList.flatMap escape ++ '"' :: rest) := by
  simp [quoted]

theorem value?_quote (depth fuel : Nat) (cs : List Char) :
    value? depth (fuel + 1) ('"' :: cs) =
      (stringBody? cs).map fun (cs, tail) => (.string (String.ofList cs), tail) := rfl

theorem isRead_string (depth : Nat) (s : String) : IsRead depth (.string s) := by
  intro indent level fuel rest _ _
  rw [write, quoted_append, value?_quote, stringBody?_quoted]
  simp only [Option.map_some, String.ofList_toList]

theorem value?_minus (depth fuel : Nat) (cs : List Char) :
    value? depth (fuel + 1) ('-' :: cs) = magnitude? true cs := rfl

/-- A text that begins with a digit is read as a number. -/
theorem value?_digit {c : Char} (h : c.isDigit) (cs : List Char) :
    value? depth (fuel + 1) (c :: cs) = magnitude? false (c :: cs) := by
  have hne : ∀ d, d.isDigit = false → c ≠ d := by
    rintro d hd rfl
    exact absurd h (by simp [hd])
  have hlayout : isLayout c = false := (not_isLayout_of_isNumeric (by simp [isNumeric, h])).1
  rw [value?, skipBlanks_cons hlayout]
  split
  case h_8 => rfl
  all_goals
    next heq => exact absurd (List.cons.inj heq).1 (hne _ (by decide))

theorem isRead_integer (depth : Nat) {n : Int} (h : n.natAbs < UInt64.size) :
    IsRead depth (.integer n) := by
  intro indent level fuel rest hrest _
  rw [write, Decimal.integerText]
  by_cases hneg : n < 0
  · have hn : -(n.natAbs : Int) = n := by omega
    rw [if_pos hneg, List.cons_append, value?_minus, magnitude?_digitsOf h hrest, if_pos rfl, hn]
  · have hn : (n.natAbs : Int) = n := by omega
    have hsome : Decimal.digitsOf n.natAbs ≠ [] := Nat.toDigits_ne_nil
    obtain ⟨c, cs, hdigits⟩ := List.exists_cons_of_ne_nil hsome
    have hmem : c ∈ Decimal.digitsOf n.natAbs := hdigits ▸ List.mem_cons_self
    have hc : c.isDigit := Nat.isDigit_of_mem_toDigits (by decide) (by decide) hmem
    rw [if_neg hneg, hdigits, List.cons_append, value?_digit hc, ← List.cons_append, ← hdigits,
      magnitude?_digitsOf h hrest, if_neg (by decide), hn]

/-! ### Arrays -/

/-- What a value is read from does not begin with a bracket that closes an array. -/
theorem skipBlanks_ne_bracket {cs : List Char} {x : Json × List Char}
    (h : value? depth fuel cs = some x) (tail : List Char) : skipBlanks cs ≠ ']' :: tail := by
  intro hbracket
  cases fuel with
  | zero => cases h
  | succ fuel =>
    rw [value?, hbracket] at h
    cases h

theorem value?_array {cs : List Char} (h : ∀ tail, skipBlanks cs ≠ ']' :: tail) :
    value? (depth + 2) (fuel + 1) ('[' :: cs) =
      (items? (depth + 1) fuel cs).map fun (items, tail) => (.array items, tail) := by
  have hdepth : ¬depth + 2 ≤ 1 := by omega
  rw [value?, skipBlanks_cons (by decide)]
  simp only [if_neg hdepth]
  rfl

theorem endsValue_writeItems {closing : List Char} (h : EndsValue closing) (indent : Option Nat)
    (level : Nat) (items : List Json) : EndsValue (writeItems indent level items ++ closing) := by
  cases items with
  | nil => rwa [writeItems]
  | cons item items =>
    rw [writeItems]
    simp only [List.cons_append]
    exact endsValue_layout (List.forall_mem_nil _) (.inl rfl) _

/-- The elements of an array are read up to its bracket, if each of them is. -/
theorem items?_write {item : Json} {items : List Json} (h : ∀ x ∈ item :: items, IsRead depth x)
    (indent : Option Nat) (level : Nat) {gap : List Char} (hgap : ∀ c ∈ gap, isLayout c)
    (rest : List Char)
    (hfuel : 2 * (write indent level item ++ writeItems indent level items).length ≤ fuel) :
    items? depth (fuel + 2)
        (write indent level item ++ (writeItems indent level items ++ (gap ++ ']' :: rest))) =
      some (item :: items, rest) := by
  have hclosing : EndsValue (gap ++ ']' :: rest) := endsValue_layout hgap (.inr (.inl rfl)) rest
  induction items generalizing item fuel with
  | nil =>
    rw [writeItems, List.append_nil] at hfuel
    have hread := h item List.mem_cons_self indent level fuel _ hclosing hfuel
    rw [writeItems, List.nil_append, items?, hread]
    simp only [skipBlanks_mark hgap (by decide : isLayout ']' = false)]
  | cons next items ih =>
    obtain ⟨hitem, hitems⟩ := List.forall_mem_cons.mp h
    rw [List.length_append] at hfuel
    have hread := hitem indent level fuel _
      (endsValue_writeItems hclosing indent level (next :: items)) (by omega)
    rw [items?, hread]
    rw [writeItems] at hfuel ⊢
    simp only [List.append_assoc, List.cons_append, List.length_append, List.length_cons]
      at hfuel ⊢
    -- the comma pays for the two steps to the next element
    obtain ⟨left, rfl⟩ : ∃ left, fuel = left + 1 := ⟨fuel - 1, by omega⟩
    have hnext := @ih left next hitems (by rw [List.length_append]; omega)
    simp only [skipBlanks_cons (by decide : isLayout ',' = false),
      items?_layout (isLayout_lineBreak indent level), hnext, Option.map_some]

/-- An array is read if its elements are. -/
theorem isRead_array {items : List Json} (h : ∀ item ∈ items, IsRead (depth + 1) item) :
    IsRead (depth + 2) (.array items) := by
  intro indent level fuel rest hrest hfuel
  cases items with
  | nil =>
    rw [write]
    rfl
  | cons item items =>
    rw [write] at hfuel ⊢
    simp only [List.append_assoc, List.cons_append, List.nil_append, List.length_append,
      List.length_cons] at hfuel ⊢
    obtain ⟨left, rfl⟩ : ∃ left, fuel = left + 2 := ⟨fuel - 2, by omega⟩
    have hlength : 2 * (write indent (level + 1) item ++
        writeItems indent (level + 1) items).length ≤ left := by
      rw [List.length_append]
      omega
    have hread := items?_write h indent (level + 1) (isLayout_lineBreak indent level) rest hlength
    rw [value?_array, items?_layout (isLayout_lineBreak indent (level + 1)), hread,
      Option.map_some]
    -- the first element is read, so it does not begin with a bracket
    intro tail
    rw [skipBlanks_layout (isLayout_lineBreak indent (level + 1))]
    have hclosing : EndsValue (lineBreak indent level ++ ']' :: rest) :=
      endsValue_layout (isLayout_lineBreak indent level) (.inr (.inl rfl)) rest
    have hitem := h item List.mem_cons_self indent (level + 1) _ _
      (endsValue_writeItems hclosing indent (level + 1) items) (Nat.le_refl _)
    exact skipBlanks_ne_bracket hitem tail

/-! ### Objects -/

theorem value?_object {cs : List Char} (h : ∀ tail, skipBlanks cs ≠ '\x7d' :: tail) :
    value? (depth + 2) (fuel + 1) ('\x7b' :: cs) =
      (members? (depth + 1) fuel cs).map fun (members, tail) => (.object members, tail) := by
  have hdepth : ¬depth + 2 ≤ 1 := by omega
  rw [value?, skipBlanks_cons (by decide)]
  simp only [if_neg hdepth]
  rfl

theorem endsValue_writeMembers {closing : List Char} (h : EndsValue closing) (indent : Option Nat)
    (level : Nat) (members : List (String × Json)) :
    EndsValue (writeMembers indent level members ++ closing) := by
  cases members with
  | nil => rwa [writeMembers]
  | cons member members =>
    rw [writeMembers]
    simp only [List.cons_append]
    exact endsValue_layout (List.forall_mem_nil _) (.inl rfl) _

theorem exists_colon_eq (indent : Option Nat) :
    ∃ blanks, colon indent = ':' :: blanks ∧ ∀ c ∈ blanks, isLayout c := by
  cases indent with
  | none => exact ⟨[], rfl, List.forall_mem_nil _⟩
  | some width => exact ⟨[' '], rfl, List.forall_mem_singleton.mpr (by decide)⟩

/-- The members of an object are read up to its brace, if the value of each of them is. -/
theorem members?_write {key : String} {value : Json} {members : List (String × Json)}
    (h : ∀ member ∈ (key, value) :: members, IsRead depth member.2)
    (indent : Option Nat) (level : Nat) {gap : List Char} (hgap : ∀ c ∈ gap, isLayout c)
    (rest : List Char)
    (hfuel : 2 * (write indent level value ++ writeMembers indent level members).length ≤ fuel) :
    members? depth (fuel + 2)
        (quoted key ++ (colon indent ++ (write indent level value ++
          (writeMembers indent level members ++ (gap ++ '\x7d' :: rest))))) =
      some ((key, value) :: members, rest) := by
  obtain ⟨blanks, hcolon, hblanks⟩ := exists_colon_eq indent
  have hclosing : EndsValue (gap ++ '\x7d' :: rest) := endsValue_layout hgap (.inr (.inr rfl)) rest
  induction members generalizing key value fuel with
  | nil =>
    rw [writeMembers, List.append_nil] at hfuel
    have hvalue : IsRead depth value := h (key, value) List.mem_cons_self
    have hread := hvalue indent level fuel _ hclosing hfuel
    rw [writeMembers, List.nil_append, members?, quoted_append, hcolon, List.cons_append,
      skipBlanks_cons (by decide)]
    simp only [stringBody?_quoted, skipBlanks_cons (by decide : isLayout ':' = false),
      value?_layout hblanks, hread, skipBlanks_mark hgap (by decide : isLayout '\x7d' = false),
      String.ofList_toList]
  | cons next members ih =>
    obtain ⟨key', value'⟩ := next
    have hvalue : IsRead depth value := (List.forall_mem_cons.mp h).1
    have hmembers := (List.forall_mem_cons.mp h).2
    rw [List.length_append] at hfuel
    have hread := hvalue indent level fuel _
      (endsValue_writeMembers hclosing indent level ((key', value') :: members)) (by omega)
    rw [members?, quoted_append, skipBlanks_cons (by decide)]
    simp only [stringBody?_quoted]
    rw [hcolon, List.cons_append]
    simp only [skipBlanks_cons (by decide : isLayout ':' = false), value?_layout hblanks, hread]
    rw [writeMembers] at hfuel ⊢
    simp only [List.append_assoc, List.cons_append, List.length_append, List.length_cons]
      at hfuel ⊢
    obtain ⟨left, rfl⟩ : ∃ left, fuel = left + 1 := ⟨fuel - 1, by omega⟩
    have hnext := @ih left key' value' hmembers (by rw [List.length_append]; omega)
    simp only [skipBlanks_cons (by decide : isLayout ',' = false),
      members?_layout (isLayout_lineBreak indent level), hnext, Option.map_some,
      String.ofList_toList]

/-- An object is read if the values of its members are. -/
theorem isRead_object {members : List (String × Json)}
    (h : ∀ member ∈ members, IsRead (depth + 1) member.2) :
    IsRead (depth + 2) (.object members) := by
  intro indent level fuel rest hrest hfuel
  cases members with
  | nil =>
    rw [write]
    rfl
  | cons member members =>
    obtain ⟨key, value⟩ := member
    rw [write] at hfuel ⊢
    simp only [List.append_assoc, List.cons_append, List.nil_append, List.length_append,
      List.length_cons] at hfuel ⊢
    obtain ⟨left, rfl⟩ : ∃ left, fuel = left + 2 := ⟨fuel - 2, by omega⟩
    have hlength : 2 * (write indent (level + 1) value ++
        writeMembers indent (level + 1) members).length ≤ left := by
      rw [List.length_append]
      omega
    have hread := members?_write h indent (level + 1) (isLayout_lineBreak indent level) rest
      hlength
    rw [value?_object, members?_layout (isLayout_lineBreak indent (level + 1)), hread,
      Option.map_some]
    intro tail
    rw [skipBlanks_layout (isLayout_lineBreak indent (level + 1)), quoted_append,
      skipBlanks_cons (by decide)]
    simp

end Values

/-! ### Documents -/

/-- Documents whose arrays and objects nest at most so deep, and whose numbers are integers of
sixty-four bits. -/
inductive IsWithin : Nat → Json → Prop
  | null {depth} : IsWithin depth .null
  | bool {depth value} : IsWithin depth (.bool value)
  | integer {depth} {n : Int} (h : n.natAbs < UInt64.size) : IsWithin depth (.integer n)
  | string {depth s} : IsWithin depth (.string s)
  | array {depth items} (h : ∀ item ∈ items, IsWithin depth item) :
      IsWithin (depth + 1) (.array items)
  | object {depth members} (h : ∀ member ∈ members, IsWithin depth member.2) :
      IsWithin (depth + 1) (.object members)

namespace IsWithin

variable {depth deeper : Nat} {document : Json}

theorem mono (h : IsWithin depth document) (hle : depth ≤ deeper) : IsWithin deeper document := by
  induction h generalizing deeper with
  | null => exact .null
  | bool => exact .bool
  | integer h => exact .integer h
  | string => exact .string
  | array _ ih =>
    obtain ⟨inner, rfl⟩ : ∃ inner, deeper = inner + 1 := ⟨deeper - 1, by omega⟩
    exact .array fun item hitem => ih item hitem (by omega)
  | object _ ih =>
    obtain ⟨inner, rfl⟩ : ∃ inner, deeper = inner + 1 := ⟨deeper - 1, by omega⟩
    exact .object fun member hmember => ih member hmember (by omega)

theorem isRead (h : IsWithin depth document) : IsRead (depth + 1) document := by
  induction h with
  | null => exact isRead_null _
  | bool => exact isRead_bool _ _
  | integer h => exact isRead_integer _ h
  | string => exact isRead_string _ _
  | array _ ih => exact isRead_array ih
  | object _ ih => exact isRead_object ih

end IsWithin

/-- Reads a document that fills the text, with arrays and objects nested less deep than a limit. -/
def readWithin? (limit : Nat) (text : String) : Option Json :=
  let cs := text.toList
  match value? limit (2 * cs.length + 2) cs with
  | some (document, rest) => if skipBlanks rest = [] then some document else none
  | none => none

theorem read?_eq (text : String) : read? text = readWithin? 128 text := rfl

/-- **A document is read back from its text**, compact or with an indent, by a reader whose limit is
above its nesting. -/
theorem readWithin?_text {depth : Nat} {document : Json} (h : IsWithin depth document)
    (indent : Option Nat) : readWithin? (depth + 1) (document.text indent) = some document := by
  have hread := h.isRead indent 0 (2 * (write indent 0 document).length + 1) [] endsValue_nil
    (Nat.le_succ _)
  rw [List.append_nil] at hread
  simp only [readWithin?, text, String.toList_ofList, hread]
  rfl

end Screenplay.Json
