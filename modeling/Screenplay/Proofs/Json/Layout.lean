/-
The layout of a written document.

With an indent, line breaks and blanks stand between the tokens of a document.  They can be told
from the blanks that belong to a string: a string reaches from its quote to the next one that no
backslash stands in front of, and outside of strings nothing but layout is blank.

New notions:
* `isLayout` — the blanks that may stand between tokens;
* `withoutLayout` — a text without the blanks outside of its strings.

Main results:
* `withoutLayout_quoted` — a string is left as it is;
* `withoutLayout_text` — without its layout, a document with an indent is the compact one.
-/
import Mathlib.Data.List.TakeWhile
import Screenplay.Json.Read
import Screenplay.Json.Write

namespace Screenplay.Json

/-- The blanks that may stand between tokens. -/
def isLayout (c : Char) : Bool := c = ' ' || c = '\n' || c = '\t' || c = '\r'

mutual

/-- A text without the blanks outside of its strings. -/
def withoutLayout : List Char → List Char
  | [] => []
  | c :: cs =>
    if isLayout c then withoutLayout cs
    else if c = '"' then c :: fromString cs
    else c :: withoutLayout cs

/-- The same from inside a string on.  Up to its closing quote the string is left as it is, and a
backslash keeps the character behind it from closing the string. -/
def fromString : List Char → List Char
  | [] => []
  | '\\' :: c :: cs => '\\' :: c :: fromString cs
  | c :: cs => if c = '"' then c :: withoutLayout cs else c :: fromString cs

end

/-! ### Layout and tokens -/

section Pieces

variable {blanks token : List Char}

theorem withoutLayout_layout (h : ∀ c ∈ blanks, isLayout c) (rest : List Char) :
    withoutLayout (blanks ++ rest) = withoutLayout rest := by
  induction blanks with
  | nil => rfl
  | cons c blanks ih =>
    obtain ⟨hc, hblanks⟩ := List.forall_mem_cons.mp h
    rw [List.cons_append, withoutLayout, if_pos hc, ih hblanks]

/-- A token without blanks and quotes is left as it is. -/
theorem withoutLayout_token (h : ∀ c ∈ token, isLayout c = false ∧ c ≠ '"') (rest : List Char) :
    withoutLayout (token ++ rest) = token ++ withoutLayout rest := by
  induction token with
  | nil => rfl
  | cons c token ih =>
    obtain ⟨⟨hlayout, hquote⟩, htoken⟩ := List.forall_mem_cons.mp h
    rw [List.cons_append, withoutLayout, if_neg (by simp [hlayout]), if_neg hquote, ih htoken,
      List.cons_append]

theorem withoutLayout_mark {mark : Char} (hlayout : isLayout mark = false) (hquote : mark ≠ '"')
    (rest : List Char) : withoutLayout (mark :: rest) = mark :: withoutLayout rest :=
  withoutLayout_token (List.forall_mem_singleton.mpr ⟨hlayout, hquote⟩) rest

end Pieces

theorem isLayout_lineBreak (indent : Option Nat) (depth : Nat) :
    ∀ c ∈ lineBreak indent depth, isLayout c := by
  cases indent with
  | none => exact List.forall_mem_nil _
  | some width =>
    refine List.forall_mem_cons.mpr ⟨by decide, fun c hc => ?_⟩
    rw [List.eq_of_mem_replicate hc]
    decide

theorem withoutLayout_colon (indent : Option Nat) (rest : List Char) :
    withoutLayout (colon indent ++ rest) = colon none ++ withoutLayout rest := by
  cases indent <;> rfl

/-! ### Strings -/

theorem digitChar_plain : ∀ n < 16, Nat.digitChar n ≠ '"' ∧ Nat.digitChar n ≠ '\\' := by decide

/-- A character in a string is itself, or a backslash, a character behind it, and characters that
neither close the string nor escape anything. -/
theorem escape_cases (c : Char) :
    (escape c = [c] ∧ c ≠ '"' ∧ c ≠ '\\') ∨
      ∃ mark plain, escape c = '\\' :: mark :: plain ∧ ∀ d ∈ plain, d ≠ '"' ∧ d ≠ '\\' := by
  have hshort : ∀ mark, ∃ mark' plain, ['\\', mark] = '\\' :: mark' :: plain ∧
      ∀ d ∈ plain, d ≠ '"' ∧ d ≠ '\\' := fun mark => ⟨mark, [], rfl, List.forall_mem_nil _⟩
  unfold escape
  split_ifs with hquote hbackslash hfeed hreturn htab hback hform hcontrol
  · exact .inr (hshort '"')
  · exact .inr (hshort '\\')
  · exact .inr (hshort 'n')
  · exact .inr (hshort 'r')
  · exact .inr (hshort 't')
  · exact .inr (hshort 'b')
  · exact .inr (hshort 'f')
  · -- the code of a control character is written with four digits
    refine .inr ⟨'u', _, rfl, ?_⟩
    have hhigh := digitChar_plain (c.toNat / 16) (by omega)
    have hlow := digitChar_plain (c.toNat % 16) (by omega)
    simp only [List.forall_mem_cons]
    exact ⟨by decide, by decide, hhigh, hlow, List.forall_mem_nil _⟩
  · exact .inl ⟨rfl, hquote, hbackslash⟩

theorem fromString_plain {plain : List Char} (h : ∀ d ∈ plain, d ≠ '"' ∧ d ≠ '\\')
    (rest : List Char) : fromString (plain ++ rest) = plain ++ fromString rest := by
  induction plain with
  | nil => rfl
  | cons d plain ih =>
    obtain ⟨⟨hquote, hbackslash⟩, hplain⟩ := List.forall_mem_cons.mp h
    rw [List.cons_append, fromString, if_neg hquote, ih hplain, List.cons_append]
    intro c cs hd
    exact absurd hd hbackslash

theorem fromString_escape (c : Char) (rest : List Char) :
    fromString (escape c ++ rest) = escape c ++ fromString rest := by
  rcases escape_cases c with ⟨hescape, hquote, hbackslash⟩ | ⟨mark, plain, hescape, hplain⟩
  · rw [hescape]
    exact fromString_plain (by simp [hquote, hbackslash]) rest
  · rw [hescape, List.cons_append, List.cons_append, fromString, fromString_plain hplain]
    rfl

/-- A string is left as it is. -/
theorem withoutLayout_quoted (s : String) (rest : List Char) :
    withoutLayout (quoted s ++ rest) = quoted s ++ withoutLayout rest := by
  have hbody : ∀ cs : List Char, fromString (cs.flatMap escape ++ '"' :: rest) =
      cs.flatMap escape ++ '"' :: withoutLayout rest := by
    intro cs
    induction cs with
    | nil => rfl
    | cons c cs ih =>
      rw [List.flatMap_cons, List.append_assoc, fromString_escape, ih, List.append_assoc]
  have hquoted : ∀ tail, quoted s ++ tail = '"' :: (s.toList.flatMap escape ++ '"' :: tail) := by
    intro tail
    simp [quoted]
  rw [hquoted, hquoted, withoutLayout, if_neg (by decide), if_pos rfl, hbody]

/-! ### Numbers -/

/-- A character of a number. -/
def isNumeric (c : Char) : Bool := c.isDigit || c = '-' || c = '+' || c = '.' || c = 'e'

theorem isNumeric_digitsOf (n : Nat) : ∀ c ∈ Decimal.digitsOf n, isNumeric c := by
  intro c hc
  simp [isNumeric, Nat.isDigit_of_mem_toDigits (by decide) (by decide) hc]

theorem isNumeric_positionalText {digits : List Char} (h : ∀ c ∈ digits, isNumeric c)
    (exponent : Int) : ∀ c ∈ Decimal.positionalText digits exponent, isNumeric c := by
  have hzeros : ∀ n, ∀ c ∈ List.replicate n '0', isNumeric c := by
    intro n c hc
    rw [List.eq_of_mem_replicate hc]
    decide
  unfold Decimal.positionalText
  split
  · simp only [List.forall_mem_append]
    exact ⟨⟨h, hzeros _⟩, List.all_eq_true.mp (by decide)⟩
  · have hpadded := List.forall_mem_append.mpr
      ⟨hzeros (exponent.natAbs + 1 - digits.length), h⟩
    rw [List.forall_mem_append, List.forall_mem_cons]
    exact ⟨fun c hc => hpadded c (List.mem_of_mem_take hc), by decide,
      fun c hc => hpadded c (List.mem_of_mem_drop hc)⟩

theorem isNumeric_scientificText {digits : List Char} (h : ∀ c ∈ digits, isNumeric c)
    (power : Int) : ∀ c ∈ Decimal.scientificText digits power, isNumeric c := by
  unfold Decimal.scientificText
  simp only [List.forall_mem_append, List.forall_mem_cons]
  refine ⟨⟨fun c hc => h c (List.mem_of_mem_take hc), ?_⟩, by decide, ?_, isNumeric_digitsOf _⟩
  · split
    · exact List.forall_mem_nil _
    · exact List.forall_mem_cons.mpr ⟨by decide, fun c hc => h c (List.mem_of_mem_drop hc)⟩
  · split <;> decide

theorem isNumeric_signed {magnitude : List Char} (h : ∀ c ∈ magnitude, isNumeric c)
    (negative : Prop) [Decidable negative] :
    ∀ c ∈ (if negative then '-' :: magnitude else magnitude), isNumeric c := by
  split
  · exact List.forall_mem_cons.mpr ⟨by decide, h⟩
  · exact h

theorem isNumeric_integerText (n : Int) : ∀ c ∈ Decimal.integerText n, isNumeric c :=
  isNumeric_signed (isNumeric_digitsOf n.natAbs) _

theorem isNumeric_text (d : Decimal) : ∀ c ∈ d.text, isNumeric c := by
  have hdigits := isNumeric_digitsOf d.digits
  refine isNumeric_signed ?_ _
  split_ifs
  · exact List.all_eq_true.mp (by decide)
  · exact isNumeric_positionalText hdigits _
  · exact isNumeric_scientificText hdigits _

theorem not_isLayout_of_isNumeric {c : Char} (h : isNumeric c) : isLayout c = false ∧ c ≠ '"' := by
  have hne : ∀ d, isNumeric d = false → c ≠ d := by
    rintro d hd rfl
    exact absurd h (by simp [hd])
  have hlayout : isLayout c = false := by
    simp [isLayout, hne ' ' (by decide), hne '\n' (by decide), hne '\t' (by decide),
      hne '\r' (by decide)]
  exact ⟨hlayout, hne '"' (by decide)⟩

theorem withoutLayout_numeric {number : List Char} (h : ∀ c ∈ number, isNumeric c)
    (rest : List Char) : withoutLayout (number ++ rest) = number ++ withoutLayout rest :=
  withoutLayout_token (fun c hc => not_isLayout_of_isNumeric (h c hc)) rest

/-! ### Documents -/

mutual

theorem withoutLayout_write (indent : Option Nat) (depth depth' : Nat) :
    ∀ (document : Json) (rest : List Char),
      withoutLayout (write indent depth document ++ rest) =
        write none depth' document ++ withoutLayout rest
  | .null, rest => by
    rw [write, write]
    exact withoutLayout_token (by simp [isLayout]) rest
  | .bool true, rest => by
    rw [write, write]
    exact withoutLayout_token (by simp [isLayout]) rest
  | .bool false, rest => by
    rw [write, write]
    exact withoutLayout_token (by simp [isLayout]) rest
  | .integer n, rest => by
    rw [write, write, withoutLayout_numeric (isNumeric_integerText n)]
  | .decimal d, rest => by
    rw [write, write, withoutLayout_numeric (isNumeric_text d)]
  | .string s, rest => by
    rw [write, write, withoutLayout_quoted]
  | .array [], rest => by
    rw [write, write]
    exact withoutLayout_token (by simp [isLayout]) rest
  | .array (item :: items), rest => by
    have hitem := withoutLayout_write indent (depth + 1) (depth' + 1) item
    have hitems := withoutLayout_writeItems indent (depth + 1) (depth' + 1) items
    rw [write, write]
    simp only [List.append_assoc, List.cons_append, List.nil_append]
    rw [withoutLayout_mark (by decide) (by decide), withoutLayout_layout (isLayout_lineBreak _ _),
      hitem, hitems, withoutLayout_layout (isLayout_lineBreak _ _),
      withoutLayout_mark (by decide) (by decide)]
    rfl
  | .object [], rest => by
    rw [write, write]
    exact withoutLayout_token (by simp [isLayout]) rest
  | .object ((key, value) :: members), rest => by
    have hvalue := withoutLayout_write indent (depth + 1) (depth' + 1) value
    have hmembers := withoutLayout_writeMembers indent (depth + 1) (depth' + 1) members
    rw [write, write]
    simp only [List.append_assoc, List.cons_append, List.nil_append]
    rw [withoutLayout_mark (by decide) (by decide), withoutLayout_layout (isLayout_lineBreak _ _),
      withoutLayout_quoted, withoutLayout_colon, hvalue, hmembers,
      withoutLayout_layout (isLayout_lineBreak _ _), withoutLayout_mark (by decide) (by decide)]
    rfl

theorem withoutLayout_writeItems (indent : Option Nat) (depth depth' : Nat) :
    ∀ (items : List Json) (rest : List Char),
      withoutLayout (writeItems indent depth items ++ rest) =
        writeItems none depth' items ++ withoutLayout rest
  | [], rest => by
    rw [writeItems, writeItems]
    rfl
  | item :: items, rest => by
    have hitem := withoutLayout_write indent depth depth' item
    have hitems := withoutLayout_writeItems indent depth depth' items
    rw [writeItems, writeItems]
    simp only [List.append_assoc, List.cons_append]
    rw [withoutLayout_mark (by decide) (by decide), withoutLayout_layout (isLayout_lineBreak _ _),
      hitem, hitems]
    rfl

theorem withoutLayout_writeMembers (indent : Option Nat) (depth depth' : Nat) :
    ∀ (members : List (String × Json)) (rest : List Char),
      withoutLayout (writeMembers indent depth members ++ rest) =
        writeMembers none depth' members ++ withoutLayout rest
  | [], rest => by
    rw [writeMembers, writeMembers]
    rfl
  | (key, value) :: members, rest => by
    have hvalue := withoutLayout_write indent depth depth' value
    have hmembers := withoutLayout_writeMembers indent depth depth' members
    rw [writeMembers, writeMembers]
    simp only [List.append_assoc, List.cons_append]
    rw [withoutLayout_mark (by decide) (by decide), withoutLayout_layout (isLayout_lineBreak _ _),
      withoutLayout_quoted, withoutLayout_colon, hvalue, hmembers]
    rfl

end

/-- Without its layout, a document is the compact one. -/
theorem withoutLayout_text (indent : Option Nat) (document : Json) :
    String.ofList (withoutLayout (document.text indent).toList) = document.text none := by
  have hwrite := withoutLayout_write indent 0 0 document []
  rw [List.append_nil, withoutLayout, List.append_nil] at hwrite
  rw [text, String.toList_ofList, hwrite, text]

end Screenplay.Json
