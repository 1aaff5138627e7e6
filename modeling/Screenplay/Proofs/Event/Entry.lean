/-
Entries of the type as they are written.

A line of the preamble that sets an entry of the type is a key and a value with a colon between
them, and the value may hold colons, too.  The key that is set is the one that is written if and
only if the value holds no colon that the key may end at; otherwise the key is longer by a part of
the value.  A property ends its key at the first colon whatever its value holds.

New notions:
* `SetsEntry` — whether a line of a preamble sets one entry of the type and nothing else.

Main results:
* `setsEntry_entryLine_iff` — which entries set the key and the value that they are written for;
* `exists_setsEntry` — what the others set;
* `first_colon_iff` — the values of properties and of type entries, read and written.
-/
import Screenplay.Proofs.Event.Preamble
import Screenplay.Proofs.Line.Property

namespace Screenplay

open Line Text

/-- Whether a line of a preamble sets one entry of the type and nothing else, whatever has been set
above it. -/
def SetsEntry (text key : String) (value : TypeValue) : Prop :=
  ∀ (cast : Cast) (event : Event) (number : Nat),
    EventDraft.feed cast { event } ⟨number, text⟩ =
      pure { event := { event with metadata := event.metadata.set key value } }

theorem setsEntry_of_typeEntry {text key value : String}
    (h : EventLine.ofText text = .typeEntry (some key) value) :
    SetsEntry text key (.coerce value) := by
  intro cast event number
  rw [EventDraft.feed, h]
  rfl

/-- A line sets one entry only. -/
theorem SetsEntry.unique {text key key' : String} {value value' : TypeValue}
    (h : SetsEntry text key value) (h' : SetsEntry text key' value') :
    key = key' ∧ value = value' := by
  have hrun := (h .empty {} 0).symm.trans (h' .empty {} 0)
  have hdraft := Except.ok.inj (congrArg Reported.result hrun)
  have hset := congrArg (fun draft => draft.event.metadata.entries) hdraft
  exact Prod.mk.inj (List.singleton_inj.mp hset)

section Entries

variable {key gap value : String}

/-- An entry sets the key that is written to the value that is written if and only if the value
holds no colon that the key may end at. -/
theorem setsEntry_entryLine_iff (hkey : IsSubkey key.toList) (hgap : ∀ c ∈ gap.toList, isBlank c)
    (hgapLine : '\n' ∉ gap.toList) (hvalue : IsTrimmed value.toList)
    (hline : '\n' ∉ value.toList) :
    SetsEntry (entryLine key gap value) key (.coerce value) ↔
      ¬HoldsColon (gap.toList ++ value.toList) := by
  constructor
  · intro h hcolon
    obtain ⟨word, blanks, after, -, -, hform⟩ := exists_ofText_entry hkey hgapLine hline hcolon
    -- the key that is read has a colon more than the one that is written
    have hlength := congrArg String.length (h.unique (setsEntry_of_typeEntry hform)).1
    have hcolons : (":" : String).length = 1 := rfl
    rw [String.length_append, String.length_append, hcolons] at hlength
    omega
  · intro hcolon
    exact setsEntry_of_typeEntry (ofText_entry hkey hgap hgapLine hvalue hline hcolon)

/-- An entry whose value holds such a colon sets a longer key to a part of the value. -/
theorem exists_setsEntry (hkey : IsSubkey key.toList) (hgapLine : '\n' ∉ gap.toList)
    (hline : '\n' ∉ value.toList) (hcolon : HoldsColon (gap.toList ++ value.toList)) :
    ∃ word blanks after, gap.toList ++ value.toList = word ++ (blanks ++ ':' :: after) ∧
      (∀ c ∈ blanks, isBlank c) ∧
      SetsEntry (entryLine key gap value) (key ++ ":" ++ String.ofList word)
        (.coerce (String.ofList (trim after))) := by
  obtain ⟨word, blanks, after, htext, hblanks, hform⟩ :=
    exists_ofText_entry hkey hgapLine hline hcolon
  exact ⟨word, blanks, after, htext, hblanks, setsEntry_of_typeEntry hform⟩

end Entries

/-- **A key ends at the first colon, unless it is one of the type.**  The value of a property stands
behind the first colon of its line, and so does that of a type entry if and only if its key holds no
colon.  An entry that is written with a key without a colon sets this key to its value if and only
if the value holds no colon that the key may end at, and a longer key otherwise; a property keeps
the key and the value that are written. -/
theorem first_colon_iff (text : String) :
    (∀ key value, EventLine.ofText text = .property key value →
      value = String.ofList (trim (afterColon text.toList))) ∧
    (∀ key value, EventLine.ofText text = .typeEntry key value →
      (value = String.ofList (trim (afterColon text.toList)) ↔ ∀ name ∈ key, ':' ∉ name.toList)) ∧
    (∀ key gap value : String, text = entryLine key gap value → IsSubkey key.toList →
      (∀ c ∈ gap.toList, isBlank c) → '\n' ∉ gap.toList → IsTrimmed value.toList →
      '\n' ∉ value.toList →
      (SetsEntry text key (.coerce value) ↔ ¬HoldsColon (gap.toList ++ value.toList)) ∧
      (HoldsColon (gap.toList ++ value.toList) →
        ∃ word blanks after, gap.toList ++ value.toList = word ++ (blanks ++ ':' :: after) ∧
          (∀ c ∈ blanks, isBlank c) ∧
          SetsEntry text (key ++ ":" ++ String.ofList word)
            (.coerce (String.ofList (trim after))))) ∧
    ∀ key gap value : String, text = propertyLine key gap value → IsPropertyKey key.toList →
      (∀ c ∈ gap.toList, isBlank c) → '\n' ∉ gap.toList → IsTrimmed value.toList →
      '\n' ∉ value.toList → EventLine.ofText text = .property key value := by
  refine ⟨fun key value => value_of_property, fun key value => value_of_typeEntry_iff, ?_, ?_⟩
  · rintro key gap value rfl hkey hgap hgapLine hvalue hline
    exact ⟨setsEntry_entryLine_iff hkey hgap hgapLine hvalue hline,
      exists_setsEntry hkey hgapLine hline⟩
  · rintro key gap value rfl hkey hgap hgapLine hvalue hline
    exact ofText_property hkey hgap hgapLine hvalue hline

/-- A value with a colon behind its first word, and a property with one in its value. -/
theorem first_colon_iff_noted :
    SetsEntry (entryLine "note" " " "see a:b") "note" (.coerce "see a:b") ∧
      EventLine.ofText (propertyLine "condition" " " "a:b") = .property "condition" "a:b" ∧
      "a:b" = String.ofList (trim (afterColon (propertyLine "condition" " " "a:b").toList)) := by
  have hnote : IsSubkey "note".toList :=
    ⟨by decide, List.all_eq_true.mp (by decide), by decide⟩
  have hcondition : IsPropertyKey "condition".toList :=
    ⟨by decide, List.all_eq_true.mp (by decide), by decide⟩
  have hgap : ∀ c ∈ " ".toList, isBlank c := List.all_eq_true.mp (by decide)
  have hvalue : IsTrimmed "see a:b".toList :=
    ⟨⟨_, _, rfl, by decide⟩, "see a:".toList, 'b', rfl, by decide⟩
  have hother : IsTrimmed "a:b".toList := ⟨⟨_, _, rfl, by decide⟩, "a:".toList, 'b', rfl, by decide⟩
  have hcolon : ¬HoldsColon (" ".toList ++ "see a:b".toList) := by
    intro h
    obtain ⟨after, -, hfirst⟩ := (holdsColon_gap_iff (by decide) hvalue).mp h
    exact absurd (List.cons.inj hfirst).1 (by decide)
  have hentry := (first_colon_iff (entryLine "note" " " "see a:b")).2.2.1 "note" " " "see a:b" rfl
    hnote hgap (by decide) hvalue (by decide)
  obtain ⟨hvalueOf, -, -, hform⟩ := first_colon_iff (propertyLine "condition" " " "a:b")
  have hproperty := hform "condition" " " "a:b" rfl hcondition hgap (by decide) hother (by decide)
  exact ⟨hentry.1.mpr hcolon, hproperty, hvalueOf _ _ hproperty⟩

/-- A key may take the first colon of a line in, and then what was written is not what is set. -/
theorem first_colon_missed :
    EventLine.ofText "type.a:b:c" = .typeEntry (some "a:b") "c" ∧
      "c" ≠ String.ofList (trim (afterColon "type.a:b:c".toList)) ∧
      ¬SetsEntry "type.a:b:c" "a" (.coerce "b:c") := by
  have hform : EventLine.ofText "type.a:b:c" = .typeEntry (some "a:b") "c" := by decide
  refine ⟨hform, by decide, fun h => ?_⟩
  exact absurd (h.unique (setsEntry_of_typeEntry hform)).1 (by decide)

end Screenplay
