/-
The lines of a section that are warned about.

In front of the first header a line is warned about if it says nothing, if it is a property with an
unknown key, or if it does not say whether side messages are overridden; behind it, if it is neither
a header nor a line that blocks know.  A message is read where the next header, or the end, is
found, and the messages above it have been read by then.  So the warnings come in the order of the
lines, and each line has at most one.

New notions:
* `SourceLine.preambleWarning?` — what a line of a preamble is warned about;
* `Event.messageLines` — the lines behind the first header that are no headers;
* `Notice.line?` — the line that a notice names.

Main results:
* `warnings_readPreamble`, `warnings_finishFrom` — the warnings of a preamble and of messages;
* `flatMap_lines_messages` — the lines of the messages, one after the other;
* `warnings_assemble_eq` — the warnings of a section, and that each is for a line of its own.
-/
import Screenplay.Proofs.Block.Warnings
import Screenplay.Proofs.Event.Messages

namespace Screenplay

open Text

/-- The keys of the properties of an event, in lower case. -/
def propertyKeys : List String :=
  ["frequency", "repeat", "condition", "eventtype", "loopcount", "overridesidemessage"]

namespace SourceLine

/-- The warning for a property: its key is unknown, or its value is neither true nor false where one
of them is expected.  Both are read in any case. -/
def propertyWarning? (line : SourceLine) (key value : String) : Option Notice :=
  if lowerText key ∉ propertyKeys then some (.unknownProperty line.number (lowerText key))
  else if lowerText key = "overridesidemessage" ∧ lowerText value ∉ ["true", "false"] then
    some (.unclearOverride line.number (lowerText value))
  else none

/-- The warning for a line of a preamble. -/
def preambleWarning? (line : SourceLine) : Option Notice :=
  match line.eventForm with
  | .property key value => line.propertyWarning? key value
  | .unrecognized => some (.unrecognizedPreamble line.number line.text)
  | .header _ | .typeEntry .. => none

end SourceLine

/-- The line that a notice names. -/
def Notice.line? : Notice → Option Nat
  | .unrecognizedStatement line _ | .unrecognizedPreamble line _ | .unknownProperty line _
  | .unclearOverride line _ | .outsideEvent line _ => some line
  | _ => none

/-- The lines behind the first header that are no headers themselves. -/
def Event.messageLines (lines : List SourceLine) : List SourceLine :=
  (lines.dropWhile (·.header?.isNone)).filter (·.header?.isNone)

/-! ### The preamble -/

namespace EventDraft

theorem warnings_setProperty (event : Event) (line : SourceLine) (key value : String) :
    (event.setProperty line.number key value).warnings =
      (line.propertyWarning? key value).toList := by
  unfold Event.setProperty SourceLine.propertyWarning?
  generalize lowerText key = key
  -- the keys are told apart in the order in which they are looked up
  by_cases hfrequency : key = "frequency"
  · subst hfrequency
    rfl
  by_cases hrepeat : key = "repeat"
  · subst hrepeat
    rfl
  by_cases hcondition : key = "condition"
  · subst hcondition
    rfl
  by_cases htype : key = "eventtype"
  · subst htype
    rfl
  by_cases hloop : key = "loopcount"
  · subst hloop
    cases Number.signed64? value.toList <;> simp [propertyKeys]
  by_cases hside : key = "overridesidemessage"
  · subst hside
    by_cases htrue : lowerText value = "true"
    · simp [propertyKeys, htrue]
    by_cases hfalse : lowerText value = "false"
    · simp [propertyKeys, hfalse]
    simp [propertyKeys, htrue, hfalse, Reported.warnings_note, Notice.level]
  simp [propertyKeys, hfrequency, hrepeat, hcondition, htype, hloop, hside,
    Reported.warnings_note, Notice.level]

theorem warnings_feedPreamble {line : SourceLine} (h : line.header? = none) (event : Event) :
    (feedPreamble event line line.eventForm).warnings = line.preambleWarning?.toList := by
  rw [SourceLine.preambleWarning?]
  cases hform : line.eventForm with
  | property key value => exact warnings_setProperty event line key value
  | typeEntry key value => cases key <;> rfl
  | unrecognized => rfl
  | header digits => simp [SourceLine.header?, hform] at h

theorem warnings_readPreamble {lines : List SourceLine} {event next : Event}
    (hlines : ∀ line ∈ lines, line.header? = none)
    (h : (readPreamble event lines).result = .ok next) :
    (readPreamble event lines).warnings = lines.filterMap SourceLine.preambleWarning? := by
  induction lines generalizing event with
  | nil => rfl
  | cons line lines ih =>
    obtain ⟨hline, hlines⟩ := List.forall_mem_cons.mp hlines
    rw [readPreamble, List.foldlM_cons] at h ⊢
    obtain ⟨between, hbetween, hrest⟩ := Reported.result_bind_eq_ok_iff.mp h
    rw [Reported.warnings_bind_of_ok hbetween, warnings_feedPreamble hline]
    rw [← readPreamble] at hrest ⊢
    rw [ih hlines hrest]
    cases hwarning : line.preambleWarning? with
    | none => rw [List.filterMap_cons_none hwarning, Option.toList_none, List.nil_append]
    | some notice =>
      rw [List.filterMap_cons_some hwarning, Option.toList_some, List.singleton_append]

/-! ### The messages -/

variable {cast : Cast}

/-- A message has the warnings of its block. -/
theorem warnings_addMessage {event next : Event} {message : OpenMessage}
    (h : (event.addMessage cast message).result = .ok next) :
    (event.addMessage cast message).warnings =
      message.lines.reverse.filterMap SourceLine.blockWarning? := by
  rw [Event.addMessage] at h ⊢
  obtain ⟨steps, hsteps, hrest⟩ := Reported.result_bind_eq_ok_iff.mp h
  rw [Reported.result_note_bind] at hrest
  obtain ⟨triggers, htriggers, -⟩ := Reported.result_bind_eq_ok_iff.mp hrest
  have hblock : (Block.parse cast message.lines.reverse).result = .ok steps :=
    Reported.result_mapFault_eq_ok_iff.mp hsteps
  rw [Reported.warnings_bind_of_ok hsteps, Reported.warnings_mapFault, Block.warnings_parse hblock,
    Reported.warnings_note_bind, Reported.warnings_bind_of_ok htriggers]
  exact List.append_nil _

/-- The lines of the message that is open, in their order. -/
def openLines (draft : EventDraft) : List SourceLine :=
  match draft.opened with
  | none => []
  | some message => message.lines.reverse

theorem warnings_finish {draft : EventDraft} {event : Event}
    (h : (draft.finish cast).result = .ok event) :
    (draft.finish cast).warnings = draft.openLines.filterMap SourceLine.blockWarning? := by
  obtain ⟨before, opened⟩ := draft
  cases opened with
  | none => rfl
  | some message => exact warnings_addMessage h

/-- Messages have the warnings of their blocks, behind those of the message that is open. -/
theorem warnings_finishFrom {draft : EventDraft} {messages : List Message} {event : Event}
    (h : (finishFrom cast draft messages).result = .ok event) :
    (finishFrom cast draft messages).warnings =
      (draft.openLines ++ messages.flatMap Message.lines).filterMap SourceLine.blockWarning? := by
  -- a header ends the message above it and opens its own
  induction messages generalizing draft with
  | nil =>
    rw [finishFrom_nil] at h ⊢
    rw [warnings_finish h, List.flatMap_nil, List.append_nil]
  | cons message messages ih =>
    cases hnumber : message.number? with
    | none =>
      rw [result_finishFrom_none hnumber] at h
      exact absurd h (by simp)
    | some number =>
      obtain ⟨before, hfinish, hrest⟩ := (result_finishFrom_some hnumber draft messages).mp h
      have hopen : openLines
          ⟨before, some ⟨number, message.header.number, message.lines.reverse⟩⟩ =
            message.lines := List.reverse_reverse message.lines
      rw [finishFrom_cons, readMessage_of_some hnumber, bind_assoc,
        Reported.warnings_bind_of_ok hfinish, warnings_finish hfinish, pure_bind, ih hrest, hopen,
        List.flatMap_cons, List.filterMap_append, List.filterMap_append, List.filterMap_append]

end EventDraft

/-! ### All lines -/

namespace Event

theorem header?_of_mem_preamble {lines : List SourceLine} {line : SourceLine}
    (h : line ∈ preamble lines) : line.header? = none := by
  have hnone : ∀ line ∈ preamble lines, line.header?.isNone :=
    List.all_eq_true.mp List.all_takeWhile
  exact Option.isNone_iff_eq_none.mp (hnone line h)

/-- The lines behind the preamble begin at the first header. -/
theorem preamble_append_dropWhile (lines : List SourceLine) :
    preamble lines ++ lines.dropWhile (·.header?.isNone) = lines :=
  List.takeWhile_append_dropWhile

/-- The lines of the messages, one after the other, are those behind the first header without the
headers. -/
theorem flatMap_lines_messages (lines : List SourceLine) :
    (messages lines).flatMap Message.lines = messageLines lines := by
  induction lines with
  | nil => rfl
  | cons line lines ih =>
    cases hline : line.header? with
    | none =>
      rw [messages_cons hline, ih, messageLines, messageLines,
        List.dropWhile_cons_of_pos (by simp [hline])]
    | some digits =>
      -- the lines up to the next header, and then those of the messages below
      rw [messages_header hline, List.flatMap_cons, ih, messageLines, messageLines,
        List.dropWhile_cons_of_neg (by simp [hline]), List.filter_cons_of_neg (by simp [hline])]
      have hpreamble : (preamble lines).filter (·.header?.isNone) = preamble lines :=
        List.filter_eq_self.mpr fun other hother =>
          Option.isNone_iff_eq_none.mpr (header?_of_mem_preamble hother)
      conv => rhs; rw [← preamble_append_dropWhile lines]
      rw [List.filter_append, hpreamble]

/-- Lines with at most one notice each, which names the line: the notices name lines of their own,
in their order. -/
theorem exists_sublist_of_filterMap {notice? : SourceLine → Option Notice}
    (hnotice : ∀ line notice, notice? line = some notice → notice.line? = some line.number)
    (lines : List SourceLine) :
    ∃ dropped : List SourceLine, dropped.Sublist lines ∧
      (lines.filterMap notice?).map Notice.line? = dropped.map fun line => some line.number := by
  induction lines with
  | nil => exact ⟨[], List.Sublist.refl _, rfl⟩
  | cons line lines ih =>
    obtain ⟨dropped, hdropped, hlines⟩ := ih
    cases hline : notice? line with
    | none => exact ⟨dropped, hdropped.cons line, by rw [List.filterMap_cons_none hline, hlines]⟩
    | some notice =>
      exact ⟨line :: dropped, hdropped.cons_cons line,
        by rw [List.filterMap_cons_some hline, List.map_cons, List.map_cons, hlines,
          hnotice line notice hline]⟩

theorem line?_of_preambleWarning? {line : SourceLine} {notice : Notice}
    (h : line.preambleWarning? = some notice) : notice.line? = some line.number := by
  unfold SourceLine.preambleWarning? SourceLine.propertyWarning? at h
  split at h <;> (try split_ifs at h) <;> cases h <;> rfl

theorem line?_of_blockWarning? {line : SourceLine} {notice : Notice}
    (h : line.blockWarning? = some notice) : notice.line? = some line.number := by
  unfold SourceLine.blockWarning? at h
  split_ifs at h
  cases h
  rfl

/-- **Every line that is dropped is warned about once, in the order of the lines**, and each warning
names its line: in the preamble what is no property or says nothing, behind it what is neither a
header nor a statement, at any depth. -/
theorem warnings_assemble_eq (cast : Cast) {lines : List SourceLine} {event : Event}
    (h : (assemble cast lines).result = .ok event) :
    (assemble cast lines).warnings =
        (preamble lines).filterMap SourceLine.preambleWarning? ++
          (messageLines lines).filterMap SourceLine.blockWarning? ∧
      ∃ dropped : List SourceLine, dropped.Sublist lines ∧
        (assemble cast lines).warnings.map Notice.line? =
          dropped.map fun line => some line.number := by
  have hwarnings : (assemble cast lines).warnings =
      (preamble lines).filterMap SourceLine.preambleWarning? ++
        (messageLines lines).filterMap SourceLine.blockWarning? := by
    rw [assemble_eq] at h ⊢
    obtain ⟨before, hpreamble, hrest⟩ := Reported.result_bind_eq_ok_iff.mp h
    obtain ⟨read, hmessages, -⟩ := Reported.result_bind_eq_ok_iff.mp hrest
    rw [Reported.warnings_bind_of_ok hpreamble, Reported.warnings_bind_of_ok hmessages,
      EventDraft.warnings_readPreamble (fun _ => header?_of_mem_preamble) hpreamble,
      EventDraft.warnings_finishFrom hmessages, flatMap_lines_messages, Reported.warnings_pure,
      List.append_nil]
    rfl
  obtain ⟨inPreamble, hinPreamble, hfirst⟩ :=
    exists_sublist_of_filterMap (fun _ _ => line?_of_preambleWarning?) (preamble lines)
  obtain ⟨inMessages, hinMessages, hsecond⟩ :=
    exists_sublist_of_filterMap (fun _ _ => line?_of_blockWarning?) (messageLines lines)
  -- the preamble stands in front of the messages, so the order of the lines is kept
  refine ⟨hwarnings, inPreamble ++ inMessages, ?_, ?_⟩
  · have happend := hinPreamble.append (hinMessages.trans List.filter_sublist)
    rwa [preamble_append_dropWhile] at happend
  · rw [hwarnings, List.map_append, List.map_append, hfirst, hsecond]

/-- A line inside of two `if` is looked at three times and warned about once. -/
theorem warnings_assemble_eq_nested :
    (assemble ⟨[]⟩ [⟨1, "~"⟩, ⟨2, "Mood: calm"⟩, ⟨3, "overrideSideMessage: maybe"⟩,
        ⟨4, "message 1"⟩, ⟨5, "if a"⟩, ⟨6, "if b"⟩, ⟨7, "~"⟩, ⟨8, "else"⟩, ⟨9, "endif"⟩,
        ⟨10, "endif"⟩, ⟨11, "message 2"⟩, ⟨12, "~"⟩]).warnings =
      [.unrecognizedPreamble 1 "~", .unknownProperty 2 "mood", .unclearOverride 3 "maybe",
        .unrecognizedStatement 7 "~", .unrecognizedStatement 12 "~"] := by
  obtain ⟨event, hevent⟩ : ∃ event, (assemble ⟨[]⟩ [⟨1, "~"⟩, ⟨2, "Mood: calm"⟩,
      ⟨3, "overrideSideMessage: maybe"⟩, ⟨4, "message 1"⟩, ⟨5, "if a"⟩, ⟨6, "if b"⟩, ⟨7, "~"⟩,
      ⟨8, "else"⟩, ⟨9, "endif"⟩, ⟨10, "endif"⟩, ⟨11, "message 2"⟩, ⟨12, "~"⟩]).result =
        .ok event := ⟨_, rfl⟩
  rw [(warnings_assemble_eq ⟨[]⟩ hevent).1]
  decide

end Event
end Screenplay
