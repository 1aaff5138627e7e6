/-
The preamble of a section and its messages.

The lines of a section are cut at their headers, wherever these stand: what is in front of the first
header is the preamble, and each header begins a message, which reaches to the next one.  An event
is assembled from these parts one after the other:

* `append_messages`: the parts put together are the lines;
* `assemble_eq`: assembling reads the preamble, and then message by message;
* `finishFrom_eq_ok_iff`: messages are read if and only if their numbers and their lines can be, and
  the numbers increase; they are read as one entry each.
-/
import Mathlib.Data.List.Forall2
import Screenplay.Event.Assemble

namespace Screenplay

/-- What a line says outside of messages. -/
def SourceLine.eventForm (line : SourceLine) : EventLine := EventLine.ofText line.text

/-- The number of a header, as it is written. -/
def SourceLine.header? (line : SourceLine) : Option String :=
  match line.eventForm with
  | .header digits => some digits
  | _ => none

/-- A message: its header, the number as it is written, and the lines up to the next header. -/
structure Message where
  header : SourceLine
  digits : String
  lines : List SourceLine
  deriving Repr

namespace Message

/-- The number of a message, if it is one. -/
def number? (message : Message) : Option Nat := messageNumber? message.digits

/-- A message that has been read to its end. -/
def open? (message : Message) : Option OpenMessage :=
  message.number?.map fun number =>
    { number, line := message.header.number, lines := message.lines.reverse }

end Message

namespace Event

/-- The lines in front of the first header. -/
def preamble (lines : List SourceLine) : List SourceLine := lines.takeWhile (·.header?.isNone)

/-- The messages, each from its header to the next one. -/
def messages : List SourceLine → List Message
  | [] => []
  | line :: lines =>
    match line.header? with
    | some digits => ⟨line, digits, preamble lines⟩ :: messages lines
    | none => messages lines

/-! ### The cut -/

theorem preamble_header {line : SourceLine} {digits : String} (h : line.header? = some digits)
    (lines : List SourceLine) : preamble (line :: lines) = [] := by
  rw [preamble, List.takeWhile_cons_of_neg (by simp [h])]

theorem preamble_cons {line : SourceLine} (h : line.header? = none) (lines : List SourceLine) :
    preamble (line :: lines) = line :: preamble lines := by
  rw [preamble, List.takeWhile_cons_of_pos (by simp [h])]
  rfl

theorem messages_header {line : SourceLine} {digits : String} (h : line.header? = some digits)
    (lines : List SourceLine) :
    messages (line :: lines) = ⟨line, digits, preamble lines⟩ :: messages lines := by
  rw [messages, h]

theorem messages_cons {line : SourceLine} (h : line.header? = none) (lines : List SourceLine) :
    messages (line :: lines) = messages lines := by
  rw [messages, h]

/-- The preamble and the messages, put together, are the lines. -/
theorem append_messages (lines : List SourceLine) :
    preamble lines ++ (messages lines).flatMap (fun message => message.header :: message.lines) =
      lines := by
  induction lines with
  | nil => rfl
  | cons line lines ih =>
    cases hline : line.header? with
    | none => rw [preamble_cons hline, messages_cons hline, List.cons_append, ih]
    | some digits =>
      rw [preamble_header hline, messages_header hline, List.nil_append, List.flatMap_cons,
        List.cons_append, ih]

/-- A header begins a message inside an open `if`, too. -/
example :
    (messages [⟨1, "repeat: ALWAYS"⟩, ⟨2, "message 1"⟩, ⟨3, "if x"⟩, ⟨4, "Event 2:"⟩]).map
      (fun message => (message.number?, message.lines)) =
        [(some 1, [⟨3, "if x"⟩]), (some 2, [])] := by
  rfl

end Event

namespace EventDraft

variable {cast : Cast}

/-- Reads a whole message.  Its number is checked before the message above it is read. -/
def readMessage (cast : Cast) (draft : EventDraft) (message : Message) :
    Logged EventFault EventDraft :=
  match message.open? with
  | none => .fail (.invalidNumber message.header.number message.digits)
  | some opened => do
    let event ← draft.finish cast
    return ⟨event, some opened⟩

theorem readMessage_of_none {message : Message} (h : message.number? = none) (draft : EventDraft) :
    readMessage cast draft message =
      .fail (.invalidNumber message.header.number message.digits) := by
  rw [readMessage, Message.open?, h]
  rfl

theorem readMessage_of_some {message : Message} {number : Nat}
    (h : message.number? = some number) (draft : EventDraft) :
    readMessage cast draft message =
      (do
        let event ← draft.finish cast
        return ⟨event, some ⟨number, message.header.number, message.lines.reverse⟩⟩) := by
  rw [readMessage, Message.open?, h]
  rfl

/-- Reads the lines of a preamble. -/
def readPreamble (event : Event) (lines : List SourceLine) : Logged EventFault Event :=
  lines.foldlM (fun event line => feedPreamble event line line.eventForm) event

/-! ### One line -/

theorem feed_header {line : SourceLine} {digits : String} (h : line.header? = some digits)
    (draft : EventDraft) :
    feed cast draft line = readMessage cast draft ⟨line, digits, []⟩ := by
  rw [SourceLine.header?, SourceLine.eventForm] at h
  cases hform : EventLine.ofText line.text with
  | header digits' =>
    obtain rfl : digits' = digits := by simpa [hform] using h
    simp only [feed, hform, readMessage, Message.open?, Message.number?]
    cases messageNumber? digits' <;> rfl
  | typeEntry | property | unrecognized => simp [hform] at h

theorem feed_message {line : SourceLine} (h : line.header? = none) (event : Event)
    (message : OpenMessage) :
    feed cast ⟨event, some message⟩ line =
      pure ⟨event, some { message with lines := line :: message.lines }⟩ := by
  rw [SourceLine.header?, SourceLine.eventForm] at h
  cases hform : EventLine.ofText line.text with
  | header digits => simp [hform] at h
  | typeEntry | property | unrecognized => simp only [feed, hform]

theorem feed_preamble {line : SourceLine} (h : line.header? = none) (event : Event) :
    feed cast ⟨event, none⟩ line =
      (do let event ← feedPreamble event line line.eventForm; return ⟨event, none⟩) := by
  rw [SourceLine.header?, SourceLine.eventForm] at h
  rw [SourceLine.eventForm]
  cases hform : EventLine.ofText line.text with
  | header digits => simp [hform] at h
  | typeEntry | property | unrecognized => simp only [feed, hform]

/-! ### Part by part -/

theorem readMessage_bind_foldlM {lines : List SourceLine} {rest : List Message}
    (h : ∀ event message, lines.foldlM (feed cast) ⟨event, some message⟩ =
      rest.foldlM (readMessage cast)
        ⟨event, some { message with lines := (Event.preamble lines).reverse ++ message.lines }⟩)
    (draft : EventDraft) (line : SourceLine) (digits : String) :
    (readMessage cast draft ⟨line, digits, []⟩ >>= fun draft => lines.foldlM (feed cast) draft) =
      readMessage cast draft ⟨line, digits, Event.preamble lines⟩ >>= fun draft =>
        rest.foldlM (readMessage cast) draft := by
  -- the number of a message does not depend on its lines
  have hnumber : ∀ lines, (⟨line, digits, lines⟩ : Message).number? = messageNumber? digits :=
    fun _ => rfl
  cases hdigits : messageNumber? digits with
  | none =>
    rw [readMessage_of_none ((hnumber _).trans hdigits),
      readMessage_of_none ((hnumber _).trans hdigits)]
    rfl
  | some number =>
    rw [readMessage_of_some ((hnumber _).trans hdigits),
      readMessage_of_some ((hnumber _).trans hdigits)]
    simp only [bind_assoc, pure_bind, h, List.reverse_nil, List.append_nil]

theorem foldlM_feed_message (lines : List SourceLine) (event : Event) (message : OpenMessage) :
    lines.foldlM (feed cast) ⟨event, some message⟩ =
      (Event.messages lines).foldlM (readMessage cast)
        ⟨event, some
          { message with lines := (Event.preamble lines).reverse ++ message.lines }⟩ := by
  induction lines generalizing event message with
  | nil => rfl
  | cons line lines ih =>
    cases hline : line.header? with
    | none =>
      rw [List.foldlM_cons, feed_message hline, pure_bind, ih, Event.messages_cons hline,
        Event.preamble_cons hline]
      simp only [List.reverse_cons, List.append_assoc, List.singleton_append]
    | some digits =>
      rw [List.foldlM_cons, feed_header hline, readMessage_bind_foldlM ih,
        Event.messages_header hline, Event.preamble_header hline, List.foldlM_cons]
      rfl

theorem foldlM_feed (lines : List SourceLine) (event : Event) :
    lines.foldlM (feed cast) ⟨event, none⟩ =
      (do
        let event ← readPreamble event (Event.preamble lines)
        (Event.messages lines).foldlM (readMessage cast) ⟨event, none⟩) := by
  induction lines generalizing event with
  | nil => rfl
  | cons line lines ih =>
    cases hline : line.header? with
    | none =>
      rw [List.foldlM_cons, feed_preamble hline, Event.messages_cons hline,
        Event.preamble_cons hline, readPreamble, List.foldlM_cons]
      simp only [bind_assoc, pure_bind, ih, readPreamble]
    | some digits =>
      rw [List.foldlM_cons, feed_header hline, readMessage_bind_foldlM (foldlM_feed_message lines),
        Event.messages_header hline, Event.preamble_header hline]
      rfl

/-- Reads messages behind a draft, and ends the last one. -/
def finishFrom (cast : Cast) (draft : EventDraft) (messages : List Message) :
    Logged EventFault Event := do
  let draft ← messages.foldlM (readMessage cast) draft
  draft.finish cast

end EventDraft

/-- Assembling reads the preamble, and then message by message. -/
theorem Event.assemble_eq (cast : Cast) (lines : List SourceLine) :
    Event.assemble cast lines =
      (do
        let event ← EventDraft.readPreamble {} (Event.preamble lines)
        let event ← EventDraft.finishFrom cast ⟨event, none⟩ (Event.messages lines)
        return event.withDefaultType) := by
  rw [Event.assemble, EventDraft.foldlM_feed]
  simp only [EventDraft.finishFrom, bind_assoc]

/-! ### Messages and their entries -/

namespace Event

variable {cast : Cast}

/-- An event with further entries behind its own. -/
def append (event : Event) (entries : List (Nat × Step)) : Event :=
  { event with triggers := ⟨event.triggers.entries ++ entries⟩ }

@[simp] theorem append_nil (event : Event) : event.append [] = event := by
  simp [append]

@[simp] theorem append_append (event : Event) (front back : List (Nat × Step)) :
    (event.append front).append back = event.append (front ++ back) := by
  simp [append]

theorem numbers_append (event : Event) (entries : List (Nat × Step)) :
    (event.append entries).triggers.numbers = event.triggers.numbers ++ entries.map Prod.fst := by
  simp [append, Triggers.numbers]

theorem isIncreasing_append (event : Event) (entries : List (Nat × Step)) :
    (event.append entries).triggers.IsIncreasing ↔
      (event.triggers.numbers ++ entries.map Prod.fst).Pairwise (· < ·) := by
  rw [Triggers.IsIncreasing, numbers_append]

/-- The numbers of an entry and of those in front increase if all do. -/
theorem isIncreasing_of_append {event : Event} {entry : Nat × Step} {entries : List (Nat × Step)}
    (h : (event.append (entry :: entries)).triggers.IsIncreasing) :
    (event.append [entry]).triggers.IsIncreasing := by
  rw [isIncreasing_append, List.map_cons, List.append_cons] at h
  rw [isIncreasing_append]
  exact (List.pairwise_append.mp h).1

/-- A message is read if and only if its block is and its number is above all others. -/
theorem result_addMessage_eq_ok_iff {event next : Event} {message : OpenMessage}
    (h : event.triggers.IsIncreasing) :
    (event.addMessage cast message).result = .ok next ↔
      ∃ steps, (Block.parse cast message.lines.reverse).result = .ok steps ∧
        (event.triggers.numbers ++ [message.number]).Pairwise (· < ·) ∧
        next = event.append [(message.number, messageStep message.number steps)] := by
  rw [addMessage, Reported.result_bind_eq_ok_iff]
  simp only [Reported.result_mapFault_eq_ok_iff, Reported.result_note_bind,
    Reported.result_bind_eq_ok_iff, Reported.result_ofExcept, Triggers.push_eq_ok_iff h,
    Reported.result_pure, Except.ok.injEq]
  constructor
  · rintro ⟨steps, hsteps, triggers, ⟨hnumbers, rfl⟩, rfl⟩
    exact ⟨steps, hsteps, hnumbers, rfl⟩
  · rintro ⟨steps, hsteps, hnumbers, rfl⟩
    exact ⟨steps, hsteps, _, ⟨hnumbers, rfl⟩, rfl⟩

end Event

/-- A message is read as an entry: its number, and the step that runs its block on the call of that
number. -/
def Message.Yields (cast : Cast) (message : Message) (entry : Nat × Step) : Prop :=
  message.number? = some entry.1 ∧
    ∃ steps, (Block.parse cast message.lines).result = .ok steps ∧
      entry.2 = .branch ("call.runCount == " ++ toString entry.1) steps []

/-- A message is read as its entry, if its number is above all others. -/
theorem Message.result_addMessage_eq_ok_iff {cast : Cast} {message : Message} {number : Nat}
    (hnumber : message.number? = some number) {event next : Event}
    (h : event.triggers.IsIncreasing) :
    (event.addMessage cast ⟨number, message.header.number, message.lines.reverse⟩).result =
        .ok next ↔
      ∃ entry, message.Yields cast entry ∧ (event.append [entry]).triggers.IsIncreasing ∧
        next = event.append [entry] := by
  rw [Event.result_addMessage_eq_ok_iff h, List.reverse_reverse]
  constructor
  · rintro ⟨steps, hsteps, hincreasing, rfl⟩
    refine ⟨(number, Event.messageStep number steps), ⟨hnumber, steps, hsteps, rfl⟩, ?_, rfl⟩
    exact (event.isIncreasing_append _).mpr hincreasing
  · rintro ⟨⟨number', step⟩, ⟨hentry, steps, hsteps, hstep⟩, hincreasing, rfl⟩
    obtain rfl : number = number' := by simpa [hnumber] using hentry
    obtain rfl : step = Event.messageStep number steps := hstep
    exact ⟨steps, hsteps, (event.isIncreasing_append _).mp hincreasing, rfl⟩

namespace EventDraft

variable {cast : Cast}

theorem finishFrom_nil (draft : EventDraft) : finishFrom cast draft [] = draft.finish cast := by
  rw [finishFrom, List.foldlM_nil, pure_bind]

theorem finishFrom_cons (draft : EventDraft) (message : Message) (messages : List Message) :
    finishFrom cast draft (message :: messages) =
      readMessage cast draft message >>= fun draft => finishFrom cast draft messages := by
  rw [finishFrom, List.foldlM_cons, bind_assoc]
  rfl

theorem result_finishFrom_none {message : Message} (h : message.number? = none)
    (draft : EventDraft) (messages : List Message) :
    (finishFrom cast draft (message :: messages)).result =
      .error (.invalidNumber message.header.number message.digits) := by
  rw [finishFrom_cons, readMessage_of_none h]
  rfl

theorem result_finishFrom_some {message : Message} {number : Nat} {event : Event}
    (h : message.number? = some number) (draft : EventDraft) (messages : List Message) :
    (finishFrom cast draft (message :: messages)).result = .ok event ↔
      ∃ before, (draft.finish cast).result = .ok before ∧
        (finishFrom cast ⟨before, some ⟨number, message.header.number, message.lines.reverse⟩⟩
          messages).result = .ok event := by
  rw [finishFrom_cons, readMessage_of_some h, bind_assoc, Reported.result_bind_eq_ok_iff]
  simp only [pure_bind]

theorem isIncreasing_finish {draft : EventDraft} {event : Event}
    (h : draft.event.triggers.IsIncreasing) (hfinish : (draft.finish cast).result = .ok event) :
    event.triggers.IsIncreasing := by
  obtain ⟨before, opened⟩ := draft
  cases opened with
  | none =>
    obtain rfl : before = event := by simpa [finish] using hfinish
    exact h
  | some message =>
    obtain ⟨steps, -, hnumbers, rfl⟩ := (Event.result_addMessage_eq_ok_iff h).mp hfinish
    exact (before.isIncreasing_append _).mpr hnumbers

/-- Messages are read behind a draft if and only if the draft can be ended, each message has an
entry, and all numbers increase. -/
theorem finishFrom_eq_ok_iff (messages : List Message) {draft : EventDraft}
    (h : draft.event.triggers.IsIncreasing) (event : Event) :
    (finishFrom cast draft messages).result = .ok event ↔
      ∃ before entries, (draft.finish cast).result = .ok before ∧
        messages.Forall₂ (Message.Yields cast) entries ∧
        (before.append entries).triggers.IsIncreasing ∧ event = before.append entries := by
  -- a header ends the message above it, so the draft holds one message that is not yet an entry
  induction messages generalizing draft with
  | nil =>
    rw [finishFrom_nil]
    constructor
    · intro hfinish
      exact ⟨event, [], hfinish, .nil, by simpa using isIncreasing_finish h hfinish, by simp⟩
    · rintro ⟨before, entries, hfinish, hentries, -, rfl⟩
      cases hentries
      rwa [Event.append_nil]
  | cons message messages ih =>
    cases hnumber : message.number? with
    | none =>
      rw [result_finishFrom_none hnumber]
      constructor
      · intro h
        exact absurd h (by simp)
      · rintro ⟨before, entries, -, hentries, -⟩
        cases hentries with
        | cons hyields _ => exact absurd hyields.1 (by simp [hnumber])
    | some number =>
      rw [result_finishFrom_some hnumber]
      constructor
      · rintro ⟨before, hfinish, hrest⟩
        have hbefore := isIncreasing_finish h hfinish
        obtain ⟨next, entries, hnext, hentries, hincreasing, rfl⟩ := (ih hbefore).mp hrest
        obtain ⟨entry, hentry, -, rfl⟩ :=
          (Message.result_addMessage_eq_ok_iff hnumber hbefore).mp hnext
        rw [Event.append_append] at hincreasing ⊢
        exact ⟨before, entry :: entries, hfinish, .cons hentry hentries, hincreasing, rfl⟩
      · rintro ⟨before, _, hfinish, hentries, hincreasing, rfl⟩
        have hbefore := isIncreasing_finish h hfinish
        cases hentries with
        | @cons _ entry _ entries hentry hentries =>
          have hnext := (Message.result_addMessage_eq_ok_iff hnumber hbefore).mpr
            ⟨entry, hentry, Event.isIncreasing_of_append hincreasing, rfl⟩
          have hrest : (before.append [entry]).append entries = before.append (entry :: entries) :=
            Event.append_append ..
          rw [← hrest] at hincreasing
          exact ⟨before, hfinish, (ih hbefore).mpr
            ⟨_, entries, hnext, hentries, hincreasing, hrest.symm⟩⟩

end EventDraft

end Screenplay
