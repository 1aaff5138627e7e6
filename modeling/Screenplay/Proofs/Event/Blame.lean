/-
A fault in the lines of a section names what is to blame.

A header that has no number, a loop count that is none, a message whose number does not follow, and
a message whose block has a fault: each is found at another time, since a message is read only where
it ends.  By then the next header has been seen, but the fault names the message above it.

* `Message.Blames`, `Event.Blames`: what each fault may name;
* `loopCount_of_feedPreamble`: the only fault in a preamble;
* `blames_of_finish`: a fault at the end of a message names that message;
* `blames_of_finishFrom`, `blames_of_assemble`: so does every fault of messages and of the event.
-/
import Screenplay.Proofs.Block.Blame
import Screenplay.Proofs.Event.Preamble

namespace Screenplay

/-- What a fault in a row of messages may name. -/
inductive Message.Blames (cast : Cast) (messages : List Message) : EventFault → Prop
  /-- A header without a number, of 32 bits and not zero. -/
  | header {message} (hmem : message ∈ messages) (hnumber : message.number? = none) :
      Blames cast messages (.invalidNumber message.header.number message.digits)
  /-- A header whose number is not above that of the header directly before it. -/
  | outOfOrder {before message next after previous found}
      (hmessages : messages = before ++ message :: next :: after)
      (hprevious : message.number? = some previous) (hfound : next.number? = some found)
      (hle : found ≤ previous) :
      Blames cast messages (.triggerOutOfOrder next.header.number previous found)
  /-- A line between the header of a message and the next header, or the end. -/
  | inMessage {message number fault} (hmem : message ∈ messages)
      (hnumber : message.number? = some number)
      (hfault : (Block.parse cast message.lines).result = .error fault)
      (hline : fault.line ∈ message.lines.map SourceLine.number) :
      Blames cast messages (.inMessage number fault)

/-- What a fault in the lines of a section may name. -/
inductive Event.Blames (cast : Cast) (lines : List SourceLine) : EventFault → Prop
  /-- A loop count of the preamble that is no number, of 64 bits with a sign. -/
  | loopCount {line value} (hmem : line ∈ preamble lines)
      (hline : line.property? "loopcount" = some value) (hvalue : loopCount? value = none) :
      Blames cast lines (.invalidNumber line.number value)
  | message {fault} (h : Message.Blames cast (messages lines) fault) : Blames cast lines fault

/-! ### The preamble -/

namespace EventDraft

variable {cast : Cast}

theorem exists_property_of_property? {line : SourceLine} {key value : String}
    (h : line.property? key = some value) :
    ∃ written, line.eventForm = .property written value ∧ Text.lowerText written = key := by
  rw [SourceLine.property?] at h
  cases hform : line.eventForm with
  | property written value' =>
    simp only [hform, Option.ite_none_right_eq_some, Option.some.injEq] at h
    obtain ⟨hkey, rfl⟩ := h
    exact ⟨written, rfl, hkey⟩
  | header | typeEntry | unrecognized => simp [hform] at h

theorem loopCount_of_feedPreamble {event : Event} {line : SourceLine} {fault : EventFault}
    (h : (feedPreamble event line line.eventForm).result = .error fault) :
    ∃ value, line.property? "loopcount" = some value ∧ loopCount? value = none ∧
      fault = .invalidNumber line.number value := by
  by_cases hcount : line.HasSoundCount
  · -- a line with a sound count is read
    rw [(result_feedPreamble_eq_ok_iff event _ line).mpr ⟨hcount, rfl⟩] at h
    exact absurd h (by simp)
  · simp only [SourceLine.HasSoundCount, not_forall] at hcount
    obtain ⟨value, hvalue, hnone⟩ := hcount
    rw [Option.not_isSome_iff_eq_none] at hnone
    obtain ⟨written, hform, hkey⟩ := exists_property_of_property? hvalue
    refine ⟨value, hvalue, hnone, ?_⟩
    rw [loopCount?] at hnone
    simpa [feedPreamble, hform, Event.setProperty, hkey, hnone, eq_comm] using h

theorem loopCount_of_readPreamble {lines : List SourceLine} {event : Event} {fault : EventFault}
    (h : (readPreamble event lines).result = .error fault) :
    ∃ line ∈ lines, ∃ value, line.property? "loopcount" = some value ∧ loopCount? value = none ∧
      fault = .invalidNumber line.number value := by
  induction lines generalizing event with
  | nil => exact absurd h (by simp [readPreamble])
  | cons line lines ih =>
    rw [readPreamble, List.foldlM_cons, Reported.result_bind_eq_error_iff] at h
    rcases h with hline | ⟨between, -, hlines⟩
    · exact ⟨line, List.mem_cons_self, loopCount_of_feedPreamble hline⟩
    · obtain ⟨other, hother, hfault⟩ := ih hlines
      exact ⟨other, List.mem_cons_of_mem _ hother, hfault⟩

/-! ### The messages -/

/-- Whether a draft is what some messages have been read as: the last one is open, and the number
of the one in front of it is the last that has been taken. -/
inductive Follows : List Message → EventDraft → Prop
  | start {event} (hlast : event.triggers.last? = none) : Follows [] ⟨event, none⟩
  | message {before message number event} (hnumber : message.number? = some number)
      (hlast : event.triggers.last? = before.getLast?.bind Message.number?) :
      Follows (before ++ [message])
        ⟨event, some ⟨number, message.header.number, message.lines.reverse⟩⟩

variable {front : List Message} {draft : EventDraft}

/-- Where the open message ends, its number is taken. -/
theorem last?_finish {event : Event} (h : Follows front draft)
    (hfinish : (draft.finish cast).result = .ok event) :
    event.triggers.last? = front.getLast?.bind Message.number? := by
  cases h with
  | @start event' hlast =>
    obtain rfl : event' = event := by simpa [finish] using hfinish
    exact hlast
  | @message before message number event' hnumber hlast =>
    simp only [finish, Event.addMessage, Reported.result_bind_eq_ok_iff, Reported.result_ofExcept,
      Reported.result_pure, Except.ok.injEq] at hfinish
    obtain ⟨steps, -, -, -, triggers, htriggers, rfl⟩ := hfinish
    rw [List.getLast?_concat, Option.bind_some, hnumber]
    exact Triggers.last?_of_push htriggers

/-- A fault at the end of a message is in its block, or its number does not follow. -/
theorem blames_of_finish {fault : EventFault} (h : Follows front draft)
    (hfinish : (draft.finish cast).result = .error fault) (rest : List Message) :
    Message.Blames cast (front ++ rest) fault := by
  cases h with
  | start hlast => exact absurd hfinish (by simp [finish])
  | @message before message number event hnumber hlast =>
    simp only [finish, Event.addMessage, Reported.result_bind_eq_error_iff,
      Reported.result_mapFault_eq_error_iff, Reported.result_ofExcept, Reported.result_note_bind,
      Reported.result_pure, List.reverse_reverse, reduceCtorEq, and_false, exists_false,
      or_false] at hfinish
    rcases hfinish with ⟨inner, hparse, rfl⟩ | ⟨steps, -, hpush⟩
    · obtain ⟨line, hline, heq⟩ :=
        Block.exists_line_of_blames (Block.blames_of_parseWithin hparse)
      exact .inMessage (by simp) hnumber hparse (List.mem_map.mpr ⟨line, hline, heq⟩)
    · obtain ⟨previous, hprevious, hle, rfl⟩ := Triggers.push_eq_error_iff.mp hpush
      rw [hlast, Option.bind_eq_some_iff] at hprevious
      obtain ⟨earlier, hearlier, hprevious⟩ := hprevious
      obtain ⟨first, rfl⟩ := List.getLast?_eq_some_iff.mp hearlier
      have hmessages : first ++ [earlier] ++ [message] ++ rest =
          first ++ earlier :: message :: rest := by simp
      exact .outOfOrder hmessages hprevious hnumber hle

theorem blames_of_finishFrom {messages : List Message} {fault : EventFault}
    (h : Follows front draft) (hfault : (finishFrom cast draft messages).result = .error fault) :
    Message.Blames cast (front ++ messages) fault := by
  induction messages generalizing front draft with
  | nil =>
    rw [finishFrom_nil] at hfault
    exact blames_of_finish h hfault []
  | cons message messages ih =>
    cases hnumber : message.number? with
    | none =>
      rw [result_finishFrom_none hnumber] at hfault
      obtain rfl := Except.error.inj hfault
      exact .header (by simp) hnumber
    | some number =>
      rw [finishFrom_cons, readMessage_of_some hnumber, bind_assoc,
        Reported.result_bind_eq_error_iff] at hfault
      rcases hfault with hfinish | ⟨event, hfinish, hrest⟩
      · exact blames_of_finish h hfinish (message :: messages)
      · -- the message above has been taken, and this one is open now
        rw [pure_bind] at hrest
        have hfollows := Follows.message hnumber (last?_finish h hfinish)
        have hblames := ih hfollows hrest
        rwa [List.append_assoc, List.singleton_append] at hblames

end EventDraft

/-- The fault of the lines of a section blames a line of the preamble, a header, or a line of a
message. -/
theorem Event.blames_of_assemble {cast : Cast} {lines : List SourceLine} {fault : EventFault}
    (h : (assemble cast lines).result = .error fault) : Blames cast lines fault := by
  rw [assemble_eq, Reported.result_bind_eq_error_iff] at h
  rcases h with hpreamble | ⟨event, hpreamble, h⟩
  · obtain ⟨line, hmem, value, hline, hvalue, rfl⟩ :=
      EventDraft.loopCount_of_readPreamble hpreamble
    exact .loopCount hmem hline hvalue
  · rw [Reported.result_bind_eq_error_iff] at h
    rcases h with hmessages | ⟨_, _, hpure⟩
    · obtain ⟨-, rfl⟩ := (EventDraft.result_readPreamble_eq_ok_iff ..).mp hpreamble
      have hblames := EventDraft.blames_of_finishFrom (.start rfl) hmessages
      exact .message hblames
    · exact absurd hpure (by simp)

end Screenplay
