import Mathlib.Data.List.Basic
import WalletKit.Clipboard

set_option autoImplicit false

namespace WalletKit.Clipboard

/-- `reply` is what the event is answered with behind `front`, whatever follows it. -/
def Answers (start : Clipboard) (front : List Event) (event : Event) (reply : Logged Reply) :
    Prop :=
  ∀ back, (start.run (front ++ event :: back))[front.length]? = some reply

/-- What is reported of a text that was saved. -/
def copied : LogRecord := ⟨.info, .clipboard, "Text has been copied"⟩

/-- What is reported of a cell that could not be read. -/
def unavailable (outage : Outage) : LogRecord :=
  ⟨.warning, .clipboard, "Clipboard is not available: " ++ outage.message⟩

def IsCopied (record : LogRecord) : Bool :=
  record.level = .info && record.text = "Text has been copied"

/-- A save that was answered as done. -/
def IsSuccessfulSave : Event × Logged Reply → Bool
  | (.save _, reply) => reply.value = .done
  | _ => false

/-- The event puts something into the cell: a save within reach, or a change from outside. -/
def Overwrites (clipboard : Clipboard) : Event → Prop
  | .save _ => clipboard.outage = none
  | .fill _ => True
  | .get | .reach _ => False

theorem handle_save_of_reach {clipboard : Clipboard} (within : clipboard.outage = none)
    (s : String) :
    clipboard.handle (.save s) =
      ({ value := .done, records := [copied] }, { clipboard with content := .text s }) := by
  simp only [handle, save, within]
  rfl

theorem handle_save_of_outage {clipboard : Clipboard} {outage : Outage}
    (out : clipboard.outage = some outage) (s : String) :
    clipboard.handle (.save s) = ({ value := .failed outage }, clipboard) := by
  simp only [handle, save, out]

theorem handle_get_of_reach {clipboard : Clipboard} (within : clipboard.outage = none) :
    clipboard.handle .get =
      ({ value := .text (match clipboard.content with | .text s => s | .other => "") },
        clipboard) := by
  simp only [handle, get, within]
  cases clipboard.content <;> rfl

theorem handle_get_of_outage {clipboard : Clipboard} {outage : Outage}
    (out : clipboard.outage = some outage) :
    clipboard.handle .get =
      ({ value := .text "", records := [unavailable outage] }, clipboard) := by
  simp only [handle, get, out]
  rfl

theorem content_handle_of_not_overwrites {clipboard : Clipboard} {event : Event}
    (spared : ¬ clipboard.Overwrites event) :
    (clipboard.handle event).2.content = clipboard.content := by
  cases event with
  | get | reach => rfl
  | fill content => exact absurd trivial spared
  | save s =>
      obtain ⟨outage, out⟩ := Option.ne_none_iff_exists'.mp spared
      rw [handle_save_of_outage out]

/-- An event reports a copy once if it is a successful save, and never otherwise. -/
theorem countP_records_handle (clipboard : Clipboard) (event : Event) :
    (clipboard.handle event).1.records.countP IsCopied =
      if IsSuccessfulSave (event, (clipboard.handle event).1) then 1 else 0 := by
  cases event with
  | fill | reach => rfl
  | get =>
      cases out : clipboard.outage with
      | none =>
          rw [handle_get_of_reach out]
          rfl
      | some outage =>
          rw [handle_get_of_outage out]
          rfl
  | save s =>
      cases out : clipboard.outage with
      | none =>
          rw [handle_save_of_reach out]
          rfl
      | some outage =>
          rw [handle_save_of_outage out]
          rfl

theorem answers_of_handle {start next : Clipboard} {front : List Event} {event : Event}
    {reply : Logged Reply} (handled : (start.after front).handle event = (reply, next)) :
    Answers start front event reply := by
  intro back
  rw [run, Process.getElem?_answers]
  exact congrArg (fun handled => some handled.1) handled

theorem after_concat_of_handle {start next : Clipboard} {front : List Event} {event : Event}
    {reply : Logged Reply} (handled : (start.after front).handle event = (reply, next)) :
    start.after (front ++ [event]) = next := by
  rw [after, Process.after_concat]
  exact congrArg Prod.snd handled

theorem content_after_of_not_overwrites {clipboard : Clipboard} {events : List Event}
    (spared : ∀ front event back, events = front ++ event :: back →
      ¬ (clipboard.after front).Overwrites event) :
    (clipboard.after events).content = clipboard.content := by
  induction events generalizing clipboard with
  | nil => rfl
  | cons event events ih =>
      have first : (clipboard.handle event).2.content = clipboard.content :=
        content_handle_of_not_overwrites (spared [] event events rfl)
      rw [← first]
      apply ih
      intro front later back split
      exact spared (event :: front) later back (by rw [split, List.cons_append])

theorem countP_records_run (clipboard : Clipboard) (events : List Event) :
    ((clipboard.run events).flatMap Logged.records).countP IsCopied =
      (events.zip (clipboard.run events)).countP IsSuccessfulSave := by
  induction events generalizing clipboard with
  | nil => rfl
  | cons event events ih =>
      have unrolled : clipboard.run (event :: events) =
          (clipboard.handle event).1 :: (clipboard.handle event).2.run events := rfl
      rw [unrolled, List.flatMap_cons, List.countP_append, countP_records_handle, ih,
        List.zip_cons_cons, List.countP_cons, Nat.add_comm]

/-- Within reach, a get is answered with the text in the cell and a save fills it; out of reach, a
get is answered with the empty text and one warning, and a save fails without a trace. A get never
changes anything, what was saved is found again unless the cell is overwritten, and the log tells
of exactly the saves that succeeded. -/
theorem uses_answered_and_logged (start : Clipboard) :
    (∀ front, (start.after front).outage = none →
      (∀ s, (start.after front).content = .text s →
        Answers start front .get { value := .text s, records := [] }) ∧
      ((start.after front).content = .other →
        Answers start front .get { value := .text "", records := [] }) ∧
      ∀ s, Answers start front (.save s) { value := .done, records := [copied] } ∧
        start.after (front ++ [.save s]) = { start.after front with content := .text s }) ∧
    (∀ front outage, (start.after front).outage = some outage →
      Answers start front .get { value := .text "", records := [unavailable outage] } ∧
      ∀ s, Answers start front (.save s) { value := .failed outage, records := [] } ∧
        start.after (front ++ [.save s]) = start.after front) ∧
    (∀ front, start.after (front ++ [.get]) = start.after front) ∧
    (∀ front s middle, (start.after front).outage = none →
      (∀ early event late, middle = early ++ event :: late →
        ¬ (start.after (front ++ .save s :: early)).Overwrites event) →
      (start.after (front ++ .save s :: middle)).outage = none →
      Answers start (front ++ .save s :: middle) .get { value := .text s, records := [] }) ∧
    ∀ events, ((start.run events).flatMap Logged.records).countP IsCopied =
      (events.zip (start.run events)).countP IsSuccessfulSave := by
  have found : ∀ front s, (start.after front).outage = none →
      (start.after front).content = .text s →
      Answers start front .get { value := .text s, records := [] } := by
    intro front s within held
    apply answers_of_handle
    rw [handle_get_of_reach within, held]
  refine ⟨?_, ?_, fun front => after_concat_of_handle rfl, ?_, countP_records_run start⟩
  · intro front within
    refine ⟨fun s => found front s within, ?_, ?_⟩
    · intro held
      apply answers_of_handle
      rw [handle_get_of_reach within, held]
    · intro s
      have saved := handle_save_of_reach within s
      exact ⟨answers_of_handle saved, after_concat_of_handle saved⟩
  · intro front outage out
    refine ⟨answers_of_handle (handle_get_of_outage out), ?_⟩
    intro s
    have refused := handle_save_of_outage out s
    exact ⟨answers_of_handle refused, after_concat_of_handle refused⟩
  · intro front s middle within spared again
    apply found _ _ again
    have split : ∀ rest, start.after (front ++ .save s :: rest) =
        (start.after (front ++ [.save s])).after rest := by
      intro rest
      rw [after, after, after, ← Process.after_append, List.append_assoc, List.singleton_append]
    rw [split, content_after_of_not_overwrites]
    · rw [after_concat_of_handle (handle_save_of_reach within s)]
    · intro early event late shape
      rw [← split]
      exact spared early event late shape

/-- A save that fails does not hide the text that was saved before it, and a get between them is
answered with a warning. -/
theorem uses_answered_and_logged_of_failed_save :
    Answers {} [.save "a", .reach (some ⟨"gone"⟩)] .get
      { value := .text "", records := [unavailable ⟨"gone"⟩] } ∧
    Answers {} [.save "a", .reach (some ⟨"gone"⟩)] (.save "b")
      { value := .failed ⟨"gone"⟩, records := [] } ∧
    Answers {} [.save "a", .reach (some ⟨"gone"⟩), .save "b", .reach none] .get
      { value := .text "a", records := [] } ∧
    Answers {} [.fill .other] .get { value := .text "", records := [] } := by
  obtain ⟨within, out, -, kept, -⟩ := uses_answered_and_logged {}
  have missed := out [.save "a", .reach (some ⟨"gone"⟩)] ⟨"gone"⟩ rfl
  refine ⟨missed.1, (missed.2 "b").1, ?_, (within [.fill .other] rfl).2.1 rfl⟩
  apply kept [] "a" [.reach (some ⟨"gone"⟩), .save "b", .reach none] rfl _ rfl
  intro early event late shape
  match early with
  | [] | [_, _] =>
      cases shape
      exact id
  | [_] =>
      cases shape
      exact Option.some_ne_none _
  | _ :: _ :: _ :: early => simp at shape

end WalletKit.Clipboard
