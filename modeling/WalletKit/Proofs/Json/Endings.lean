import WalletKit.Proofs.Json.Unread

set_option autoImplicit false

namespace WalletKit.Json

theorem start_idle_iff (c : Char) : Mode.start c = ([], .between) ↔ c ∈ blanks := by
  constructor
  · intro idle
    by_contra solid
    unfold Mode.start at idle
    rw [if_neg ((isSpace_iff c).not.mpr solid)] at idle
    split at idle
    · cases idle
    · split at idle
      · cases idle
      · split at idle <;> cases idle
  · exact start_of_blank

/-- Only a blank between two tokens leaves a scan where it was. -/
theorem advance_idle_iff (mode : Mode) (c : Char) :
    mode.advance c = ([], .between) ↔ mode = .between ∧ c ∈ blanks := by
  cases mode with
  | between => rw [Mode.advance, start_idle_iff, and_iff_right rfl]
  | word seen =>
      rw [Mode.advance]
      split <;> simp
  | text seen escaped =>
      cases escaped with
      | true => simp [Mode.advance]
      | false =>
          rw [Mode.advance]
          split <;> simp

/-- A scan that stands in a token finds at least this one, and one that does not finds something in
all that is not blank. -/
theorem scan_eq_nil_iff (mode : Mode) (cs : List Char) :
    scan mode cs = [] ↔ mode = .between ∧ ∀ c ∈ cs, c ∈ blanks := by
  induction cs generalizing mode with
  | nil => cases mode <;> simp [scan, Mode.finish]
  | cons c cs ih =>
      have idle : (mode.advance c).1 = [] ∧ (mode.advance c).2 = .between ↔
          mode = .between ∧ c ∈ blanks := by
        rw [← advance_idle_iff, Prod.ext_iff]
      rw [scan_cons, List.append_eq_nil_iff, ih, ← and_assoc, idle, List.forall_mem_cons, and_assoc]

/-- Neither a word nor an open text ends with a bracket, so a scan of a container ends between
tokens. -/
theorem behind_of_container {cs : List Char} {v : Value} (derives : Derives (scan .between cs) v)
    (container : v.isContainer = true) : Mode.between.behind cs = .between := by
  obtain ⟨last, ends, ⟨-, scalar⟩ | closes⟩ := getLast?_of_derives derives
  · rw [container] at scalar
    cases scalar
  · have closed : last.depthBehind 1 = 0 := by
      rcases closes with rfl | rfl <;> rfl
    have whole := scan_append .between cs []
    rw [List.append_nil, scan] at whole
    rw [whole] at ends
    cases begun : Mode.between.behind cs with
    | between => rfl
    | word seen =>
        rw [begun, Mode.finish, List.getLast?_concat, Option.some_inj] at ends
        rw [← ends, Token.depthBehind_ofWord] at closed
        cases closed
    | text seen escaped =>
        rw [begun, Mode.finish, List.getLast?_concat, Option.some_inj] at ends
        rw [← ends] at closed
        cases closed

theorem scan_append_of_container {front : List Char} {v : Value}
    (derives : Derives (scan .between front) v) (container : v.isContainer = true)
    (back : List Char) :
    scan .between (front ++ back) = scan .between front ++ scan .between back := by
  have between := behind_of_container derives container
  have alone := scan_append .between front []
  rw [between, List.append_nil, scan, Mode.finish, List.append_nil] at alone
  rw [scan_append, between, alone]

namespace State

theorem steps_complete_of_ne_nil (limit : ℕ) (v : Value) {tokens : List Token}
    (more : tokens ≠ []) : steps limit ⟨[], .complete v⟩ tokens = .error .unreadable := by
  obtain ⟨token, rest, rfl⟩ := List.exists_cons_of_ne_nil more
  have refused : step limit ⟨[], .complete v⟩ token = .error .unreadable := rfl
  rw [steps_cons, refused]
  rfl

theorem steps_of_read {limit : ℕ} {s : String} {v : Value} (done : read limit s = .ok v) :
    steps limit {} (scan .between s.toList) = .ok ⟨[], .complete v⟩ := by
  obtain ⟨spells, flat⟩ := read_eq_ok_iff.mp done
  rw [spells_iff_derives_scan, ← runs_iff_derives] at spells
  rw [← peak_scan_between] at flat
  exact (steps_eq_ok_iff (Nat.zero_le _)).mpr ⟨spells, flat⟩

end State

/-- Something that is not blank is written in the text. -/
def HasInk (s : String) : Prop := ∃ c ∈ s.toList, c ∉ blanks

theorem scan_ne_nil_of_hasInk {s : String} (ink : HasInk s) : scan .between s.toList ≠ [] := by
  intro nothing
  obtain ⟨c, inside, solid⟩ := ink
  exact solid (((scan_eq_nil_iff _ _).mp nothing).2 c inside)

/-- A container that is complete makes whatever follows it unreadable. -/
theorem read_append_of_container {limit : ℕ} {front back : String} {v : Value}
    (done : read limit front = .ok v)
    (container : v.isContainer = true) (ink : HasInk back) :
    read limit (front ++ back) = .error .unreadable := by
  have derives := spells_iff_derives_scan.mp (read_eq_ok_iff.mp done).1
  rw [read_eq, String.toList_append, scan_append_of_container derives container,
    State.steps_append, State.steps_of_read done]
  have refused := State.steps_complete_of_ne_nil limit v (scan_ne_nil_of_hasInk ink)
  exact congrArg (Except.bind · State.result) refused

theorem BeginsTooDeep.append {limit : ℕ} {front : String} (deep : BeginsTooDeep limit front)
    (back : String) : BeginsTooDeep limit (front ++ back) := by
  obtain ⟨part, beginning, goesOn, many⟩ := deep
  refine ⟨part, ?_, goesOn, many⟩
  rw [String.toList_append]
  exact beginning.trans (List.prefix_append _ _)

theorem read_append_of_isDocument {limit : ℕ} {front back : String}
    (document : isDocument limit (some front) = .ok true) (ink : HasInk back) :
    read limit (front ++ back) = .error .unreadable := by
  obtain ⟨v, done, container⟩ := isDocument_eq_true_iff.mp document
  exact read_append_of_container done container ink

/-- A part of a document is not nested too deep, for otherwise the document would be as well. -/
theorem not_beginsTooDeep_of_isDocument {limit : ℕ} {front back : String}
    (document : isDocument limit (some (front ++ back)) = .ok true) :
    ¬ BeginsTooDeep limit front := by
  intro deep
  obtain ⟨v, done, -⟩ := isDocument_eq_true_iff.mp document
  obtain ⟨container, failed⟩ := (read_tooDeep_iff _ _).mpr (deep.append back)
  rw [done] at failed
  cases failed

end WalletKit.Json
