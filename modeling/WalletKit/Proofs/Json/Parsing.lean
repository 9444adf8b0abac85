import WalletKit.Proofs.Json.Steps

set_option autoImplicit false

namespace WalletKit.Json

/-- Runs of tokens, each with a comma behind it. -/
def listed (runs : List (List Token)) : List Token := runs.flatMap (· ++ [.comma])

theorem listed_concat (runs : List (List Token)) (run : List Token) :
    listed (runs ++ [run]) = listed runs ++ run ++ [.comma] := by
  simp only [listed, List.flatMap_append, List.flatMap_singleton, List.append_assoc]

theorem intercalate_concat (runs : List (List Token)) (run : List Token) :
    [Token.comma].intercalate (runs ++ [run]) = listed runs ++ run := by
  induction runs with
  | nil => exact List.intercalate_singleton
  | cons first runs ih =>
      have more : ∃ second rest, runs ++ [run] = second :: rest :=
        List.exists_cons_of_ne_nil (List.append_ne_nil_of_right_ne_nil runs (List.cons_ne_nil _ _))
      obtain ⟨second, rest, same⟩ := more
      rw [List.cons_append, same, List.intercalate_cons_cons, ← same, ih, ← List.append_assoc]
      rfl

namespace State

/-- The tokens lead through the value `v`, whatever containers are open. -/
def Completes (tokens : List Token) (v : Value) : Prop :=
  ∀ stack, Runs ⟨stack, .value⟩ tokens ⟨stack, .complete v⟩

theorem runs_items {parts : List (List Token × Value)}
    (each : ∀ part ∈ parts, Completes part.1 part.2) (stack : List Frame) (items : List Value) :
    Runs ⟨.array items :: stack, .value⟩ (listed (parts.map Prod.fst))
      ⟨.array ((parts.map Prod.snd).reverse ++ items) :: stack, .value⟩ := by
  induction parts generalizing items with
  | nil => exact .nil _
  | cons part parts ih =>
      rw [List.forall_mem_cons] at each
      have item := (each.1 (.array items :: stack)).append (.single (.nextItem stack items part.2))
      have rest := item.append (ih each.2 (part.2 :: items))
      rwa [List.map_cons, List.map_cons, List.reverse_cons, List.append_assoc]

theorem runs_members {parts : List (Text × List Token × Value)}
    (each : ∀ part ∈ parts, Completes part.2.1 part.2.2) (stack : List Frame)
    (members : List (Text × Value)) :
    Runs ⟨stack, .nextKey members⟩ (listed (parts.map memberTokens))
      ⟨stack, .nextKey ((parts.map memberPair).reverse ++ members)⟩ := by
  induction parts generalizing members with
  | nil => exact .nil _
  | cons part parts ih =>
      rw [List.forall_mem_cons] at each
      have value := each.1 (.object members part.1 :: stack)
      have member := value.append (.single (.nextMember stack members part.1 part.2.2))
      have rest := member.append (ih each.2 (memberPair part :: members))
      rw [List.map_cons, List.map_cons, List.reverse_cons, List.append_assoc]
      exact .cons (.nextKey stack members part.1) (.cons (.colon stack members part.1) rest)

/-- The first item begins as any other, but no comma stands before it. -/
theorem Runs.firstItem {stack : List Frame} {tokens : List Token} {s : State}
    (runs : Runs ⟨.array [] :: stack, .value⟩ tokens s) (nonempty : tokens ≠ []) :
    Runs ⟨stack, .firstItem⟩ tokens s := by
  cases runs with
  | nil => exact absurd rfl nonempty
  | cons moves rest =>
      cases moves with
      | value begins => exact .cons (.firstItem begins) rest

theorem Runs.firstKey {stack : List Frame} {tokens : List Token} {s : State}
    (runs : Runs ⟨stack, .nextKey []⟩ tokens s) (nonempty : tokens ≠ []) :
    Runs ⟨stack, .firstKey⟩ tokens s := by
  cases runs with
  | nil => exact absurd rfl nonempty
  | cons moves rest =>
      cases moves with
      | nextKey => exact .cons (.firstKey _ _) rest

theorem completes_array {parts : List (List Token × Value)}
    (each : ∀ part ∈ parts, Completes part.1 part.2) :
    Completes (.openArray :: ([Token.comma].intercalate (parts.map Prod.fst) ++ [.closeArray]))
      (.array (parts.map Prod.snd)) := by
  intro stack
  refine .cons (.value .openArray) ?_
  rcases List.eq_nil_or_concat parts with rfl | ⟨front, last, rfl⟩
  · exact .single (.emptyArray stack)
  rw [List.concat_eq_append] at each ⊢
  rw [List.forall_mem_append] at each
  have items := runs_items each.1 stack []
  rw [List.append_nil] at items
  have final := each.2 last (List.mem_singleton_self last)
    (.array (front.map Prod.snd).reverse :: stack)
  have close := Moves.closeArray stack (front.map Prod.snd).reverse last.2
  rw [List.reverse_cons, List.reverse_reverse] at close
  have whole := (items.append final).append (.single close)
  rw [List.map_append, List.map_append, List.map_singleton, List.map_singleton, intercalate_concat]
  exact whole.firstItem (List.append_ne_nil_of_right_ne_nil _ (List.cons_ne_nil _ _))

theorem completes_object {parts : List (Text × List Token × Value)}
    (each : ∀ part ∈ parts, Completes part.2.1 part.2.2) :
    Completes
      (.openObject :: ([Token.comma].intercalate (parts.map memberTokens) ++ [.closeObject]))
      (.object (Members.ofPairs (parts.map memberPair))) := by
  intro stack
  refine .cons (.value .openObject) ?_
  rcases List.eq_nil_or_concat parts with rfl | ⟨front, last, rfl⟩
  · exact .single (.emptyObject stack)
  rw [List.concat_eq_append] at each ⊢
  rw [List.forall_mem_append] at each
  have members := runs_members each.1 stack []
  rw [List.append_nil] at members
  have value := each.2 last (List.mem_singleton_self last)
    (.object (front.map memberPair).reverse last.1 :: stack)
  have final : Runs ⟨stack, .nextKey (front.map memberPair).reverse⟩ (memberTokens last) _ :=
    .cons (.nextKey stack _ last.1) (.cons (.colon stack _ last.1) value)
  have close := Moves.closeObject stack (front.map memberPair).reverse last.1 last.2.2
  rw [List.reverse_cons, List.reverse_reverse] at close
  have whole := (members.append final).append (.single close)
  rw [List.map_append, List.map_append, List.map_singleton, List.map_singleton, intercalate_concat]
  exact whole.firstKey (List.append_ne_nil_of_right_ne_nil _ (List.cons_ne_nil _ _))

theorem completes_of_derives {tokens : List Token} {v : Value} (derives : Derives tokens v) :
    Completes tokens v := by
  induction derives with
  | scalar a => exact fun stack => .single (.value (.scalar a))
  | array parts each ih => exact completes_array ih
  | object parts each ih => exact completes_object ih

/-- The tokens that open the containers of a stack, with all that is complete in them. -/
inductive Opened : List Token → List Frame → Prop where
  | nil : Opened [] []
  | array {front : List Token} {stack : List Frame} (outer : Opened front stack)
    (parts : List (List Token × Value)) (each : ∀ part ∈ parts, Derives part.1 part.2) :
    Opened (front ++ .openArray :: listed (parts.map Prod.fst))
      (.array (parts.map Prod.snd).reverse :: stack)
  | object {front : List Token} {stack : List Frame} (outer : Opened front stack)
    (parts : List (Text × List Token × Value))
    (each : ∀ part ∈ parts, Derives part.2.1 part.2.2) (key : Text) :
    Opened
      (front ++ .openObject :: (listed (parts.map memberTokens) ++ [.scalar (.text key), .colon]))
      (.object (parts.map memberPair).reverse key :: stack)

/-- The tokens that a state is reached by. -/
inductive Reached : List Token → State → Prop where
  | value {front : List Token} {stack : List Frame} (outer : Opened front stack) :
    Reached front ⟨stack, .value⟩
  | firstItem {front : List Token} {stack : List Frame} (outer : Opened front stack) :
    Reached (front ++ [.openArray]) ⟨stack, .firstItem⟩
  | firstKey {front : List Token} {stack : List Frame} (outer : Opened front stack) :
    Reached (front ++ [.openObject]) ⟨stack, .firstKey⟩
  | nextKey {front : List Token} {stack : List Frame} (outer : Opened front stack)
    (parts : List (Text × List Token × Value))
    (each : ∀ part ∈ parts, Derives part.2.1 part.2.2) :
    Reached (front ++ .openObject :: listed (parts.map memberTokens))
      ⟨stack, .nextKey (parts.map memberPair).reverse⟩
  | colon {front : List Token} {stack : List Frame} (outer : Opened front stack)
    (parts : List (Text × List Token × Value))
    (each : ∀ part ∈ parts, Derives part.2.1 part.2.2) (key : Text) :
    Reached (front ++ .openObject :: (listed (parts.map memberTokens) ++ [.scalar (.text key)]))
      ⟨stack, .colon (parts.map memberPair).reverse key⟩
  | complete {front tokens : List Token} {stack : List Frame} {v : Value}
    (outer : Opened front stack) (derives : Derives tokens v) :
    Reached (front ++ tokens) ⟨stack, .complete v⟩

theorem derives_array {parts : List (List Token × Value)} {tokens : List Token} {v : Value}
    (each : ∀ part ∈ parts, Derives part.1 part.2) (last : Derives tokens v) :
    Derives (.openArray :: (listed (parts.map Prod.fst) ++ tokens ++ [.closeArray]))
      (.array (v :: (parts.map Prod.snd).reverse).reverse) := by
  have all : ∀ part ∈ parts ++ [(tokens, v)], Derives part.1 part.2 :=
    List.forall_mem_append.mpr ⟨each, List.forall_mem_singleton.mpr last⟩
  have whole := Derives.array (parts ++ [(tokens, v)]) all
  rw [List.map_append, List.map_append, List.map_singleton, List.map_singleton,
    intercalate_concat] at whole
  rwa [List.reverse_cons, List.reverse_reverse]

/-- The same tokens with a comma behind them, for the item is not the last one. -/
theorem opened_array {front : List Token} {stack : List Frame} (outer : Opened front stack)
    {parts : List (List Token × Value)} {tokens : List Token} {v : Value}
    (each : ∀ part ∈ parts, Derives part.1 part.2) (last : Derives tokens v) :
    Opened (front ++ .openArray :: (listed (parts.map Prod.fst) ++ tokens ++ [.comma]))
      (.array (v :: (parts.map Prod.snd).reverse) :: stack) := by
  have all : ∀ part ∈ parts ++ [(tokens, v)], Derives part.1 part.2 :=
    List.forall_mem_append.mpr ⟨each, List.forall_mem_singleton.mpr last⟩
  have whole := Opened.array outer (parts ++ [(tokens, v)]) all
  rwa [List.map_append, List.map_append, List.map_singleton, List.map_singleton, listed_concat,
    List.reverse_append] at whole

theorem derives_object {parts : List (Text × List Token × Value)} {tokens : List Token} {v : Value}
    (each : ∀ part ∈ parts, Derives part.2.1 part.2.2) (key : Text) (last : Derives tokens v) :
    Derives
      (.openObject :: (listed (parts.map memberTokens) ++ memberTokens (key, tokens, v) ++
        [.closeObject]))
      (.object (Members.ofPairs ((key, v) :: (parts.map memberPair).reverse).reverse)) := by
  have all : ∀ part ∈ parts ++ [(key, tokens, v)], Derives part.2.1 part.2.2 :=
    List.forall_mem_append.mpr ⟨each, List.forall_mem_singleton.mpr last⟩
  have whole := Derives.object (parts ++ [(key, tokens, v)]) all
  rw [List.map_append, List.map_append, List.map_singleton, List.map_singleton,
    intercalate_concat] at whole
  rwa [List.reverse_cons, List.reverse_reverse]

theorem reached_nextKey {front : List Token} {stack : List Frame} (outer : Opened front stack)
    {parts : List (Text × List Token × Value)} {tokens : List Token} {v : Value}
    (each : ∀ part ∈ parts, Derives part.2.1 part.2.2) (key : Text) (last : Derives tokens v) :
    Reached
      (front ++ .openObject :: (listed (parts.map memberTokens) ++ memberTokens (key, tokens, v) ++
        [.comma]))
      ⟨stack, .nextKey ((key, v) :: (parts.map memberPair).reverse)⟩ := by
  have all : ∀ part ∈ parts ++ [(key, tokens, v)], Derives part.2.1 part.2.2 :=
    List.forall_mem_append.mpr ⟨each, List.forall_mem_singleton.mpr last⟩
  have whole := Reached.nextKey outer (parts ++ [(key, tokens, v)]) all
  rwa [List.map_append, List.map_append, List.map_singleton, List.map_singleton, listed_concat,
    List.reverse_append] at whole

theorem reached_of_begins {front : List Token} {stack : List Frame} {token : Token} {s : State}
    (outer : Opened front stack) (begins : Begins stack token s) :
    Reached (front ++ [token]) s := by
  cases begins with
  | scalar a => exact .complete outer (.scalar a)
  | openArray => exact .firstItem outer
  | openObject => exact .firstKey outer

/-- Whatever a token does, the tokens taken in are a derivation that is still open. -/
theorem Reached.step {front : List Token} {s next : State} {token : Token}
    (reached : Reached front s) (moves : Moves s token next) : Reached (front ++ [token]) next := by
  cases moves with
  | value begins =>
      cases reached with
      | value outer => exact reached_of_begins outer begins
  | firstItem begins =>
      cases reached with
      | firstItem outer => exact reached_of_begins (.array outer [] (by simp)) begins
  | emptyArray stack =>
      cases reached with
      | firstItem outer =>
          rw [List.append_assoc]
          exact .complete outer (.array [] (by simp))
  | emptyObject stack =>
      cases reached with
      | firstKey outer =>
          rw [List.append_assoc]
          exact .complete outer (.object [] (by simp))
  | firstKey stack key =>
      cases reached with
      | firstKey outer =>
          rw [List.append_assoc]
          exact .colon outer [] (by simp) key
  | nextKey stack members key =>
      cases reached with
      | nextKey outer parts each =>
          rw [List.append_assoc]
          exact .colon outer parts each key
  | colon stack members key =>
      cases reached with
      | colon outer parts each =>
          rw [List.append_assoc, List.cons_append, List.append_assoc]
          exact .value (.object outer parts each key)
  | nextItem stack items v =>
      cases reached with
      | complete outer derives =>
          cases outer with
          | array outer parts each =>
              have taken := Reached.value (opened_array outer each derives)
              rwa [← List.cons_append, ← List.cons_append, ← List.append_assoc,
                ← List.append_assoc] at taken
  | closeArray stack items v =>
      cases reached with
      | complete outer derives =>
          cases outer with
          | array outer parts each =>
              have taken := Reached.complete outer (derives_array each derives)
              rwa [← List.cons_append, ← List.cons_append, ← List.append_assoc,
                ← List.append_assoc] at taken
  | nextMember stack members key v =>
      cases reached with
      | complete outer derives =>
          cases outer with
          | object outer parts each =>
              have taken := reached_nextKey outer each key derives
              simpa [memberTokens] using taken
  | closeObject stack members key v =>
      cases reached with
      | complete outer derives =>
          cases outer with
          | object outer parts each =>
              have taken := Reached.complete outer (derives_object each key derives)
              simpa [memberTokens] using taken

theorem Reached.run {front tokens : List Token} {s last : State} (reached : Reached front s)
    (runs : Runs s tokens last) : Reached (front ++ tokens) last := by
  induction runs generalizing front with
  | nil s => rwa [List.append_nil]
  | cons moves rest ih =>
      have after := ih (reached.step moves)
      rwa [List.append_assoc] at after

theorem derives_of_runs {tokens : List Token} {v : Value}
    (runs : Runs {} tokens ⟨[], .complete v⟩) : Derives tokens v := by
  have reached := Reached.run (.value .nil) runs
  rw [List.nil_append] at reached
  generalize final : State.mk [] (.complete v) = s at reached
  cases reached with
  | complete outer derives =>
      cases final
      cases outer
      exact derives
  | _ => cases final

theorem runs_iff_derives {tokens : List Token} {v : Value} :
    Runs {} tokens ⟨[], .complete v⟩ ↔ Derives tokens v :=
  ⟨derives_of_runs, fun derives => completes_of_derives derives []⟩

theorem result_eq_ok_iff {s : State} {v : Value} :
    s.result = .ok v ↔ s = ⟨[], .complete v⟩ := by
  constructor
  · intro complete
    unfold result at complete
    split at complete
    · cases complete
      rfl
    · cases complete
  · rintro rfl
    rfl

end State

theorem regular_of_moves {s next : State} {token : Token} (moves : State.Moves s token next) :
    token.IsRegular := by
  cases moves with
  | value begins | firstItem begins => cases begins <;> trivial
  | _ => trivial

theorem regular_of_runs {s last : State} {tokens : List Token} (runs : State.Runs s tokens last) :
    ∀ token ∈ tokens, token.IsRegular := by
  induction runs with
  | nil s => exact List.forall_mem_nil _
  | cons moves rest ih => exact List.forall_mem_cons.mpr ⟨regular_of_moves moves, ih⟩

/-- The tokens that are found in a text derive a value exactly if the text spells it. -/
theorem spells_iff_derives_scan {s : String} {v : Value} :
    Spells s v ↔ Derives (scan .between s.toList) v := by
  constructor
  · rintro ⟨tokens, lexemes, derives⟩
    rwa [scan_of_lexemes lexemes (.of_derives derives)]
  · intro derives
    have regular := regular_of_runs (State.runs_iff_derives.mpr derives)
    exact ⟨_, lexemes_of_scan .between regular, derives⟩

theorem read_eq_ok_iff {limit : ℕ} {s : String} {v : Value} :
    read limit s = .ok v ↔ Spells s v ∧ nesting s ≤ limit := by
  have start : State.level {} ≤ limit := Nat.zero_le _
  rw [read_eq, spells_iff_derives_scan, ← State.runs_iff_derives, ← peak_scan_between]
  constructor
  · intro done
    cases stepped : State.steps limit {} (scan .between s.toList) with
    | error failure =>
        rw [stepped] at done
        cases done
    | ok last =>
        rw [stepped] at done
        obtain rfl := State.result_eq_ok_iff.mp done
        exact (State.steps_eq_ok_iff start).mp stepped
  · intro parsed
    rw [(State.steps_eq_ok_iff start).mpr parsed]
    rfl

/-- A text spells the value to which the tokens found in it lead. -/
theorem spells_of_steps (limit : ℕ) {s : String} {tokens : List Token} {v : Value}
    (found : scan .between s.toList = tokens)
    (stepped : State.steps limit {} tokens = .ok ⟨[], .complete v⟩) : Spells s v := by
  have done : read limit s = .ok v := by
    rw [read_eq, found, stepped]
    rfl
  exact (read_eq_ok_iff.mp done).1

theorem Spells.unique {s : String} {v w : Value} (first : Spells s v) (second : Spells s w) :
    v = w := by
  rw [spells_iff_derives_scan, ← State.runs_iff_derives] at first second
  generalize scan .between s.toList = tokens at first second
  have within : State.level {} ≤ peak (State.level {}) tokens := le_peak _ tokens
  have reads := (State.steps_eq_ok_iff within).mpr ⟨first, le_rfl⟩
  rw [(State.steps_eq_ok_iff within).mpr ⟨second, le_rfl⟩] at reads
  cases reads
  rfl

/-- A text is given up for its nesting while its tokens are taken in. -/
theorem steps_of_tooDeep {limit : ℕ} {s : String} {container : Container}
    (failed : read limit s = .error (.tooDeep container)) :
    State.steps limit {} (scan .between s.toList) = .error (.tooDeep container) := by
  rw [read_eq] at failed
  cases stepped : State.steps limit {} (scan .between s.toList) with
  | error failure =>
      rw [stepped] at failed
      cases failed
      rfl
  | ok last =>
      rw [stepped] at failed
      have refused : last.result = .error (.tooDeep container) := failed
      unfold State.result at refused
      split at refused <;> cases refused

theorem lt_nesting_of_tooDeep {limit : ℕ} {s : String} {container : Container}
    (failed : read limit s = .error (.tooDeep container)) : limit < nesting s := by
  rw [← peak_scan_between]
  exact State.limit_lt_of_steps (Nat.zero_le _) (steps_of_tooDeep failed)

theorem tooDeep_of_spells {limit : ℕ} {s : String} {v : Value} (spells : Spells s v)
    (deep : limit < nesting s) : ∃ container, read limit s = .error (.tooDeep container) := by
  rw [spells_iff_derives_scan, ← State.runs_iff_derives] at spells
  rw [← peak_scan_between] at deep
  obtain ⟨container, failed⟩ := State.tooDeep_of_runs (Nat.zero_le _) spells deep
  exact ⟨container, by rw [read_eq, failed]; rfl⟩

theorem not_tooDeep_of_nesting {limit : ℕ} {s : String} (within : nesting s ≤ limit) :
    ¬ ∃ container, read limit s = .error (.tooDeep container) := by
  intro given
  obtain ⟨container, failed⟩ := given
  exact absurd within (Nat.not_le_of_lt (lt_nesting_of_tooDeep failed))

theorem readGiven_of_not_tooDeep {limit : ℕ} {s : String}
    (shallow : ¬ ∃ container, read limit s = .error (.tooDeep container)) :
    (∃ v, Spells s v ∧ readGiven limit (some s) = .ok (some v)) ∨
      (¬ ∃ v, Spells s v) ∧ readGiven limit (some s) = .ok none := by
  rw [readGiven]
  cases done : read limit s with
  | ok v => exact Or.inl ⟨v, (read_eq_ok_iff.mp done).1, rfl⟩
  | error failure =>
      right
      constructor
      · rintro ⟨v, spells⟩
        by_cases within : nesting s ≤ limit
        · rw [read_eq_ok_iff.mpr ⟨spells, within⟩] at done
          cases done
        · exact shallow (tooDeep_of_spells spells (Nat.lt_of_not_le within))
      · cases failure with
        | tooDeep container => exact absurd ⟨container, done⟩ shallow
        | unreadable | tooManyDigits digits => rfl

end WalletKit.Json
