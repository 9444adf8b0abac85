import WalletKit.Json.Reader
import WalletKit.Proofs.Json.Quotes
import WalletKit.Proofs.Json.Words

set_option autoImplicit false

namespace WalletKit.Json

/-- The tokens that a scan finds from `mode` on. -/
def scan : Mode → List Char → List Token
  | mode, [] => mode.finish
  | mode, c :: cs => (mode.advance c).1 ++ scan (mode.advance c).2 cs

theorem scan_cons (mode : Mode) (c : Char) (cs : List Char) :
    scan mode (c :: cs) = (mode.advance c).1 ++ scan (mode.advance c).2 cs := rfl

/-- Tokens are taken in as they are found, so reading is a run over all tokens of the text. -/
theorem run_finish_eq (limit : ℕ) (mode : Mode) (s : State) (cs : List Char) :
    (Progress.run limit ⟨mode, s⟩ cs).bind (Progress.finish limit) =
      (s.steps limit (scan mode cs)).bind State.result := by
  induction cs generalizing mode s with
  | nil => rfl
  | cons c cs ih =>
      have fed : Progress.feed limit ⟨mode, s⟩ c =
          (s.steps limit (mode.advance c).1).map fun s => ⟨(mode.advance c).2, s⟩ := by
        unfold Progress.feed
        obtain ⟨tokens, next⟩ := mode.advance c
        dsimp only
        cases s.steps limit tokens <;> rfl
      have step : Progress.run limit ⟨mode, s⟩ (c :: cs) =
          (Progress.feed limit ⟨mode, s⟩ c).bind fun p => p.run limit cs := rfl
      rw [step, fed, scan_cons, State.steps_append]
      cases s.steps limit (mode.advance c).1 with
      | error failure => rfl
      | ok next => exact ih (mode.advance c).2 next

theorem read_eq (limit : ℕ) (s : String) :
    read limit s = (State.steps limit {} (scan .between s.toList)).bind State.result :=
  run_finish_eq limit .between {} s.toList

/-- No character that continues a word comes first. -/
def Boundary (cs : List Char) : Prop := ∀ c, cs.head? = some c → isWordChar c = false

theorem isSpace_iff (c : Char) : isSpace c = true ↔ c ∈ blanks := by
  simp [isSpace, blanks, or_assoc]

theorem punctuation?_eq_some_iff {c : Char} {token : Token} :
    Token.punctuation? c = some token ↔ (c, token) ∈ punctuation := by
  constructor
  · intro found
    unfold Token.punctuation? at found
    split at found
    all_goals
      cases found
      try decide
  · intro known
    exact (by decide : ∀ entry ∈ punctuation, Token.punctuation? entry.1 = some entry.2)
      (c, token) known

theorem start_of_blank {c : Char} (space : c ∈ blanks) : Mode.start c = ([], .between) := by
  rw [Mode.start, if_pos ((isSpace_iff c).mpr space)]

theorem start_of_punctuation {c : Char} {token : Token} (known : (c, token) ∈ punctuation) :
    Mode.start c = ([token], .between) :=
  (by decide : ∀ entry ∈ punctuation, Mode.start entry.1 = ([entry.2], .between)) (c, token) known

theorem not_isWordChar_of_blank : ∀ c ∈ blanks, isWordChar c = false :=
  List.all_iff_forall_prop.mp (by decide)

theorem not_isWordChar_of_punctuation : ∀ entry ∈ punctuation, isWordChar entry.1 = false := by
  decide

theorem punctuation?_of_isWordChar {c : Char} (continues : isWordChar c = true) :
    Token.punctuation? c = none := by
  rw [Option.eq_none_iff_forall_ne_some]
  intro token found
  rw [not_isWordChar_of_punctuation (c, token) (punctuation?_eq_some_iff.mp found)] at continues
  cases continues

theorem start_of_isWordChar {c : Char} (continues : isWordChar c = true) :
    Mode.start c = ([], .word [c]) := by
  have noBlank : ¬ isSpace c = true := by
    rw [isSpace_iff]
    intro space
    rw [not_isWordChar_of_blank c space] at continues
    cases continues
  have noQuote : c ≠ '"' := by
    rintro rfl
    exact absurd continues (by decide)
  simp only [Mode.start, if_neg noBlank, if_neg noQuote, punctuation?_of_isWordChar continues,
    if_pos continues]

theorem scan_blank {c : Char} (space : c ∈ blanks) (cs : List Char) :
    scan .between (c :: cs) = scan .between cs := by
  rw [scan_cons, Mode.advance, start_of_blank space, List.nil_append]

theorem scan_punctuation {c : Char} {token : Token} (known : (c, token) ∈ punctuation)
    (cs : List Char) : scan .between (c :: cs) = token :: scan .between cs := by
  rw [scan_cons, Mode.advance, start_of_punctuation known, List.singleton_append]

/-- A word that has begun ends before the first character that does not continue it. -/
theorem scan_begun_word {w cs : List Char} (continues : ∀ c ∈ w, isWordChar c = true)
    (boundary : Boundary cs) (seen : List Char) :
    scan (.word seen) (w ++ cs) = Token.ofWord (seen.reverse ++ w) :: scan .between cs := by
  induction w generalizing seen with
  | nil =>
      rw [List.nil_append, List.append_nil]
      cases cs with
      | nil => rfl
      | cons c cs =>
          simp only [scan_cons, Mode.advance, boundary c rfl, Bool.false_eq_true, if_false,
            List.cons_append]
  | cons c w ih =>
      rw [List.forall_mem_cons] at continues
      rw [List.cons_append, scan_cons, Mode.advance, if_pos continues.1, List.nil_append,
        ih continues.2, List.reverse_cons, List.append_assoc, List.singleton_append]

theorem scan_word {w cs : List Char} (nonempty : w ≠ [])
    (continues : ∀ c ∈ w, isWordChar c = true) (boundary : Boundary cs) :
    scan .between (w ++ cs) = Token.ofWord w :: scan .between cs := by
  obtain ⟨c, w, rfl⟩ := List.exists_cons_of_ne_nil nonempty
  rw [List.forall_mem_cons] at continues
  rw [List.cons_append, scan_cons, Mode.advance, start_of_isWordChar continues.1, List.nil_append,
    scan_begun_word continues.2 boundary]
  rfl

theorem scan_text_plain {c : Char} (noQuote : c ≠ '"') (noBackslash : c ≠ '\\')
    (seen cs : List Char) :
    scan (.text seen false) (c :: cs) = scan (.text (c :: seen) false) cs := by
  rw [scan_cons, Mode.advance, if_neg noQuote, List.nil_append, decide_eq_false noBackslash]

theorem scan_text_escape (e : Char) (seen cs : List Char) :
    scan (.text seen false) ('\\' :: e :: cs) = scan (.text (e :: '\\' :: seen) false) cs := rfl

theorem scan_text_piece {w : List Char} {piece : Piece} (text : PieceText w piece)
    (seen cs : List Char) :
    scan (.text seen false) (w ++ cs) = scan (.text (w.reverse ++ seen) false) cs := by
  cases text with
  | plain noControl noQuote noBackslash => exact scan_text_plain noQuote noBackslash seen cs
  | short known => exact scan_text_escape _ seen cs
  | @unit h₁ h₂ h₃ h₄ digits =>
      have plain : ∀ h ∈ [h₁, h₂, h₃, h₄], h ≠ '"' ∧ h ≠ '\\' := by
        intro h inside
        constructor
        all_goals
          rintro rfl
          exact absurd (digits _ inside) (by decide)
      simp only [List.forall_mem_cons] at plain
      obtain ⟨first, second, third, fourth, -⟩ := plain
      simp only [List.cons_append, List.nil_append, List.reverse_cons, List.reverse_nil]
      rw [scan_text_escape, scan_text_plain first.1 first.2, scan_text_plain second.1 second.2,
        scan_text_plain third.1 third.2, scan_text_plain fourth.1 fourth.2]

theorem scan_text_pieces {body : List Char} {pieces : List Piece} (text : PiecesText body pieces)
    (seen cs : List Char) :
    scan (.text seen false) (body ++ cs) = scan (.text (body.reverse ++ seen) false) cs := by
  induction text generalizing seen with
  | nil => rfl
  | cons first rest ih =>
      rw [List.append_assoc, scan_text_piece first, ih, List.reverse_append, List.append_assoc]

theorem scan_quoted {body : List Char} {pieces : List Piece} (text : PiecesText body pieces)
    (cs : List Char) :
    scan .between ('"' :: (body ++ ['"']) ++ cs) =
      .scalar (.text (Piece.join [] pieces)) :: scan .between cs := by
  have opened : scan .between ('"' :: (body ++ ['"']) ++ cs) =
      scan (.text [] false) (body ++ ('"' :: cs)) := by
    rw [List.cons_append, List.append_assoc]
    rfl
  have closed : scan (.text body.reverse false) ('"' :: cs) =
      Token.ofQuoted body :: scan .between cs := by
    rw [scan_cons, Mode.advance, if_pos rfl, List.reverse_reverse]
    rfl
  rw [opened, scan_text_pieces text, List.append_nil, closed, Token.ofQuoted,
    unescape?_of_piecesText text]

theorem isWordChar_of_isDigit {c : Char} (digit : c.isDigit) : isWordChar c = true := by
  simp only [isWordChar, Char.isAlphanum, digit, Bool.or_true, Bool.true_or]

theorem isWordChar_of_plainNumeral (x : PlainNumeral) : ∀ c ∈ x.chars, isWordChar c = true := by
  intro c inside
  rw [PlainNumeral.chars, List.mem_append, List.mem_append] at inside
  rcases inside with (sign | whole) | fraction
  · split at sign
    · rw [List.mem_singleton.mp sign]
      decide
    · cases sign
  · exact isWordChar_of_isDigit (x.whole_digits c whole)
  · split at fraction
    · cases fraction
    · rcases List.mem_cons.mp fraction with rfl | digit
      · decide
      · exact isWordChar_of_isDigit (x.fraction_digits c digit)

theorem isWordChar_of_exponentText {e : List Char} {scale : ℤ} (text : ExponentText e scale) :
    ∀ c ∈ e, isWordChar c = true := by
  have letter : ∀ c ∈ ['e', 'E'], isWordChar c = true := List.all_eq_true.mp (by decide)
  cases text with
  | unsigned known _ digits =>
      rw [List.forall_mem_cons]
      exact ⟨letter _ known, fun c inside => isWordChar_of_isDigit (digits c inside)⟩
  | plus known _ digits | minus known _ digits =>
      rw [List.forall_mem_cons, List.forall_mem_cons]
      exact ⟨letter _ known, by decide, fun c inside => isWordChar_of_isDigit (digits c inside)⟩

theorem isWordChar_of_wordText {w : List Char} {a : Scalar} (text : WordText w a) :
    w ≠ [] ∧ ∀ c ∈ w, isWordChar c = true := by
  have nonempty : ∀ x : PlainNumeral, x.chars ≠ [] := by
    intro x empty
    rw [PlainNumeral.chars, List.append_eq_nil_iff, List.append_eq_nil_iff] at empty
    exact x.whole_ne_nil empty.1.2
  cases text with
  | constant known =>
      have checked := (by decide : ∀ entry ∈ constants,
        entry.1.toList ≠ [] ∧ entry.1.toList.all isWordChar = true) _ known
      exact ⟨checked.1, List.all_eq_true.mp checked.2⟩
  | whole noFraction short => exact ⟨nonempty _, isWordChar_of_plainNumeral _⟩
  | fraction fractional => exact ⟨nonempty _, isWordChar_of_plainNumeral _⟩
  | exponent behind =>
      constructor
      · exact fun empty => nonempty _ (List.append_eq_nil_iff.mp empty).1
      · rw [List.forall_mem_append]
        exact ⟨isWordChar_of_plainNumeral _, isWordChar_of_exponentText behind⟩

namespace Token

def IsScalar (token : Token) : Prop := ∃ a, token = .scalar a

/-- A token of the grammar. -/
def IsRegular : Token → Prop
  | .tooLong _ => False
  | .junk => False
  | _ => True

end Token

/-- No scalar stands directly behind another. -/
def Separated (tokens : List Token) : Prop :=
  tokens.IsChain fun front back => front.IsScalar → ¬ back.IsScalar

namespace Separated

/-- A token that is no scalar separates. -/
theorem around {front back : List Token} {mark : Token} (noScalar : ¬ mark.IsScalar)
    (before : Separated front) (behind : Separated back) : Separated (front ++ mark :: back) := by
  refine List.isChain_append.mpr ⟨before, List.isChain_cons.mpr ⟨?_, behind⟩, ?_⟩
  · intro next _ scalar
    exact absurd scalar noScalar
  · intro last _ next same _
    rw [List.head?_cons, Option.mem_def, Option.some_inj] at same
    rwa [← same]

theorem intercalate {runs : List (List Token)} (each : ∀ run ∈ runs, Separated run) :
    Separated ([Token.comma].intercalate runs) := by
  induction runs with
  | nil => exact .nil
  | cons run runs ih =>
      rw [List.forall_mem_cons] at each
      cases runs with
      | nil => exact List.intercalate_singleton ▸ each.1
      | cons next runs =>
          rw [List.intercalate_cons_cons, List.append_assoc]
          exact around (by rintro ⟨a, same⟩; cases same) each.1 (ih each.2)

theorem of_derives {tokens : List Token} {v : Value} (derives : Derives tokens v) :
    Separated tokens := by
  have bracket : ∀ token ∈ [Token.openArray, .closeArray, .openObject, .closeObject, .colon],
      ¬ token.IsScalar := by
    rintro token known ⟨a, rfl⟩
    simp at known
  -- Brackets around a separated run, whichever they are.
  have enclosed : ∀ {first last : Token} {run : List Token}, ¬ first.IsScalar → ¬ last.IsScalar →
      Separated run → Separated (first :: (run ++ [last])) := by
    intro first last run front back inner
    exact around front .nil (around back inner .nil)
  induction derives with
  | scalar a => exact List.isChain_singleton _
  | array parts each ih =>
      refine enclosed (bracket _ (by simp)) (bracket _ (by simp)) (intercalate ?_)
      rw [List.forall_mem_map]
      exact ih
  | object parts each ih =>
      refine enclosed (bracket _ (by simp)) (bracket _ (by simp)) (intercalate ?_)
      rw [List.forall_mem_map]
      intro part inside
      exact around (bracket _ (by simp)) (List.isChain_singleton _) (ih part inside)

end Separated

/-- What is not begun by a scalar cannot continue a word. -/
theorem boundary_of_lexemes {cs : List Char} {tokens : List Token} (lexemes : Lexemes cs tokens)
    (noScalar : ∀ token ∈ tokens.head?, ¬ token.IsScalar) : Boundary cs := by
  intro c first
  cases lexemes with
  | nil => cases first
  | blank space rest =>
      cases first
      exact not_isWordChar_of_blank _ space
  | token text rest =>
      cases text with
      | punctuation known =>
          cases first
          exact not_isWordChar_of_punctuation _ known
      | word text => exact absurd ⟨_, rfl⟩ (noScalar _ rfl)
      | quoted text => exact absurd ⟨_, rfl⟩ (noScalar _ rfl)

theorem scan_of_lexemes {cs : List Char} {tokens : List Token} (lexemes : Lexemes cs tokens)
    (separated : Separated tokens) : scan .between cs = tokens := by
  induction lexemes with
  | nil => rfl
  | blank space rest ih => rw [scan_blank space, ih separated]
  | @token w cs token tokens text rest ih =>
      obtain ⟨apart, separated⟩ := List.isChain_cons.mp separated
      have found := ih separated
      cases text with
      | punctuation known => rw [List.singleton_append, scan_punctuation known, found]
      | quoted text => rw [scan_quoted text, found]
      | word text =>
          have boundary : Boundary cs :=
            boundary_of_lexemes rest fun next first => apart next first ⟨_, rfl⟩
          obtain ⟨nonempty, continues⟩ := isWordChar_of_wordText text
          rw [scan_word nonempty continues boundary, found, Token.ofWord,
            ofWord?_of_wordText text]

/-- The characters of a begun token. -/
def Mode.begun : Mode → List Char
  | .between => []
  | .word seen => seen.reverse
  | .text seen _ => '"' :: seen.reverse

theorem tokenText_of_ofWord {w : List Char} (regular : (Token.ofWord w).IsRegular) :
    TokenText w (Token.ofWord w) := by
  unfold Token.ofWord at regular ⊢
  split
  · rename_i a read
    exact .word (wordText_of_ofWord? read)
  · rename_i unread
    rw [unread] at regular
    dsimp only at regular
    split at regular <;> exact regular.elim

theorem tokenText_of_ofQuoted {body : List Char} (regular : (Token.ofQuoted body).IsRegular) :
    TokenText ('"' :: (body ++ ['"'])) (Token.ofQuoted body) := by
  unfold Token.ofQuoted at regular ⊢
  split
  · rename_i t read
    obtain ⟨pieces, text, rfl⟩ := piecesText_of_unescape? read
    exact .quoted text
  · rename_i unread
    rw [unread] at regular
    exact regular.elim

/-- Between tokens the first character is a blank, or begins what is written there. -/
theorem lexemes_of_scan_between {c : Char} {cs : List Char}
    (behind : ∀ mode, (∀ token ∈ scan mode cs, token.IsRegular) →
      Lexemes (mode.begun ++ cs) (scan mode cs))
    (regular : ∀ token ∈ scan .between (c :: cs), token.IsRegular) :
    Lexemes (c :: cs) (scan .between (c :: cs)) := by
  rw [scan_cons, Mode.advance, Mode.start] at regular ⊢
  split at regular
  · rename_i space
    rw [if_pos space]
    exact .blank ((isSpace_iff c).mp space) (behind _ regular)
  rename_i noSpace
  rw [if_neg noSpace]
  split at regular
  · rename_i quote
    rw [if_pos quote, quote]
    exact behind _ regular
  rename_i noQuote
  rw [if_neg noQuote]
  cases found : Token.punctuation? c with
  | some token =>
      rw [found] at regular
      exact .token (.punctuation (punctuation?_eq_some_iff.mp found))
        (behind .between (List.forall_mem_cons.mp regular).2)
  | none =>
      rw [found] at regular
      dsimp only at regular ⊢
      split at regular
      · rename_i continues
        rw [if_pos continues]
        exact behind _ regular
      · exact (regular .junk (List.mem_cons_self ..)).elim

/-- The tokens that are found are written, if all of them are tokens of the grammar. -/
theorem lexemes_of_scan (mode : Mode) {cs : List Char}
    (regular : ∀ token ∈ scan mode cs, token.IsRegular) :
    Lexemes (mode.begun ++ cs) (scan mode cs) := by
  induction cs generalizing mode with
  | nil =>
      rw [List.append_nil]
      cases mode with
      | between => exact .nil
      | word seen =>
          have text := tokenText_of_ofWord (regular _ (List.mem_singleton_self _))
          have only := Lexemes.token text .nil
          rwa [List.append_nil] at only
      | text seen escaped => exact (regular .junk (List.mem_singleton_self _)).elim
  | cons c cs ih =>
      cases mode with
      | between => exact lexemes_of_scan_between ih regular
      | word seen =>
          by_cases continues : isWordChar c = true
          · rw [scan_cons, Mode.advance, if_pos continues] at regular ⊢
            have rest := ih _ regular
            rwa [Mode.begun, List.reverse_cons, List.append_assoc] at rest
          · have ended : scan (.word seen) (c :: cs) =
                Token.ofWord seen.reverse :: scan .between (c :: cs) := by
              rw [scan_cons, Mode.advance, if_neg continues]
              rfl
            rw [ended] at regular ⊢
            rw [List.forall_mem_cons] at regular
            exact .token (tokenText_of_ofWord regular.1) (lexemes_of_scan_between ih regular.2)
      | text seen escaped =>
          by_cases ended : escaped = false ∧ c = '"'
          · obtain ⟨rfl, rfl⟩ := ended
            have regular := List.forall_mem_cons.mp regular
            have rest := Lexemes.token (tokenText_of_ofQuoted regular.1) (ih .between regular.2)
            rwa [List.cons_append, List.append_assoc] at rest
          · have kept : ∃ escaped', scan (.text seen escaped) (c :: cs) =
                scan (.text (c :: seen) escaped') cs := by
              cases escaped with
              | true => exact ⟨false, rfl⟩
              | false =>
                  refine ⟨c = '\\', ?_⟩
                  rw [scan_cons, Mode.advance, if_neg fun quote => ended ⟨rfl, quote⟩]
                  rfl
            obtain ⟨escaped', kept⟩ := kept
            rw [kept] at regular ⊢
            have rest := ih _ regular
            rwa [Mode.begun, List.reverse_cons, List.cons_append, List.append_assoc] at rest

end WalletKit.Json
