import WalletKit.Proofs.Json.Grammar

set_option autoImplicit false

namespace WalletKit.Json

open Numeral

namespace Piece

theorem shortEscape?_of_known {e c : Char} (known : (e, c) ∈ shortEscapes) :
    e ≠ 'u' ∧ shortEscape? e = some c :=
  (by decide : ∀ escape ∈ shortEscapes, escape.1 ≠ 'u' ∧ shortEscape? escape.1 = some escape.2)
    (e, c) known

theorem known_of_shortEscape? {e c : Char} (meant : shortEscape? e = some c) :
    (e, c) ∈ shortEscapes := by
  unfold shortEscape? at meant
  split at meant
  all_goals
    cases meant
    try decide

theorem isPlain_iff (c : Char) : isPlain c = true ↔ c ≠ '"' ∧ c ≠ '\\' ∧ 0x20 ≤ c.toNat := by
  simp only [isPlain, Bool.and_eq_true, decide_eq_true_eq, Char.le_def, UInt32.le_iff_toNat_le,
    and_assoc]
  rfl

theorem unit?_of_digits {h₁ h₂ h₃ h₄ : Char} (digits : ∀ h ∈ [h₁, h₂, h₃, h₄], IsHexDigit h) :
    unit? [h₁, h₂, h₃, h₄] = some (.unit (Fin.ofNat 0x10000 (hexNumber [h₁, h₂, h₃, h₄]))) := by
  rw [unit?, read?_sixteen (List.cons_ne_nil _ _) digits, Option.map_some]

theorem digits_of_unit? {hs : List Char} {piece : Piece} (read : unit? hs = some piece) :
    ∀ h ∈ hs, IsHexDigit h := by
  intro h inside
  by_contra bad
  rw [unit?, read?_sixteen_eq_none (Or.inr ⟨h, inside, bad⟩)] at read
  cases read

/-- A piece that is written is found. -/
theorem split?_append_piece {w : List Char} {piece : Piece} (text : PieceText w piece)
    (done : List Piece) (cs : List Char) : split? done (w ++ cs) = split? (piece :: done) cs := by
  cases text with
  | plain noControl noQuote noBackslash =>
      rw [List.singleton_append, split?.eq_def]
      dsimp only
      rw [if_neg noBackslash, if_pos ((isPlain_iff _).mpr ⟨noQuote, noBackslash, noControl⟩)]
  | short known =>
      obtain ⟨noUnit, meant⟩ := shortEscape?_of_known known
      rw [List.cons_append, List.singleton_append, split?.eq_def]
      simp only [if_true, if_neg noUnit, meant]
  | unit digits =>
      simp only [List.cons_append, List.nil_append]
      rw [split?.eq_def]
      simp only [if_true, unit?_of_digits digits]

theorem split?_of_piecesText {cs : List Char} {pieces : List Piece} (text : PiecesText cs pieces)
    (done : List Piece) : split? done cs = some (done.reverse ++ pieces) := by
  induction text generalizing done with
  | nil => rw [split?, List.append_nil]
  | cons first rest ih =>
      rw [split?_append_piece first, ih, List.reverse_cons, List.append_assoc]
      rfl

theorem piecesText_of_split? {cs : List Char} {done found : List Piece}
    (split : split? done cs = some found) :
    ∃ pieces, PiecesText cs pieces ∧ found = done.reverse ++ pieces := by
  -- Each piece found first is one of the three ways to write one, and the rest follows it.
  have more : ∀ {w cs : List Char} {piece : Piece} {done : List Piece}, PieceText w piece →
      (∃ pieces, PiecesText cs pieces ∧ found = (piece :: done).reverse ++ pieces) →
      ∃ pieces, PiecesText (w ++ cs) pieces ∧ found = done.reverse ++ pieces := by
    rintro w cs piece done first ⟨pieces, rest, same⟩
    refine ⟨piece :: pieces, .cons first rest, ?_⟩
    rw [same, List.reverse_cons, List.append_assoc]
    rfl
  fun_induction split? done cs with
  | case1 done =>
      refine ⟨[], .nil, ?_⟩
      rw [List.append_nil]
      exact (Option.some.inj split).symm
  | case3 done h₁ h₂ h₃ h₄ rest piece read ih =>
      have digits := digits_of_unit? read
      rw [unit?_of_digits digits] at read
      cases read
      exact more (.unit digits) (ih split)
  | case6 done e rest noUnit meant known ih =>
      exact more (.short (known_of_shortEscape? known)) (ih split)
  | case8 done c rest noBackslash plain ih =>
      obtain ⟨noQuote, -, noControl⟩ := (isPlain_iff c).mp plain
      exact more (.plain noControl noQuote noBackslash) (ih split)
  | case2 | case4 | case5 | case7 | case9 => cases split

end Piece

theorem unescape?_of_piecesText {cs : List Char} {pieces : List Piece}
    (text : PiecesText cs pieces) : unescape? cs = some (Piece.join [] pieces) := by
  rw [unescape?, Piece.split?_of_piecesText text]
  rfl

theorem piecesText_of_unescape? {cs : List Char} {t : Text} (read : unescape? cs = some t) :
    ∃ pieces, PiecesText cs pieces ∧ t = Piece.join [] pieces := by
  rw [unescape?, Option.map_eq_some_iff] at read
  obtain ⟨found, split, rfl⟩ := read
  obtain ⟨pieces, text, same⟩ := Piece.piecesText_of_split? split
  exact ⟨pieces, text, congrArg (Piece.join []) same⟩

end WalletKit.Json
