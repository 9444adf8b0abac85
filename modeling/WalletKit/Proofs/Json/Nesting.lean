import WalletKit.Proofs.Json.Scanning

set_option autoImplicit false

namespace WalletKit.Json

/-- How many containers are open behind a token, `depth` being open before it. -/
def Token.depthBehind (depth : ℕ) : Token → ℕ
  | .openArray => depth + 1
  | .openObject => depth + 1
  | .closeArray => depth - 1
  | .closeObject => depth - 1
  | _ => depth

/-- The most containers that are open at once while tokens follow, `depth` being open before. -/
def peak (depth : ℕ) : List Token → ℕ
  | [] => depth
  | token :: tokens => max depth (peak (token.depthBehind depth) tokens)

theorem le_peak (depth : ℕ) (tokens : List Token) : depth ≤ peak depth tokens := by
  cases tokens with
  | nil => exact le_rfl
  | cons token tokens => exact le_max_left _ _

theorem Token.depthBehind_ofWord (depth : ℕ) (w : List Char) :
    (Token.ofWord w).depthBehind depth = depth := by
  unfold Token.ofWord
  split
  · rfl
  · split <;> rfl

theorem Token.depthBehind_ofQuoted (depth : ℕ) (body : List Char) :
    (Token.ofQuoted body).depthBehind depth = depth := by
  unfold Token.ofQuoted
  split <;> rfl

theorem peak_cons_of_flat {depth : ℕ} {token : Token} (flat : token.depthBehind depth = depth)
    (tokens : List Token) : peak depth (token :: tokens) = peak depth tokens := by
  rw [peak, flat, max_eq_right (le_peak depth tokens)]

def Mode.quoting : Mode → Quoting
  | .text _ false => .inside
  | .text _ true => .escaped
  | _ => .outside

theorem depthBehind_of_punctuation {c : Char} {token : Token} (known : (c, token) ∈ punctuation)
    (depth : ℕ) : token.depthBehind depth = depthBehind depth c := by
  simp only [punctuation, List.mem_cons, Prod.mk.injEq, List.not_mem_nil, or_false] at known
  obtain ⟨rfl, rfl⟩ | ⟨rfl, rfl⟩ | ⟨rfl, rfl⟩ | ⟨rfl, rfl⟩ | ⟨rfl, rfl⟩ | ⟨rfl, rfl⟩ := known
  all_goals rfl

theorem depthBehind_of_none {c : Char} (other : Token.punctuation? c = none) (depth : ℕ) :
    depthBehind depth c = depth := by
  have unknown : ∀ token, (c, token) ∉ punctuation := by
    intro token known
    rw [punctuation?_eq_some_iff.mpr known] at other
    cases other
  unfold depthBehind
  rw [if_neg, if_neg]
  · rintro (rfl | rfl)
    · exact unknown .closeArray (by decide)
    · exact unknown .closeObject (by decide)
  · rintro (rfl | rfl)
    · exact unknown .openArray (by decide)
    · exact unknown .openObject (by decide)

/-- Between tokens a character counts as the token that it is, if it is one. -/
theorem peak_start (depth : ℕ) (c : Char) (cs : List Char) :
    (Mode.start c).2.quoting = Quoting.outside.next c ∧
      peak depth ((Mode.start c).1 ++ scan (Mode.start c).2 cs) =
        max depth (peak (depthBehind depth c) (scan (Mode.start c).2 cs)) := by
  by_cases quote : c = '"'
  · subst quote
    exact ⟨rfl, (max_eq_right (le_peak depth _)).symm⟩
  have outside : Quoting.outside.next c = .outside := if_neg quote
  cases found : Token.punctuation? c with
  | some token =>
      have known := punctuation?_eq_some_iff.mp found
      rw [start_of_punctuation known, outside, List.singleton_append, peak,
        depthBehind_of_punctuation known]
      exact ⟨rfl, rfl⟩
  | none =>
      rw [outside, depthBehind_of_none found, max_eq_right (le_peak depth _), Mode.start,
        if_neg quote, found]
      dsimp only
      split
      · exact ⟨rfl, rfl⟩
      · split
        · exact ⟨rfl, rfl⟩
        · exact ⟨rfl, peak_cons_of_flat rfl _⟩

theorem le_deepest (quoting : Quoting) (depth : ℕ) (cs : List Char) :
    depth ≤ deepest quoting depth cs := by
  cases cs with
  | nil => exact le_rfl
  | cons c cs => exact le_max_left _ _

theorem deepest_cons_of_ne_outside {quoting : Quoting} (quoted : quoting ≠ .outside) (depth : ℕ)
    (c : Char) (cs : List Char) :
    deepest quoting depth (c :: cs) = deepest (quoting.next c) depth cs := by
  rw [deepest, if_neg quoted, max_eq_right (le_deepest _ depth cs)]

/-- What the end of a text completes neither opens nor closes a container. -/
theorem peak_finish (mode : Mode) (depth : ℕ) : peak depth mode.finish = depth := by
  cases mode with
  | between => rfl
  | word seen => exact peak_cons_of_flat (Token.depthBehind_ofWord depth _) []
  | text seen escaped => exact peak_cons_of_flat rfl []

/-- The brackets and braces that a scan finds are those that do not stand between quotes. -/
theorem peak_scan (mode : Mode) (depth : ℕ) (cs : List Char) :
    peak depth (scan mode cs) = deepest mode.quoting depth cs := by
  induction cs generalizing mode depth with
  | nil => rw [scan, deepest, peak_finish]
  | cons c cs ih =>
      have started : peak depth (scan .between (c :: cs)) = deepest .outside depth (c :: cs) := by
        obtain ⟨next, same⟩ := peak_start depth c cs
        rw [scan_cons, Mode.advance, same, ih, next, deepest, if_pos rfl]
      cases mode with
      | between => exact started
      | word seen =>
          by_cases continues : isWordChar c = true
          · have flat := depthBehind_of_none (punctuation?_of_isWordChar continues) depth
            have next : Quoting.outside.next c = .outside := by
              refine if_neg ?_
              rintro rfl
              exact absurd continues (by decide)
            have still : (Mode.word seen).quoting = .outside := rfl
            rw [scan_cons, Mode.advance, if_pos continues, List.nil_append, ih, still, deepest,
              if_pos rfl, next, flat, max_eq_right (le_deepest _ depth cs)]
            rfl
          · have ended : scan (.word seen) (c :: cs) =
                Token.ofWord seen.reverse :: scan .between (c :: cs) := by
              rw [scan_cons, Mode.advance, if_neg continues]
              rfl
            rw [ended, peak_cons_of_flat (Token.depthBehind_ofWord depth _)]
            exact started
      | text seen escaped =>
          have quoted : (Mode.text seen escaped).quoting ≠ .outside := by
            cases escaped <;> exact Quoting.noConfusion
          rw [deepest_cons_of_ne_outside quoted]
          cases escaped with
          | true => exact ih (.text (c :: seen) false) depth
          | false =>
              rw [scan_cons, Mode.advance]
              by_cases quote : c = '"'
              · rw [if_pos quote]
                subst quote
                exact (peak_cons_of_flat (Token.depthBehind_ofQuoted depth _) _).trans
                  (ih .between depth)
              · rw [if_neg quote, List.nil_append, ih]
                by_cases backslash : c = '\\'
                · subst backslash
                  rfl
                · rw [Mode.quoting, Quoting.next, if_neg quote, if_neg backslash,
                    decide_eq_false backslash]
                  rfl

theorem peak_scan_between (s : String) : peak 0 (scan .between s.toList) = nesting s :=
  peak_scan .between 0 s.toList

end WalletKit.Json
