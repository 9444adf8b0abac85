import WalletKit.Proofs.Json.Endings
import WalletKit.Proofs.Swap.Liquidity

set_option autoImplicit false

namespace WalletKit.Swap

open Json

theorem unanswered_of_tooDeep {limit : ℕ} {s : String} {container : Container}
    (failed : read limit s = .error (.tooDeep container)) :
    isDocument limit (some s) = .error (.tooDeep container) ∧
      isLiquidityError limit (some s) = .error (.reading (.tooDeep container)) := by
  refine ⟨isDocument_of_tooDeep failed, ?_⟩
  rw [isLiquidityError, readGiven, failed]
  rfl

/-- Every text that does not begin too deep is answered by what it spells, and in the negative if it
spells nothing. On all others both questions fail, whatever follows their beginning. -/
theorem answered_unless_too_deep (limit : ℕ) (s : String) :
    (¬ BeginsTooDeep limit s → ∃ document liquidity,
      isDocument limit (some s) = .ok document ∧ isLiquidityError limit (some s) = .ok liquidity ∧
        (document = true ↔
          ∃ v, Spells s v ∧ ((∃ items, v = .array items) ∨ ∃ members, v = .object members)) ∧
        (liquidity.value = true ↔ ∃ v, Spells s v ∧ TellsOfLiquidity v)) ∧
    (BeginsTooDeep limit s → ∃ container,
      isDocument limit (some s) = .error (.tooDeep container) ∧
        isLiquidityError limit (some s) = .error (.reading (.tooDeep container))) := by
  rw [← read_tooDeep_iff]
  constructor
  · intro shallow
    obtain ⟨document, first, spelled⟩ := isDocument_of_not_tooDeep shallow
    obtain ⟨liquidity, second, told⟩ := isLiquidityError_of_not_tooDeep shallow
    exact ⟨document, liquidity, first, second, spelled, told⟩
  · intro given
    obtain ⟨container, failed⟩ := given
    exact ⟨container, unanswered_of_tooDeep failed⟩

/-- An array that is not closed is answered in the negative, and a thousand of them are not answered
at all where there is room for fewer, although the text does not go on as it begins. -/
theorem answered_unless_too_deep_of_open_arrays :
    (isDocument 990 (some "[") ≠ .ok true ∧
      ∃ liquidity, isLiquidityError 990 (some "[") = .ok liquidity ∧ liquidity.value = false) ∧
    ∃ container, isDocument 990 (some (String.ofList (List.replicate 1000 '[' ++ ['x']))) =
      .error (.tooDeep container) := by
  have shallow : ¬ BeginsTooDeep 990 "[" := by
    rw [← read_tooDeep_iff]
    exact not_tooDeep_of_nesting (by decide)
  have nothing : ¬ ∃ v, Spells "[" v := by
    intro given
    obtain ⟨v, spells⟩ := given
    have done := read_eq_ok_iff.mpr ⟨spells, (by decide : nesting "[" ≤ 990)⟩
    cases done
  have deep : BeginsTooDeep 990 (String.ofList (List.replicate 1000 '[' ++ ['x'])) := by
    refine beginsTooDeep_of_brackets (by decide : 990 < 1000) ?_
    rw [String.toList_ofList]
    exact List.prefix_append _ _
  obtain ⟨document, liquidity, first, second, spelled, told⟩ :=
    (answered_unless_too_deep 990 "[").1 shallow
  obtain ⟨container, failed, -⟩ := (answered_unless_too_deep 990 _).2 deep
  refine ⟨⟨?_, liquidity, second, ?_⟩, container, failed⟩
  · rw [first]
    intro positive
    obtain ⟨v, spells, -⟩ := spelled.mp (Except.ok.inj positive)
    exact nothing ⟨v, spells⟩
  · rw [Bool.eq_false_iff]
    intro positive
    obtain ⟨v, spells, -⟩ := told.mp positive
    exact nothing ⟨v, spells⟩

/-- Four thousand opening brackets are no JSON text. Where there is not room for all of them neither
question about them is answered. -/
theorem brackets_unanswered :
    (¬ ∃ v, Spells (String.ofList (List.replicate 4000 '[')) v) ∧
    ∀ limit < 4000, ∃ container,
      isDocument limit (some (String.ofList (List.replicate 4000 '['))) =
        .error (.tooDeep container) ∧
      isLiquidityError limit (some (String.ofList (List.replicate 4000 '['))) =
        .error (.reading (.tooDeep container)) := by
  refine ⟨fun given => given.elim (not_spells_brackets 4000), ?_⟩
  intro limit room
  obtain ⟨container, failed⟩ := tooDeep_of_brackets room
  exact ⟨container, unanswered_of_tooDeep failed⟩

/-- Both questions about the text are answered, and in the negative. -/
def Rejected (limit : ℕ) (s : String) : Prop :=
  isDocument limit (some s) = .ok false ∧
    ∃ liquidity, isLiquidityError limit (some s) = .ok liquidity ∧ liquidity.value = false

theorem rejected_of_not_isDocument {limit : ℕ} {s : String} (shallow : ¬ BeginsTooDeep limit s)
    (noDocument : isDocument limit (some s) ≠ .ok true) : Rejected limit s := by
  rw [← read_tooDeep_iff] at shallow
  obtain ⟨document, first, -⟩ := isDocument_of_not_tooDeep shallow
  obtain ⟨liquidity, second, -⟩ := isLiquidityError_of_not_tooDeep shallow
  refine ⟨?_, liquidity, second, ?_⟩
  · rw [first] at noDocument ⊢
    cases document with
    | false => rfl
    | true => exact absurd rfl noDocument
  · rw [Bool.eq_false_iff]
    intro positive
    exact noDocument (isDocument_of_isLiquidityError second positive)

theorem rejected_of_unreadable {limit : ℕ} {s : String}
    (failed : read limit s = .error .unreadable) : Rejected limit s := by
  apply rejected_of_not_isDocument
  · rw [← read_tooDeep_iff, failed]
    rintro ⟨container, deep⟩
    cases deep
  · rw [ne_eq, isDocument_eq_true_iff, failed]
    rintro ⟨v, done, -⟩
    cases done

end WalletKit.Swap
