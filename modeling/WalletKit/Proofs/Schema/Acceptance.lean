import WalletKit.Proofs.Decimal.PlainNotation
import WalletKit.Schema.Basic

set_option autoImplicit false

namespace WalletKit

open Json

namespace Binary64

/-- The number that finite data stand for. -/
def value? : Binary64 → Option ℚ
  | .finite negative mantissa exponent => some (signFactor negative * (mantissa * 2 ^ exponent))
  | _ => none

/-- A fraction of a power of two is whole if the power divides its numerator. -/
theorem dvd_iff_whole (mantissa k : ℕ) :
    2 ^ k ∣ mantissa ↔ ∃ z : ℤ, mantissa * (2 : ℚ) ^ (-k : ℤ) = z := by
  have positive : (2 : ℚ) ^ k ≠ 0 := pow_ne_zero k two_ne_zero
  have cleared : ∀ z : ℤ, mantissa * (2 : ℚ) ^ (-k : ℤ) = z ↔ (mantissa : ℤ) = z * 2 ^ k := by
    intro z
    rw [zpow_neg, zpow_natCast, mul_inv_eq_iff_eq_mul₀ positive]
    exact_mod_cast Iff.rfl
  simp only [cleared]
  rw [← Int.natCast_dvd_natCast, dvd_iff_exists_eq_mul_left]
  norm_cast

theorem exists_signFactor_mul_iff (negative : Bool) (q : ℚ) :
    (∃ z : ℤ, signFactor negative * q = z) ↔ ∃ z : ℤ, q = z := by
  cases negative with
  | false => simp only [signFactor, Bool.false_eq_true, if_false, one_mul]
  | true =>
      simp only [signFactor, if_true, neg_one_mul]
      constructor
      · rintro ⟨z, same⟩
        exact ⟨-z, by rw [Int.cast_neg, ← same, neg_neg]⟩
      · rintro ⟨z, rfl⟩
        exact ⟨-z, (Int.cast_neg z).symm⟩

theorem isWhole_iff (x : Binary64) : x.isWhole = true ↔ ∃ z : ℤ, x.value? = some ↑z := by
  cases x with
  | infinite negative | nan => simp [isWhole, value?]
  | finite negative mantissa exponent =>
      simp only [isWhole, value?, Option.some_inj, decide_eq_true_eq, exists_signFactor_mul_iff]
      obtain ⟨k, rfl | rfl⟩ := exponent.eq_nat_or_neg
      · have unit : Nat.pow 2 (-(k : ℤ)).toNat = 1 := by
          rw [Int.toNat_eq_zero.mpr (by omega)]
        rw [unit, Nat.mod_one]
        exact iff_of_true rfl ⟨mantissa * 2 ^ k, by push_cast [zpow_natCast]; rfl⟩
      · rw [neg_neg, Int.toNat_natCast, Nat.pow_eq, ← Nat.dvd_iff_mod_eq_zero]
        exact dvd_iff_whole mantissa k

end Binary64

namespace Json

/-- The number that a scalar is, if it is one. -/
def Scalar.number? : Scalar → Option ℚ
  | .int n => some n
  | .double x => x.value?
  | _ => none

/-- A number with an integral value; neither a truth value nor infinite. -/
def Value.IsInteger (v : Value) : Prop :=
  ∃ (a : Scalar) (z : ℤ), v = .scalar a ∧ a.number? = some ↑z

def Value.IsText (v : Value) : Prop := ∃ t, v = .scalar (.text t)

end Json

namespace Kind

/-- The values of a kind. -/
def Holds : Kind → Value → Prop
  | .null, v => v = .scalar .null
  | .boolean, v => ∃ b, v = .scalar (.bool b)
  | .integer, v => v.IsInteger
  | .number, v => ∃ a, v = .scalar a ∧ ((∃ n, a = .int n) ∨ ∃ x, a = .double x)
  | .string, v => v.IsText
  | .array, v => ∃ items, v = .array items
  | .object, v => ∃ members, v = .object members

theorem accepts_integer_iff (v : Value) : Kind.integer.accepts v = true ↔ v.IsInteger := by
  constructor
  · intro accepted
    cases v with
    | array | object => cases accepted
    | scalar a =>
        cases a with
        | null | bool | text => cases accepted
        | int n => exact ⟨.int n, n, rfl, rfl⟩
        | double x =>
            obtain ⟨z, whole⟩ := x.isWhole_iff.mp accepted
            exact ⟨.double x, z, rfl, whole⟩
  · rintro ⟨a, z, rfl, whole⟩
    cases a with
    | null | bool | text => cases whole
    | int n => rfl
    | double x => exact x.isWhole_iff.mpr ⟨z, whole⟩

theorem accepts_iff (k : Kind) (v : Value) : k.accepts v = true ↔ k.Holds v := by
  cases k with
  | integer => exact accepts_integer_iff v
  | null | boolean | number | string | array | object =>
      cases v with
      | scalar a => cases a <;> simp [accepts, Holds, Value.IsText]
      | array items => simp [accepts, Holds, Value.IsText]
      | object members => simp [accepts, Holds, Value.IsText]

end Kind

namespace Schema

/-- The values that meet all demands. -/
def Holds : Schema → Value → Prop
  | .anything, _ => True
  | .kind k rest, v => k.Holds v ∧ rest.Holds v
  | .required name rest, v =>
    (∀ members, v = .object members →
      ∃ found, Members.get? members (Text.ofString name) = some found) ∧ rest.Holds v
  | .member name inner rest, v =>
    (∀ members, v = .object members →
      ∀ found, Members.get? members (Text.ofString name) = some found → inner.Holds found) ∧
      rest.Holds v
  | .each inner rest, v =>
    (∀ items, v = .array items → ∀ item ∈ items, inner.Holds item) ∧ rest.Holds v

theorem itemFaults_eq_nil_iff (inner : Schema) (items : List Value) :
    (items.zipIdx.flatMap fun (item, i) => (inner.faults item).map (Fault.inItem i)) = [] ↔
      ∀ item ∈ items, inner.faults item = [] := by
  simp only [List.flatMap_eq_nil_iff, List.map_eq_nil_iff, Prod.forall]
  constructor
  · intro none item inside
    obtain ⟨i, bound, rfl⟩ := List.getElem_of_mem inside
    exact none _ i (List.mem_zipIdx_iff_getElem?.mpr (List.getElem?_eq_getElem bound))
  · intro none item i inside
    exact none item (List.fst_mem_of_mem_zipIdx inside)

theorem accepts_iff_holds (schema : Schema) (v : Value) :
    schema.accepts v = true ↔ schema.Holds v := by
  rw [accepts, List.isEmpty_iff]
  induction schema generalizing v with
  | anything => exact iff_of_true rfl trivial
  | kind k rest ih =>
      rw [faults, List.append_eq_nil_iff, ih, Holds, ← Kind.accepts_iff]
      refine and_congr_left' ?_
      split <;> simp [*]
  | required name rest ih =>
      rw [Holds, ← ih]
      cases v with
      | scalar | array => simp [faults]
      | object members => simp [faults, Option.isSome_iff_exists]
  | member name inner rest ihInner ih =>
      rw [Holds, ← ih]
      cases v with
      | scalar | array => simp [faults]
      | object members =>
          cases found : Members.get? members (Text.ofString name) with
          | none => simp [faults, found]
          | some inside => simp [faults, found, ← ihInner]
  | each inner rest ihInner ih =>
      rw [Holds, ← ih]
      cases v with
      | scalar | object => simp [faults]
      | array items =>
          rw [faults, List.append_eq_nil_iff]
          dsimp only
          rw [itemFaults_eq_nil_iff]
          simp [ihInner]

end Schema

end WalletKit
