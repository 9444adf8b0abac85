import WalletKit.Proofs.Amount.Products
import WalletKit.Transaction.Data

set_option autoImplicit false

namespace WalletKit

namespace Amount

open Numeral

theorem multiplyHex_of_not_readable {a b : String}
    (unreadable : ¬ (ReadableHex a ∧ ReadableHex b)) :
    ∃ cause, multiplyHex a b = .error (.unreadable cause) := by
  rcases denotes_or_refuses a b with ⟨m, n, left, right⟩ | ⟨s, refuses⟩
  · exact absurd ⟨left.readable, right.readable⟩ unreadable
  · exact ⟨_, multiplyHex_of_refuses refuses⟩

namespace Converter

/-- Dividing fails for other reasons than the text that was read. -/
theorem tokensOfUnits_ne_unreadable (c : Converter) (n : ℕ) (cause : ParseError) :
    c.tokensOfUnits n ≠ .error (.unreadable cause) := by
  unfold tokensOfUnits
  cases Decimal.divide n c.decimals c.precision <;> simp [Except.mapError]

theorem tokensOfHexUnits_unreadable_iff (c : Converter) (s : String) :
    (∃ cause, c.tokensOfHexUnits s = .error (.unreadable cause)) ↔
      ∃ d ∈ behindMark s, ¬ IsHexDigit d := by
  rw [tokensOfHexUnits_eq]
  constructor
  · intro refused
    by_contra digits
    push Not at digits
    obtain ⟨cause, failed⟩ := refused
    split at failed
    · cases failed
    · rename_i late
      rw [readHex_of_readable ⟨(not_or.mp late).2, digits⟩] at failed
      exact tokensOfUnits_ne_unreadable c _ cause failed
  · intro bad
    have late : ¬ (s = zeroHex ∨ behindMark s = []) := by
      obtain ⟨d, inside, noDigit⟩ := bad
      rintro (rfl | empty)
      · rw [behindMark_zeroHex, List.mem_singleton] at inside
        exact noDigit (inside ▸ by decide)
      · rw [empty] at inside
        cases inside
    have unreadable : ¬ ReadableHex s := by
      intro readable
      obtain ⟨d, inside, noDigit⟩ := bad
      exact noDigit (readable.2 d inside)
    rw [if_neg late, readHex_of_not_readable unreadable]
    exact ⟨_, rfl⟩

end Converter

end Amount

namespace Transaction

open Record Numeral Amount

/-- Still to be filled in, or the mark and at least one digit and nothing else. -/
def UsableQuantity (q : String) : Prop :=
  q = "" ∨ ∃ digits : List Char, digits ≠ [] ∧ (∀ d ∈ digits, IsHexDigit d) ∧
    q.toList = '0' :: 'x' :: digits

/-- Still to be filled in, or the mark and whatever follows. -/
def MarkedQuantity (q : String) : Prop := q = "" ∨ ∃ rest, q.toList = '0' :: 'x' :: rest

theorem UsableQuantity.marked {q : String} (usable : UsableQuantity q) : MarkedQuantity q := by
  rcases usable with empty | ⟨digits, -, -, marked⟩
  · exact Or.inl empty
  · exact Or.inr ⟨digits, marked⟩

theorem MarkedQuantity.usable_iff {q : String} (marked : MarkedQuantity q) (filled : q ≠ "") :
    UsableQuantity q ↔ ReadableHex q := by
  obtain ⟨rest, shape⟩ := marked.resolve_left filled
  rw [UsableQuantity, or_iff_right filled, ReadableHex, behindMark_of_marked shape]
  constructor
  · rintro ⟨digits, nonempty, hexDigits, same⟩
    have rests : rest = digits := by simpa [shape] using same
    rw [rests]
    exact ⟨nonempty, hexDigits⟩
  · intro readable
    exact ⟨rest, readable.1, readable.2, shape⟩

/-- Behind the mark of an unusable quantity stands something else than a digit, or nothing. -/
theorem MarkedQuantity.exists_not_digit_iff {q : String} (marked : MarkedQuantity q) :
    (∃ d ∈ behindMark q, ¬ IsHexDigit d) ↔ ¬ UsableQuantity q ∧ q ≠ hexMark := by
  by_cases filled : q = ""
  · have empty : behindMark "" = [] := rfl
    rw [filled, empty]
    simp [UsableQuantity]
  · have bare : q = hexMark ↔ behindMark q = [] := by
      obtain ⟨rest, shape⟩ := marked.resolve_left filled
      rw [behindMark_of_marked shape, ← String.toList_inj, shape]
      simp [hexMark]
    rw [marked.usable_iff filled, ReadableHex, ne_eq q, bare]
    constructor
    · rintro ⟨d, inside, noDigit⟩
      exact ⟨fun readable => noDigit (readable.2 d inside), List.ne_nil_of_mem inside⟩
    · rintro ⟨unreadable, nonempty⟩
      by_contra digits
      push Not at digits
      exact unreadable ⟨nonempty, digits⟩

theorem quantity_ok_iff {default q : String} {given : Option Input} :
    quantity default given = .ok q ↔
      (given = none ∧ default = q) ∨
        ∃ input, given = some input ∧ asText input = .ok q ∧ MarkedQuantity q := by
  cases given with
  | none => simp [quantity]
  | some input =>
      simp only [quantity, reduceCtorEq, false_and, false_or, Option.some.injEq,
        exists_eq_left', MarkedQuantity, ← hasHexMark_iff]
      cases asText input with
      | error cause => simp
      | ok s =>
          simp only [Except.ok.injEq]
          split
          · rename_i checked
            simp only [Except.ok.injEq]
            exact ⟨fun same => ⟨same, same ▸ checked⟩, And.left⟩
          · rename_i refused
            simp only [reduceCtorEq, false_iff, not_and]
            exact fun same checked => refused (same ▸ checked)

theorem markedQuantity_of_quantity {default q : String} {given : Option Input}
    (unset : MarkedQuantity default) (read : quantity default given = .ok q) :
    MarkedQuantity q := by
  rcases quantity_ok_iff.mp read with ⟨-, rfl⟩ | ⟨-, -, -, marked⟩
  · exact unset
  · exact marked

theorem quantity_of_asText {default q : String} {input : Input} (read : asText input = .ok q)
    (marked : MarkedQuantity q) : quantity default (some input) = .ok q :=
  quantity_ok_iff.mpr (Or.inr ⟨input, rfl, read, marked⟩)

theorem asText_bytes (s : String) : asText (.bytes s.toUTF8.data.toList) = .ok s := by
  have decoded : String.fromUTF8? ⟨s.toUTF8.data.toList.toArray⟩ = some s :=
    dif_pos s.isValidUTF8
  rw [asText, decoded]

namespace TxData

/-- The quantities of a transaction, in the order of its fields. -/
def quantities (tx : TxData) : List String := [tx.nonce, tx.gasPrice, tx.gasLimit, tx.value]

theorem build_ok_iff {fields : Fields} {tx : TxData} :
    build fields = .ok tx ↔
      quantity "" (fields.get? "nonce") = .ok tx.nonce ∧
      quantity "" (fields.get? "gas_price") = .ok tx.gasPrice ∧
      quantity "" (fields.get? "gas_limit") = .ok tx.gasLimit ∧
      requiredText (fields.get? "to") = .ok tx.recipient ∧
      quantity "0x0" (fields.get? "value") = .ok tx.value ∧
      optionalBytes (fields.get? "data") = .ok tx.data := by
  unfold build
  dsimp only
  constructor
  · intro built
    split at built
    · rename_i nonce gasPrice gasLimit recipient value data
      cases built
      exact ⟨nonce, gasPrice, gasLimit, recipient, value, data⟩
    · cases built
  · rintro ⟨nonce, gasPrice, gasLimit, recipient, value, data⟩
    rw [nonce, gasPrice, gasLimit, recipient, value, data]

/-- Every transaction whose quantities are marked is built from its own fields. -/
theorem ofArguments_of_marked {tx : TxData} (marked : ∀ q ∈ tx.quantities, MarkedQuantity q) :
    ofArguments (.text tx.nonce) (.text tx.gasPrice) (.text tx.gasLimit) (.text tx.recipient)
      (.text tx.value) (.bytes tx.data) = .ok tx := by
  simp only [quantities, List.forall_mem_cons] at marked
  obtain ⟨nonce, gasPrice, gasLimit, value, -⟩ := marked
  exact build_ok_iff.mpr ⟨quantity_of_asText rfl nonce, quantity_of_asText rfl gasPrice,
    quantity_of_asText rfl gasLimit, rfl, quantity_of_asText rfl value, rfl⟩

theorem marked_of_build {fields : Fields} {tx : TxData} (built : build fields = .ok tx) :
    ∀ q ∈ tx.quantities, MarkedQuantity q := by
  obtain ⟨nonce, gasPrice, gasLimit, -, value, -⟩ := build_ok_iff.mp built
  have unset : MarkedQuantity "" := Or.inl rfl
  have zero : MarkedQuantity "0x0" := Or.inr ⟨['0'], rfl⟩
  simp only [quantities, List.forall_mem_cons]
  exact ⟨markedQuantity_of_quantity unset nonce, markedQuantity_of_quantity unset gasPrice,
    markedQuantity_of_quantity unset gasLimit, markedQuantity_of_quantity zero value,
    List.forall_mem_nil _⟩

/-- A built transaction has marked quantities, and nothing more is known of them. Its fee is
computed if and only if limit and price are usable as well, and its value is read if and only if it
is usable or a bare mark. -/
theorem built_quantities_marked (tx : TxData) :
    ((∃ fields, build fields = .ok tx) ↔ ∀ q ∈ tx.quantities, MarkedQuantity q) ∧
    ∀ fields, build fields = .ok tx →
      (tx.gasLimit ≠ "" → tx.gasPrice ≠ "" →
        (UsableQuantity tx.gasLimit ∧ UsableQuantity tx.gasPrice →
          multiplyHex tx.gasLimit tx.gasPrice =
            .ok (hex (hexNumber (behindMark tx.gasLimit) * hexNumber (behindMark tx.gasPrice)))) ∧
        (¬ (UsableQuantity tx.gasLimit ∧ UsableQuantity tx.gasPrice) →
          ∃ cause, multiplyHex tx.gasLimit tx.gasPrice = .error (.unreadable cause))) ∧
      ∀ c : Converter, (∃ cause, c.tokensOfHexUnits tx.value = .error (.unreadable cause)) ↔
        ¬ UsableQuantity tx.value ∧ tx.value ≠ "0x" := by
  constructor
  · constructor
    · rintro ⟨fields, built⟩
      exact marked_of_build built
    · intro marked
      exact ⟨_, ofArguments_of_marked marked⟩
  · intro fields built
    have marked := marked_of_build built
    simp only [quantities, List.forall_mem_cons] at marked
    obtain ⟨-, gasPrice, gasLimit, value, -⟩ := marked
    constructor
    · intro limitFilled priceFilled
      rw [gasLimit.usable_iff limitFilled, gasPrice.usable_iff priceFilled]
      exact ⟨fun readable => multiplyHex_of_readable readable.1 readable.2,
        multiplyHex_of_not_readable⟩
    · intro c
      rw [c.tokensOfHexUnits_unreadable_iff, value.exists_not_digit_iff]
      rfl

/-- A limit given as bytes and a price in digits make a fee, and a value that is a bare mark is
read. -/
theorem built_quantities_marked_of_bare_value :
    ∃ fields tx, build fields = .ok tx ∧ tx.value = "0x" ∧
      UsableQuantity tx.gasLimit ∧ UsableQuantity tx.gasPrice ∧
      multiplyHex tx.gasLimit tx.gasPrice = .ok (hex 42000) ∧
      ¬ ∃ cause, ({} : Converter).tokensOfHexUnits tx.value = .error (.unreadable cause) := by
  let fields : Fields := [("to", .text "0x35"), ("gas_limit", .bytes "0x5208".toUTF8.data.toList),
    ("gas_price", .text "0x2"), ("value", .text "0x")]
  let tx : TxData := ⟨"", "0x2", "0x5208", "0x35", "0x", []⟩
  have limit : UsableQuantity "0x5208" :=
    Or.inr ⟨['5', '2', '0', '8'], by decide, List.all_iff_forall_prop.mp (by decide), rfl⟩
  have price : UsableQuantity "0x2" :=
    Or.inr ⟨['2'], by decide, List.all_iff_forall_prop.mp (by decide), rfl⟩
  have built : build fields = .ok tx :=
    build_ok_iff.mpr ⟨rfl, rfl, quantity_of_asText (asText_bytes _) limit.marked, rfl, rfl, rfl⟩
  obtain ⟨-, used⟩ := built_quantities_marked tx
  obtain ⟨fee, value⟩ := used fields built
  have product := (fee (by decide) (by decide)).1 ⟨limit, price⟩
  have number : hexNumber (behindMark "0x5208") * hexNumber (behindMark "0x2") = 42000 := by
    decide
  rw [number] at product
  refine ⟨fields, tx, built, rfl, limit, price, product, ?_⟩
  rw [value {}]
  intro unread
  exact unread.2 rfl

/-- A limit and a value of no digits at all are part of a transaction. -/
theorem unusable_quantities_built :
    ∃ tx, build [("to", .text "0x35"), ("gas_limit", .text "0xzz"), ("gas_price", .text "0x1"),
        ("value", .text "0xzz")] = .ok tx ∧
      ¬ UsableQuantity tx.gasLimit ∧
      multiplyHex tx.gasLimit tx.gasPrice = .error (.unreadable ⟨"zz", .sixteen, .malformed⟩) ∧
      ({} : Converter).tokensOfHexUnits tx.value =
        .error (.unreadable ⟨"zz", .sixteen, .malformed⟩) := by
  refine ⟨⟨"", "0x1", "0xzz", "0x35", "0xzz", []⟩, rfl, ?_, rfl, rfl⟩
  have marked : MarkedQuantity "0xzz" := Or.inr ⟨['z', 'z'], rfl⟩
  rw [marked.usable_iff (by decide)]
  intro readable
  exact absurd (readable.2 'z' (by decide)) (by decide)

end TxData

end Transaction

end WalletKit
