import WalletKit.Proofs.Numeral.Canonical
import WalletKit.Transaction.Calldata

set_option autoImplicit false

namespace WalletKit.Transaction

open Numeral

theorem paddedHex_two (b : UInt8) :
    Text.paddedHex 2 b.toNat = [(b.toNat / 16).digitChar, (b.toNat % 16).digitChar] := by
  have bound := b.toNat_lt
  have half := Nat.toDigits_of_lt_base (b := 16) (n := b.toNat / 16) (by omega)
  rw [Text.paddedHex, Nat.toDigits_eq_if (by decide)]
  split
  · rename_i small
    rw [Nat.div_eq_of_lt small, Nat.mod_eq_of_lt small]
    rfl
  · rw [half]
    rfl

theorem byte?_eq_some_iff {high low : Char} {b : UInt8} :
    byte? high low = some b ↔ [high.toLower, low.toLower] = Text.paddedHex 2 b.toNat := by
  have bound := b.toNat_lt
  have radix : Base.sixteen.radix = 16 := rfl
  rw [paddedHex_two, byte?]
  constructor
  · intro found
    cases first : Base.sixteen.digit? high with
    | none => simp [first] at found
    | some h =>
        cases second : Base.sixteen.digit? low with
        | none => simp [first, second] at found
        | some l =>
            obtain ⟨smallHigh, lowerHigh⟩ := digit?_eq_some_iff.mp first
            obtain ⟨smallLow, lowerLow⟩ := digit?_eq_some_iff.mp second
            rw [first, second] at found
            have number : b.toNat = 16 * h + l := by
              rw [← Option.some.inj found, UInt8.toNat_ofNat']
              omega
            rw [lowerHigh, lowerLow, number, show (16 * h + l) / 16 = h by omega,
              show (16 * h + l) % 16 = l by omega]
  · intro written
    obtain ⟨lowerHigh, lowerLow⟩ : high.toLower = (b.toNat / 16).digitChar ∧
        low.toLower = (b.toNat % 16).digitChar := by simpa using written
    have first : Base.sixteen.digit? high = some (b.toNat / 16) :=
      digit?_eq_some_iff.mpr ⟨by omega, lowerHigh⟩
    have second : Base.sixteen.digit? low = some (b.toNat % 16) :=
      digit?_eq_some_iff.mpr ⟨by omega, lowerLow⟩
    rw [first, second]
    dsimp only
    rw [Nat.div_add_mod, UInt8.ofNat_toNat]

theorem exists_byte? {high low : Char} (first : IsHexDigit high) (second : IsHexDigit low) :
    ∃ b, byte? high low = some b := by
  rw [byte?, digit?_eq, digit?_eq, if_pos first, if_pos second]
  exact ⟨_, rfl⟩

theorem toList_hexOfBytes_cons (b : UInt8) (bytes : List UInt8) :
    (hexOfBytes (b :: bytes)).toList =
      Text.paddedHex 2 b.toNat ++ (hexOfBytes bytes).toList := by
  simp only [hexOfBytes, String.toList_ofList, List.flatMap_cons]

theorem toList_hexOfBytes_append (front back : List UInt8) :
    (hexOfBytes (front ++ back)).toList =
      (hexOfBytes front).toList ++ (hexOfBytes back).toList := by
  simp only [hexOfBytes, String.toList_ofList, List.flatMap_append]

theorem length_hexOfBytes (bytes : List UInt8) :
    (hexOfBytes bytes).toList.length = 2 * bytes.length := by
  induction bytes with
  | nil => rfl
  | cons b bytes ih =>
      rw [toList_hexOfBytes_cons, List.length_append, length_paddedHex (by decide) b.toNat_lt, ih,
        List.length_cons]
      omega

theorem mem_hexAlphabet_of_mem_hexOfBytes {bytes : List UInt8} {c : Char}
    (inside : c ∈ (hexOfBytes bytes).toList) : c ∈ hexAlphabet := by
  rw [hexOfBytes, String.toList_ofList, List.mem_flatMap] at inside
  obtain ⟨b, -, half⟩ := inside
  exact mem_hexAlphabet_of_mem_paddedHex half

/-- Hexadecimal digits in pairs, and nothing else. No digits at all will do. -/
structure DigitPairs (cs : List Char) : Prop where
  even : cs.length % 2 = 0
  digits : ∀ d ∈ cs, IsHexDigit d

theorem DigitPairs.append {u v : List Char} (first : DigitPairs u) (second : DigitPairs v) :
    DigitPairs (u ++ v) := by
  constructor
  · have front := first.even
    have back := second.even
    rw [List.length_append]
    omega
  · exact List.forall_mem_append.mpr ⟨first.digits, second.digits⟩

theorem digitPairs_of_written {cs : List Char} {bytes : List UInt8}
    (written : cs.map Char.toLower = (hexOfBytes bytes).toList) : DigitPairs cs := by
  constructor
  · have length := congrArg List.length written
    rw [List.length_map, length_hexOfBytes] at length
    omega
  · intro d inside
    have lower := List.mem_map_of_mem (f := Char.toLower) inside
    rw [written] at lower
    exact mem_hexAlphabet_of_mem_hexOfBytes lower

/-- The first two digits write the first byte, and the others write the rest. -/
theorem cons_cons_eq_hexOfBytes_iff {high low : Char} {rest : List Char} {bytes : List UInt8} :
    high :: low :: rest = (hexOfBytes bytes).toList ↔
      ∃ b more, bytes = b :: more ∧ [high, low] = Text.paddedHex 2 b.toNat ∧
        rest = (hexOfBytes more).toList := by
  cases bytes with
  | nil => simp [hexOfBytes]
  | cons b more =>
      rw [toList_hexOfBytes_cons]
      simp [paddedHex_two, and_assoc]

/-- Behind the bytes already found stand the ones whose digits follow. -/
theorem bytes?_eq_some_iff {done : List UInt8} {cs : List Char} {bytes : List UInt8} :
    bytes? done cs = some bytes ↔
      ∃ more, bytes = done.reverse ++ more ∧ cs.map Char.toLower = (hexOfBytes more).toList := by
  fun_induction bytes? done cs with
  | case1 done =>
      constructor
      · intro found
        exact ⟨[], by rw [List.append_nil, Option.some.inj found], rfl⟩
      · rintro ⟨more, rfl, nothing⟩
        have length := length_hexOfBytes more
        rw [← nothing, List.map_nil, List.length_nil] at length
        rw [List.length_eq_zero_iff.mp (by omega : more.length = 0), List.append_nil]
  | case2 done c =>
      refine iff_of_false nofun ?_
      rintro ⟨more, -, single⟩
      have length := length_hexOfBytes more
      rw [← single, List.map_singleton, List.length_singleton] at length
      omega
  | case3 done high low rest b found ih =>
      -- The byte of the two digits joins those done, and the induction is about what follows it.
      simp only [ih, List.map_cons, cons_cons_eq_hexOfBytes_iff, ← byte?_eq_some_iff, found,
        Option.some.injEq, List.reverse_cons, List.append_assoc, List.singleton_append]
      constructor
      · rintro ⟨more, same, written⟩
        exact ⟨b :: more, same, b, more, rfl, rfl, written⟩
      · rintro ⟨-, same, b, more, rfl, rfl, written⟩
        exact ⟨more, same, written⟩
  | case4 done high low rest refused =>
      refine iff_of_false nofun ?_
      simp only [List.map_cons, cons_cons_eq_hexOfBytes_iff, ← byte?_eq_some_iff, refused]
      simp

theorem exists_bytes? (done : List UInt8) {cs : List Char} (pairs : DigitPairs cs) :
    ∃ bytes, bytes? done cs = some bytes := by
  obtain ⟨even, digits⟩ := pairs
  fun_induction bytes? done cs with
  | case1 done => exact ⟨_, rfl⟩
  | case2 done c => simp at even
  | case3 done high low rest b found ih =>
      simp only [List.length_cons] at even
      simp only [List.forall_mem_cons] at digits
      exact ih (by omega) digits.2.2
  | case4 done high low rest refused =>
      simp only [List.forall_mem_cons] at digits
      obtain ⟨b, found⟩ := exists_byte? digits.1 digits.2.1
      rw [refused] at found
      cases found

theorem calldata_eq_ok_iff {s : String} {bytes : List UInt8} :
    calldata s = .ok bytes ↔
      (behindMark s).map Char.toLower = (hexOfBytes bytes).toList := by
  have read : bytes? [] (behindMark s) = some bytes ↔
      (behindMark s).map Char.toLower = (hexOfBytes bytes).toList := by
    rw [bytes?_eq_some_iff]
    simp
  rw [calldata, toList_dropHexMark, ← read]
  by_cases odd : (behindMark s).length % 2 = 1
  · -- Bytes are written with an even number of digits, so none are lost to the check of the length.
    rw [if_pos odd, read]
    refine iff_of_false nofun fun written => ?_
    have even := (digitPairs_of_written written).even
    omega
  · rw [if_neg odd]
    cases bytes? [] (behindMark s) <;> simp

theorem exists_calldata_iff {s : String} :
    (∃ bytes, calldata s = .ok bytes) ↔ DigitPairs (behindMark s) := by
  constructor
  · rintro ⟨bytes, read⟩
    exact digitPairs_of_written (calldata_eq_ok_iff.mp read)
  · intro pairs
    obtain ⟨bytes, found⟩ := exists_bytes? [] pairs
    obtain ⟨more, -, written⟩ := bytes?_eq_some_iff.mp found
    exact ⟨more, calldata_eq_ok_iff.mpr written⟩

theorem exists_calldata_of_digitPairs {cs : List Char} (pairs : DigitPairs cs) :
    ∃ bytes, calldata (String.ofList cs) = .ok bytes ∧
      cs.map Char.toLower = (hexOfBytes bytes).toList := by
  have shape := behindMark_of_digits pairs.digits
  obtain ⟨bytes, read⟩ := exists_calldata_iff.mpr (shape ▸ pairs)
  have written := calldata_eq_ok_iff.mp read
  rw [shape] at written
  exact ⟨bytes, read, written⟩

/-- A text that writes no bytes is refused for its length, whatever it holds, and else as it is. -/
theorem calldata_of_not_digitPairs {s : String} (refused : ¬ DigitPairs (behindMark s)) :
    calldata s = .error ⟨s, .sixteen,
      if (behindMark s).length % 2 = 1 then .oddLength else .malformed⟩ := by
  rw [calldata, toList_dropHexMark]
  by_cases odd : (behindMark s).length % 2 = 1
  · rw [if_pos odd, if_pos odd]
  · rw [if_neg odd, if_neg odd]
    cases found : bytes? [] (behindMark s) with
    | none => rfl
    | some bytes =>
        obtain ⟨more, -, written⟩ := bytes?_eq_some_iff.mp found
        exact absurd (digitPairs_of_written written) refused

/-- The number whose digits in base 256 are the bytes, the leading one first. -/
def bigEndian (bytes : List UInt8) : ℕ := Nat.ofDigits 256 (bytes.map UInt8.toNat).reverse

theorem bigEndian_cons (b : UInt8) (bytes : List UInt8) :
    bigEndian (b :: bytes) = 256 ^ bytes.length * b.toNat + bigEndian bytes := by
  rw [bigEndian, bigEndian, List.map_cons, List.reverse_cons, Nat.ofDigits_append,
    Nat.ofDigits_singleton, List.length_reverse, List.length_map, Nat.add_comm]

theorem hexNumber_hexOfBytes (bytes : List UInt8) :
    hexNumber (hexOfBytes bytes).toList = bigEndian bytes := by
  induction bytes with
  | nil => rfl
  | cons b bytes ih =>
      have power : 16 ^ (2 * bytes.length) = 256 ^ bytes.length := by rw [Nat.pow_mul]
      rw [toList_hexOfBytes_cons, hexNumber_append, hexNumber_paddedHex, length_hexOfBytes, power,
        ih, bigEndian_cons]

/-- The digits of bytes, of which there is one, read as the number of the bytes. -/
theorem readHex_of_calldata {s : String} {bytes : List UInt8} (read : calldata s = .ok bytes)
    (nonempty : behindMark s ≠ []) : readHex (dropHexMark s) = .ok (bigEndian bytes) := by
  have written := calldata_eq_ok_iff.mp read
  have digits : ∀ c ∈ (hexOfBytes bytes).toList, IsHexDigit c := fun c inside =>
    isHexDigit_of_mem_hexAlphabet (mem_hexAlphabet_of_mem_hexOfBytes inside)
  have filled : (hexOfBytes bytes).toList ≠ [] := by
    rw [← written]
    exact List.map_eq_nil_iff.not.mpr nonempty
  rw [readHex_eq_ok_iff, toList_dropHexMark, ← read?_map_toLower, written,
    read?_sixteen filled digits, hexNumber_hexOfBytes]

/-- A text is read as bytes if and only if it holds pairs of digits behind at most one mark. The
bytes are those that its digits write, whatever their case, and keep the zeros in front; texts
written one behind the other write their bytes one behind the other, and all digits as one number
have the value of the bytes. Other texts are refused as they are, those of odd length for it. -/
theorem bytes_written_as_digit_pairs :
    (∀ (bytes : List UInt8) (digits : List Char),
      digits.map Char.toLower = (hexOfBytes bytes).toList →
        calldata (String.ofList digits) = .ok bytes ∧
          calldata (String.ofList ('0' :: 'x' :: digits)) = .ok bytes) ∧
    (∀ s bytes, calldata s = .ok bytes →
      (hexOfBytes bytes).toList = (behindMark s).map Char.toLower ∧
        2 * bytes.length = (behindMark s).length) ∧
    (∀ s, (∃ bytes, calldata s = .ok bytes) ↔ DigitPairs (behindMark s)) ∧
    (∀ s, ¬ DigitPairs (behindMark s) → ∃ cause, calldata s = .error cause ∧ cause.text = s ∧
      cause.base = .sixteen ∧ cause.reason.text =
        if (behindMark s).length % 2 = 1 then "odd number of hex digits" else "") ∧
    (∀ u v, DigitPairs u → DigitPairs v → ∃ front back,
      calldata (String.ofList u) = .ok front ∧ calldata (String.ofList v) = .ok back ∧
        calldata (String.ofList (u ++ v)) = .ok (front ++ back)) ∧
    ∀ s bytes, calldata s = .ok bytes → behindMark s ≠ [] →
      readHex (dropHexMark s) = .ok (bigEndian bytes) := by
  refine ⟨?_, ?_, fun s => exists_calldata_iff, ?_, ?_, fun s bytes => readHex_of_calldata⟩
  · intro bytes digits written
    have bare := behindMark_of_digits (digitPairs_of_written written).digits
    have marked : behindMark (String.ofList ('0' :: 'x' :: digits)) = digits :=
      behindMark_of_marked String.toList_ofList
    rw [calldata_eq_ok_iff, calldata_eq_ok_iff, bare, marked]
    exact ⟨written, written⟩
  · intro s bytes read
    have written := calldata_eq_ok_iff.mp read
    refine ⟨written.symm, ?_⟩
    rw [← length_hexOfBytes, ← written, List.length_map]
  · intro s refused
    rw [calldata_of_not_digitPairs refused]
    refine ⟨_, rfl, rfl, rfl, ?_⟩
    dsimp only
    split <;> rfl
  · intro u v first second
    obtain ⟨front, readFront, writtenFront⟩ := exists_calldata_of_digitPairs first
    obtain ⟨back, readBack, writtenBack⟩ := exists_calldata_of_digitPairs second
    refine ⟨front, back, readFront, readBack, ?_⟩
    rw [calldata_eq_ok_iff, behindMark_of_digits (first.append second).digits, List.map_append,
      writtenFront, writtenBack, toList_hexOfBytes_append]

/-- A zero byte in front is kept, the case of a letter and the mark make no difference, and a blank
is refused although the length is even. -/
theorem bytes_written_as_digit_pairs_of_zero_byte :
    calldata (String.ofList ['0', '0', 'a', 'F']) = .ok [0, 0xaf] ∧
      calldata (String.ofList ['0', 'x', '0', '0', 'a', 'F']) = .ok [0, 0xaf] ∧
      2 * [0, (0xaf : UInt8)].length = (behindMark "0x00aF").length ∧
      readHex (dropHexMark "0x00aF") = .ok (bigEndian [0, 0xaf]) ∧
      (∃ cause, calldata "0x 1" = .error cause ∧ cause.text = "0x 1" ∧ cause.reason.text = "") ∧
      ∃ front back, calldata (String.ofList ['0', '0']) = .ok front ∧
        calldata (String.ofList ['f', 'F']) = .ok back ∧
        calldata (String.ofList ['0', '0', 'f', 'F']) = .ok (front ++ back) := by
  obtain ⟨reads, written, -, refuses, joins, number⟩ := bytes_written_as_digit_pairs
  obtain ⟨bare, marked⟩ := reads [0, 0xaf] ['0', '0', 'a', 'F'] (by decide)
  have read : calldata "0x00aF" = .ok [0, 0xaf] := marked
  have blank : ¬ DigitPairs (behindMark "0x 1") := by
    intro pairs
    exact absurd (pairs.digits ' ' (by decide)) (by decide)
  have zeros : DigitPairs ['0', '0'] := ⟨by decide, List.all_iff_forall_prop.mp (by decide)⟩
  have letters : DigitPairs ['f', 'F'] := ⟨by decide, List.all_iff_forall_prop.mp (by decide)⟩
  obtain ⟨cause, refused, text, -, reason⟩ := refuses "0x 1" blank
  exact ⟨bare, marked, (written _ _ read).2, number _ _ read (by decide),
    ⟨cause, refused, text, reason⟩, joins _ _ zeros letters⟩

end WalletKit.Transaction
