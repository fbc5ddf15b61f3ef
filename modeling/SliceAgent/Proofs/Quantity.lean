import SliceAgent.Slice.Manifest
import SliceAgent.Proofs.Digits
import SliceAgent.Proofs.Scan

/-!
# Texts of quantities

The text of a quantity in the binary family is the number that is left when the largest of its
powers of 1024 is divided out, with the suffix of that power. Reading it back multiplies again, and
a product is rounded to `precision` significant digits. So a quantity comes back changed exactly if
it is written with a suffix and has more significant digits than that (`capacity_survives_iff`);
the memory of a device never has.

`readQuantity_text` tells what comes back of any quantity: the value itself if there is no suffix,
and else the value `rounded`. What the text denotes (`Quantity.Denotes`) is the value in any case.

A whole number can be written with several suffixes, one for each power of 1024 that divides it. A
quantity is written with the largest of the seven, and zero, which every power divides, without one.
`pow_dvd_iff_le_powersOf1024` carries this: as far as the powers are counted, those that divide a
number are those up to their count. So each number has one text, and different numbers have
different texts (`text_is_canonical`).
-/

namespace SliceAgent

namespace Quantity

/-! ### Powers of 1024 -/

theorem powersOf1024_le (bound : Nat) (v : Int) : powersOf1024 bound v ≤ bound := by
  induction bound generalizing v with
  | zero => exact Nat.le_refl 0
  | succ bound ih =>
    rw [powersOf1024]
    split
    · exact Nat.succ_le_succ (ih _)
    · exact Nat.zero_le _

/-- The powers of 1024 that divide a number are those up to their count. -/
theorem pow_dvd_iff_le_powersOf1024 {bound j : Nat} {v : Int} (hj : j ≤ bound) :
    (1024 : Int) ^ j ∣ v ↔ j ≤ powersOf1024 bound v := by
  induction bound generalizing j v with
  | zero =>
    obtain rfl : j = 0 := by omega
    simp
  | succ bound ih =>
    cases j with
    | zero => simp
    | succ j =>
      rw [powersOf1024]
      split
      · rename_i hmod
        have hv : v / 1024 * 1024 = v := Int.ediv_mul_cancel (Int.dvd_of_emod_eq_zero hmod)
        calc (1024 : Int) ^ (j + 1) ∣ v
          _ ↔ (1024 : Int) ^ j * 1024 ∣ v / 1024 * 1024 := by rw [pow_succ, hv]
          _ ↔ (1024 : Int) ^ j ∣ v / 1024 := Int.mul_dvd_mul_iff_right (by decide)
          _ ↔ j ≤ powersOf1024 bound (v / 1024) := ih (by omega)
          _ ↔ j + 1 ≤ powersOf1024 bound (v / 1024) + 1 := by omega
      · rename_i hmod
        refine iff_of_false (fun hdvd => hmod ?_) (by omega)
        exact Int.emod_eq_zero_of_dvd ((Dvd.intro_left _ (pow_succ ..).symm).trans hdvd)

theorem pow_powersOf1024_dvd (bound : Nat) (v : Int) :
    (1024 : Int) ^ powersOf1024 bound v ∣ v :=
  (pow_dvd_iff_le_powersOf1024 (powersOf1024_le bound v)).mpr le_rfl

theorem binaryExponent_eq_zero_iff {v : Int} :
    binaryExponent v = 0 ↔ v = 0 ∨ ¬(1024 : Int) ∣ v := by
  rw [binaryExponent]
  by_cases hv : v = 0
  · simp [hv]
  · simp only [hv, if_false, false_or, powersOf1024, Int.dvd_iff_emod_eq_zero]
    split <;> simp_all

theorem exponent_le (q : Quantity) : q.exponent ≤ 6 := by
  unfold exponent binaryExponent
  split
  · split
    · exact Nat.zero_le _
    · exact powersOf1024_le 6 _
  · exact Nat.zero_le _

theorem pow_exponent_dvd (q : Quantity) : (1024 : Int) ^ q.exponent ∣ q.value := by
  unfold exponent binaryExponent
  split
  · split
    · simp
    · exact pow_powersOf1024_dvd 6 _
  · simp

/-- The number before the suffix, times what the suffix stands for, is the value. -/
theorem number_mul (q : Quantity) : q.number * (1024 : Int) ^ q.exponent = q.value := by
  have hcast : ((Nat.pow 1024 q.exponent : Nat) : Int) = (1024 : Int) ^ q.exponent :=
    Int.natCast_pow 1024 q.exponent
  rw [number, hcast]
  exact Int.ediv_mul_cancel q.pow_exponent_dvd

theorem natAbs_number_mul (q : Quantity) :
    q.number.natAbs * Nat.pow 1024 q.exponent = q.value.natAbs := by
  rw [← q.number_mul, Int.natAbs_mul, Int.natAbs_pow]
  rfl

theorem natAbs_number_le (q : Quantity) : q.number.natAbs ≤ q.value.natAbs := by
  rw [← q.natAbs_number_mul]
  exact Nat.le_mul_of_pos_right _ (Nat.pow_pos (by decide))

theorem number_neg_iff (q : Quantity) : q.number < 0 ↔ q.value < 0 := by
  have hpos : (0 : Int) < 1024 ^ q.exponent := Int.pow_pos (by decide)
  rw [← Int.not_le, ← Int.not_le, ← q.number_mul, Int.mul_nonneg_iff_of_pos_right hpos]

/-- A quantity that is short enough to be written as it is can be written. -/
theorem isWritable_of_lt {q : Quantity} (h : q.value.natAbs < 10 ^ digitLimit) :
    q.isWritable = true :=
  withinDigitLimit_iff.mpr (q.natAbs_number_le.trans_lt h)

/-! ### The suffix in the text -/

/-- A suffix of the binary family is the letter of its power and an `i`. -/
theorem exists_letter {k : Nat} (hpos : 0 < k) (hle : k ≤ 6) :
    ∃ letter, (binarySuffixes.getD k "").toList = [letter, 'i'] ∧
      suffixPower? letter = some (k : Int) ∧ letter ≠ 'k' := by
  match k, hpos, hle with
  | 1, _, _ => exact ⟨'K', by decide⟩
  | 2, _, _ => exact ⟨'M', by decide⟩
  | 3, _, _ => exact ⟨'G', by decide⟩
  | 4, _, _ => exact ⟨'T', by decide⟩
  | 5, _, _ => exact ⟨'P', by decide⟩
  | 6, _, _ => exact ⟨'E', by decide⟩

theorem suffixPower?_of_isDigit {c : Char} (h : c.isDigit = true) : suffixPower? c = none := by
  unfold suffixPower?
  split <;> first | rfl | exact absurd h (by decide)

/-- The decimal text of a whole number has no suffix. -/
theorem splitSuffix_toString (n : Int) : splitSuffix (toString n) = (toString n, none) := by
  have hne : (toString n).toList ≠ [] := by
    rw [toList_toString_int]
    simp [Nat.toDigits_ne_nil]
  obtain ⟨rest, c, hchars⟩ : ∃ rest c, (toString n).toList = rest ++ [c] :=
    ⟨_, _, (List.dropLast_append_getLast hne).symm⟩
  have hdigit : c.isDigit = true := by
    have hlast : (Nat.toDigits 10 n.natAbs).getLast? = some c := by
      rw [← List.getLast?_append_of_ne_nil (if n < 0 then ['-'] else []) Nat.toDigits_ne_nil,
        ← toList_toString_int, hchars, List.getLast?_concat]
    exact isDigit_of_mem_toDigits (List.mem_of_getLast? hlast)
  have hpower := suffixPower?_of_isDigit hdigit
  rw [splitSuffix, hchars, List.reverse_concat]
  split
  · rename_i hcons
    obtain ⟨rfl, -⟩ := List.cons.inj hcons
    exact absurd hdigit (by decide)
  · rename_i hcons
    obtain ⟨rfl, -⟩ := List.cons.inj hcons
    rw [hpower]
  · rfl

/-- A text that ends in a letter for a power and an `i` has the suffix of the two. -/
theorem splitSuffix_append {s suffix : String} {letter : Char} {power : Int}
    (hsuffix : suffix.toList = [letter, 'i']) (hpower : suffixPower? letter = some power) :
    splitSuffix (s ++ suffix) = (s, some ⟨letter, power, true⟩) := by
  have hchars : (s ++ suffix).toList.reverse = 'i' :: letter :: s.toList.reverse := by
    rw [String.toList_append, hsuffix]
    simp
  rw [splitSuffix, hchars]
  simp [hpower]

/-! ### Rounding a product -/

/-- A whole number rounded to the significant digits of a product. -/
def rounded (v : Int) : Int :=
  let extra := Decimal.digitCount v.natAbs - precision
  signed (decide (v < 0)) (divHalfEven v.natAbs (10 ^ extra) * 10 ^ extra)

/-- Rounding changes a number exactly if it has more significant digits than a product. -/
theorem rounded_eq_iff {v : Int} (hv : v ≠ 0) :
    rounded v = v ↔ significantDigits v.natAbs ≤ precision := by
  have hsigned : ∀ n : Nat, signed (decide (v < 0)) n = v ↔ n = v.natAbs := by
    intro n
    by_cases hneg : v < 0 <;> simp [signed, hneg] <;> omega
  rw [rounded, hsigned, divHalfEven_mul_eq_iff (Nat.pow_pos (by decide)),
    significantDigits_le_iff (Int.natAbs_pos.mpr hv) (by decide)]

theorem truncate_of_exponent_nonneg (negative : Bool) (n e : Nat) :
    Decimal.truncate ⟨negative, n, e⟩ = signed negative (n * 10 ^ e) := by
  rw [Decimal.truncate]
  by_cases hn : n = 0
  · simp [hn]
  · simp [hn]

/-- A product that has no places behind the point, rounded. -/
theorem roundDigits_eq (negative : Bool) (n : Nat) :
    let extra := Decimal.digitCount n - precision
    roundDigits ⟨negative, n, 0⟩ = ⟨negative, divHalfEven n (10 ^ extra), extra⟩ := by
  intro extra
  rw [roundDigits]
  by_cases hextra : extra = 0
  · have hone := (divHalfEven_mul_eq_iff (n := n) Nat.one_pos).mpr (Nat.one_dvd n)
    rw [Nat.mul_one] at hone
    have hcount : Decimal.digitCount n - precision = 0 := hextra
    simp [hcount, hextra, hone]
  · have hcount : ¬Decimal.digitCount n - precision = 0 := hextra
    simp only [hcount, if_false, Nat.pow_eq, Int.zero_add]
    rfl

/-- The exponent of a rounded product is bounded by the number of digits. -/
theorem adjustedExponent_roundDigits_le {n k : Nat} (negative : Bool) (hk : 0 < k)
    (h : n < 10 ^ k) : (roundDigits ⟨negative, n, 0⟩).adjustedExponent ≤ 2 * k := by
  have hcount : Decimal.digitCount n ≤ k := (digitCount_le_iff hk).mpr h
  have hrounded : Decimal.digitCount (divHalfEven n (10 ^ (Decimal.digitCount n - precision))) ≤
      k + 1 := by
    refine (digitCount_le_iff (Nat.succ_pos k)).mpr ?_
    calc divHalfEven n (10 ^ (Decimal.digitCount n - precision))
      _ ≤ n + 1 := divHalfEven_le n _
      _ ≤ 10 ^ k := h
      _ < 10 ^ (k + 1) := Nat.pow_lt_pow_succ (by decide)
  rw [roundDigits_eq, Decimal.adjustedExponent]
  dsimp only
  omega

/-! ### Reading the text back -/

variable {q : Quantity}

theorem text_of_exponent_eq_zero (h : q.exponent = 0) : q.text = toString q.value := by
  have hnumber := q.number_mul
  rw [h, pow_zero, mul_one] at hnumber
  rw [text, h, hnumber]
  exact String.append_empty

/-- The text of a quantity with a suffix, as it is read before it is truncated. -/
theorem numberOfQuantity_text_of_pos (h : q.value.natAbs < 10 ^ digitLimit)
    (hpos : 0 < q.exponent) :
    numberOfQuantity q.text =
      .ok (.finite (roundDigits ⟨decide (q.value < 0), q.value.natAbs, 0⟩)) := by
  obtain ⟨letter, hsuffix, hpower, hletter⟩ := exists_letter hpos q.exponent_le
  have hsplit : splitSuffix q.text = (toString q.number, some ⟨letter, q.exponent, true⟩) :=
    splitSuffix_append hsuffix hpower
  have hnumber := numberOfText?_toString (q.natAbs_number_le.trans_lt h)
  have hknown : Suffix.isKnown ⟨letter, q.exponent, true⟩ = true := by
    simp [Suffix.isKnown, hpos, hletter]
  have hscale : scale ⟨decide (q.number < 0), q.number.natAbs, 0⟩ ⟨letter, q.exponent, true⟩ =
      roundDigits ⟨decide (q.value < 0), q.value.natAbs, 0⟩ := by
    simp only [scale, if_true, Int.toNat_natCast, q.natAbs_number_mul, q.number_neg_iff]
  have hlimit : (roundDigits ⟨decide (q.value < 0), q.value.natAbs, 0⟩).adjustedExponent ≤
      productLimit :=
    (adjustedExponent_roundDigits_le _ (by decide) h).trans (by decide)
  rw [numberOfQuantity, hsplit]
  simp only [hnumber, hknown, Bool.not_true, Bool.false_eq_true, if_false, hscale]
  rw [if_neg fun hout => absurd hout.2 (by omega)]

/-- **Reading a quantity back.** The text of a quantity without a suffix is read as its value, and
one with a suffix as its value rounded. -/
theorem readQuantity_text (h : q.value.natAbs < 10 ^ digitLimit) :
    readQuantity (.text q.text) = .ok (if q.exponent = 0 then q.value else rounded q.value) := by
  change (numberOfQuantity q.text).bind Number.truncate = _
  by_cases hexp : q.exponent = 0
  · rw [if_pos hexp, text_of_exponent_eq_zero hexp, numberOfQuantity, splitSuffix_toString]
    simp only [numberOfText?_toString h]
    change Except.ok (Decimal.truncate ⟨_, _, (0 : Nat)⟩) = _
    rw [truncate_of_exponent_nonneg, pow_zero, mul_one, signed_natAbs]
  · rw [if_neg hexp, numberOfQuantity_text_of_pos h (Nat.pos_of_ne_zero hexp), roundDigits_eq]
    exact congrArg Except.ok (truncate_of_exponent_nonneg _ _ _)

/-- What is read back of a quantity of the binary family is its value exactly if it has no suffix or
not too many significant digits. -/
theorem readBack_eq_iff (hformat : q.format = .binary) :
    (if q.exponent = 0 then q.value else rounded q.value) = q.value ↔
      q.value = 0 ∨ ¬(1024 : Int) ∣ q.value ∨ significantDigits q.value.natAbs ≤ precision := by
  have hexp : q.exponent = 0 ↔ q.value = 0 ∨ ¬(1024 : Int) ∣ q.value := by
    rw [exponent, hformat]
    exact binaryExponent_eq_zero_iff
  rw [← or_assoc, ← hexp]
  by_cases h : q.exponent = 0
  · simp [h]
  · have hvalue : q.value ≠ 0 := fun hv => h (hexp.mpr (.inl hv))
    simp only [h, if_false, false_or]
    exact rounded_eq_iff hvalue

/-- What a capacity in a manifest is read as. -/
theorem readCapacity_text (h : q.value.natAbs < 10 ^ digitLimit) :
    Manifest.readCapacity (.obj [("value", .text q.text)]) =
      .ok { value := if q.exponent = 0 then q.value else rounded q.value } := by
  have hrequired (v : Json) : Manifest.required "value" (.obj [("value", v)]) = .ok v := by
    simp [Manifest.required, Json.field?]
  simp only [Manifest.readCapacity, hrequired, Except.bind, readQuantity_text h, Except.mapError,
    Except.map]

/-- A quantity of the binary family is read back unchanged if it is no larger than a power of ten
with as many zeros as a product has digits. -/
theorem readCapacity_text_of_le (hformat : q.format = .binary)
    (h : q.value.natAbs ≤ 10 ^ precision) :
    Manifest.readCapacity (.obj [("value", .text q.text)]) = .ok q := by
  have hlimit : q.value.natAbs < 10 ^ digitLimit :=
    h.trans_lt (Nat.pow_lt_pow_right (by decide) (by decide))
  have hvalue : q.value = 0 ∨ ¬(1024 : Int) ∣ q.value ∨
      significantDigits q.value.natAbs ≤ precision := by
    by_cases hzero : q.value = 0
    · exact .inl hzero
    · exact .inr (.inr (significantDigits_le_of_le (Int.natAbs_pos.mpr hzero) (by decide) h))
  rw [readCapacity_text hlimit, (readBack_eq_iff hformat).mpr hvalue, ← hformat]

/-! ### What a text denotes -/

/-- A text denotes a whole number: it is the decimal text of a number with a suffix of the binary
family, and the two are multiplied. -/
def Denotes (text : String) (v : Int) : Prop :=
  ∃ (m : Int) (k : Nat), k ≤ 6 ∧ text = toString m ++ binarySuffixes.getD k "" ∧ v = m * 1024 ^ k

/-- The text of a quantity denotes its value. -/
theorem denotes_text (q : Quantity) : Denotes q.text q.value :=
  ⟨q.number, q.exponent, q.exponent_le, rfl, q.number_mul.symm⟩

theorem splitSuffix_suffixed (m : Int) {k : Nat} (hk : k ≤ 6) :
    ∃ suffix?, splitSuffix (toString m ++ binarySuffixes.getD k "") = (toString m, suffix?) ∧
      suffix?.elim 0 (·.power) = (k : Int) := by
  rcases Nat.eq_zero_or_pos k with rfl | hpos
  · refine ⟨none, ?_, rfl⟩
    rw [← splitSuffix_toString]
    exact congrArg splitSuffix String.append_empty
  · obtain ⟨letter, hsuffix, hpower, -⟩ := exists_letter hpos hk
    exact ⟨_, splitSuffix_append hsuffix hpower, rfl⟩

/-- No text denotes two numbers. -/
theorem Denotes.unique {text : String} {v w : Int} (hv : Denotes text v) (hw : Denotes text w) :
    v = w := by
  obtain ⟨m, k, hk, rfl, rfl⟩ := hv
  obtain ⟨m', k', hk', heq, rfl⟩ := hw
  obtain ⟨suffix?, hsplit, hpower⟩ := splitSuffix_suffixed m hk
  obtain ⟨suffix?', hsplit', hpower'⟩ := splitSuffix_suffixed m' hk'
  rw [heq, hsplit', Prod.mk.injEq] at hsplit
  obtain ⟨htext, rfl⟩ := hsplit
  obtain rfl : k' = k := Int.ofNat.inj (hpower'.symm.trans hpower)
  rw [toString_int_injective htext]

end Quantity

open Quantity in
/-- **What survives as a capacity.** A whole number within the digit limit is written as a quantity
of the binary family and read back as some number. That is the same number exactly if it is zero, or
no multiple of 1024, or has at most 28 significant digits; so it is for all numbers up to the power
of ten with 28 zeros, and for the memory of every device that a scan finds. -/
theorem capacity_survives_iff :
    (∀ v : Int, v.natAbs < 10 ^ digitLimit →
      let q : Quantity := { value := v }
      q.isWritable = true ∧
        ∃ w, Manifest.readCapacity (.obj [("value", .text q.text)]) = .ok { value := w } ∧
          (w = v ↔ v = 0 ∨ ¬(1024 : Int) ∣ v ∨ significantDigits v.natAbs ≤ 28) ∧
          (v.natAbs ≤ 10 ^ 28 → w = v)) ∧
      ∀ (t : FileTree) (root : Path) (node : String) (devices : List (String × Device)),
        (ScanReport.ofOutcome root node (scanClass t root)).result = .devices devices →
        ∀ e ∈ devices,
          let q : Quantity := { value := e.2.memorySize }
          Manifest.readCapacity (.obj [("value", .text q.text)]) = .ok q := by
  constructor
  · intro v hv q
    refine ⟨isWritable_of_lt hv, _, readCapacity_text hv, readBack_eq_iff rfl, fun hle => ?_⟩
    have hq := readCapacity_text_of_le (q := q) rfl hle
    rw [readCapacity_text hv] at hq
    exact congrArg Quantity.value (Except.ok.inj hq)
  · intro t root node devices hscan e he q
    have hmax : (e.2.memorySize : Int) ≤ Sysfs.int64Max := memorySize_le_of_scanClass hscan he
    have hmemory : e.2.memorySize ≤ 10 ^ precision := by
      simp only [Sysfs.int64Max, precision] at hmax ⊢
      omega
    exact readCapacity_text_of_le rfl hmemory

/-- A power of two with 31 significant digits is lost, a larger number with four of them is not, and
neither is the memory of a device that a scan finds. -/
theorem capacity_survives_iff_of_powers :
    let lost : Quantity := { value := 2 ^ 100 }
    let kept : Quantity := { value := -(1024 * 10 ^ 40) }
    let t := (FileTree.empty ["w"]).applyAll
      [.file "class/a/uuid" "U".toUTF8.toList,
       .file "class/a/memory_size" "1048576".toUTF8.toList,
       .file "bus/0000:11:00.0/numa_node" "0".toUTF8.toList,
       .link "class/a/device" "../../bus/0000:11:00.0"]
    let d : Device := ⟨"a", "U", 1048576, 0, .primary, "0000:11:00.0", 0⟩
    let scan := ScanReport.ofOutcome (.ofText "class") "node-1" (scanClass t (.ofText "class"))
    (∃ w, Manifest.readCapacity (.obj [("value", .text lost.text)]) = .ok { value := w } ∧
        w ≠ 2 ^ 100) ∧
      Manifest.readCapacity (.obj [("value", .text kept.text)]) = .ok kept ∧
      scan.result = .devices [("a", d)] ∧
      Manifest.readCapacity (.obj [("value", .text (Quantity.text { value := d.memorySize }))]) =
        .ok { value := d.memorySize } := by
  intro lost kept t d scan
  have hlimit {k : Nat} {v : Int} (h : v.natAbs < 10 ^ k) (hk : k ≤ digitLimit) :
      v.natAbs < 10 ^ digitLimit :=
    h.trans_le (Nat.pow_le_pow_right (by decide) hk)
  have hscan : scan.result = .devices [("a", d)] := by
    have hclass : scanClass t (.ofText "class") =
        .scanned { findings := [("a", .device d true)] } := by decide +kernel
    simp only [scan]
    rw [hclass]
    rfl
  obtain ⟨hnumbers, hscans⟩ := capacity_survives_iff
  have hmemory := hscans t (.ofText "class") "node-1" [("a", d)] hscan ("a", d)
    (List.mem_singleton_self _)
  refine ⟨?_, ?_, hscan, hmemory⟩
  · obtain ⟨-, w, hread, hiff, -⟩ :=
      hnumbers (2 ^ 100) (hlimit (k := 31) (by decide) (by decide))
    exact ⟨w, hread, fun hw => absurd (hiff.mp hw) (by decide)⟩
  · obtain ⟨-, w, hread, hiff, -⟩ :=
      hnumbers (-(1024 * 10 ^ 40)) (hlimit (k := 44) (by decide) (by decide))
    rw [hread, hiff.mpr (by decide)]

/-! ### The text is canonical -/

namespace Quantity

/-- A whole number is another one with a suffix of the binary family: their product with the power
of 1024 at the place of the suffix. -/
structure IsSuffixed (v m : Int) (k : Nat) : Prop where
  le : k ≤ 6
  eq : v = m * 1024 ^ k

variable {q : Quantity}

theorem exponent_of_value_ne_zero (hformat : q.format = .binary) (hvalue : q.value ≠ 0) :
    q.exponent = powersOf1024 6 q.value := by
  rw [exponent, hformat]
  exact if_neg hvalue

/-- A suffix other than that of the text stands for less, and the same one leaves the same number
before it. -/
theorem IsSuffixed.lt_or_eq (hformat : q.format = .binary) (hvalue : q.value ≠ 0) {m : Int}
    {k : Nat} (h : IsSuffixed q.value m k) :
    k < q.exponent ∨ m = q.number ∧ k = q.exponent := by
  have hdvd : (1024 : Int) ^ k ∣ q.value := Dvd.intro_left m h.eq.symm
  have hle : k ≤ q.exponent := by
    rw [exponent_of_value_ne_zero hformat hvalue]
    exact (pow_dvd_iff_le_powersOf1024 h.le).mp hdvd
  rcases hle.lt_or_eq with hlt | rfl
  · exact .inl hlt
  · have hpow : (1024 : Int) ^ q.exponent ≠ 0 := (Int.pow_pos (by decide)).ne'
    refine .inr ⟨Int.eq_of_mul_eq_mul_right hpow ?_, rfl⟩
    rw [← h.eq, q.number_mul]

/-- Different numbers are never written as the same text. -/
theorem value_eq_of_text_eq {q q' : Quantity} (h : q.text = q'.text) : q.value = q'.value :=
  Denotes.unique q.denotes_text (h ▸ q'.denotes_text)

end Quantity

open Quantity in
/-- **The text of a quantity is canonical.** A whole number of at most 4300 digits can be written as
a quantity of the binary family. Zero is written as such, and another number with the largest of the
suffixes whose power of 1024 divides it: what stands before the suffix, times that power, is the
number, and all other ways to write it have a smaller suffix. No other number has the same text. -/
theorem text_is_canonical (v : Int) (h : Decimal.digitCount v.natAbs ≤ 4300) :
    let q : Quantity := { value := v }
    q.isWritable = true ∧
      (v = 0 → q.text = "0") ∧
      (v ≠ 0 → ∃ m k suffix,
        ["", "Ki", "Mi", "Gi", "Ti", "Pi", "Ei"][k]? = some suffix ∧
        q.text = toString m ++ suffix ∧ v = m * 1024 ^ k ∧
        (∀ j ≤ 6, (1024 : Int) ^ j ∣ v → j ≤ k) ∧
        ∀ m' k', IsSuffixed v m' k' → k' < k ∨ m' = m ∧ k' = k) ∧
      ∀ w : Int, Quantity.text { value := w } = q.text → w = v := by
  intro q
  refine ⟨?_, ?_, fun hv => ?_, fun w hw => value_eq_of_text_eq hw⟩
  · exact isWritable_of_lt ((digitCount_le_iff (by decide)).mp h)
  · rintro rfl
    decide
  · have hlt : q.exponent < binarySuffixes.length := Nat.lt_succ_of_le q.exponent_le
    refine ⟨q.number, q.exponent, binarySuffixes[q.exponent], List.getElem?_eq_getElem hlt, ?_,
      q.number_mul.symm, fun j hj hdvd => ?_, fun m' k' h' => h'.lt_or_eq rfl hv⟩
    · rw [text, List.getD_eq_getElem?_getD, List.getElem?_eq_getElem hlt, Option.getD_some]
    · rw [exponent_of_value_ne_zero rfl hv]
      exact (pow_dvd_iff_le_powersOf1024 hj).mp hdvd

/-- A negative number beyond the largest suffix, and the only one with its text. -/
theorem text_is_canonical_of_negative :
    let v : Int := -(3 * 1024 ^ 7)
    Decimal.digitCount v.natAbs ≤ 4300 ∧ Quantity.text { value := v } = "-3072Ei" ∧
      ∀ w : Int, Quantity.text { value := w } = "-3072Ei" → w = v := by
  intro v
  have hcount : Decimal.digitCount v.natAbs ≤ 4300 := by
    have hlt : v.natAbs < 10 ^ 22 := by decide
    exact ((digitCount_le_iff (by decide)).mpr hlt).trans (by decide)
  have htext : Quantity.text { value := v } = "-3072Ei" := by decide +kernel
  obtain ⟨-, -, -, hunique⟩ := text_is_canonical v hcount
  rw [htext] at hunique
  exact ⟨hcount, htext, hunique⟩

end SliceAgent
