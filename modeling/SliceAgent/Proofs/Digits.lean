import SliceAgent.Quantity
import Mathlib.Data.List.DropRight
import Mathlib.Algebra.Order.Ring.Nat

/-!
# Decimal digits

The decimal text of a whole number is a numeral of that number, which is read without a loss as
long as the text is not longer than texts may be (`numberOfText?_toString`).

Rounding to some number of digits changes a number exactly if it has more digits than that when
the zeros at its end are left out. Those are its `significantDigits`, and `significantDigits_le_iff`
says it by a power of ten: of the digits beyond a number of places, all are zeros.
-/

namespace SliceAgent

/-! ### Significant digits -/

/-- The number of decimal digits of a number without the zeros at its end. -/
def significantDigits (n : Nat) : Nat :=
  ((Nat.toDigits 10 n).rdropWhile (· == '0')).length

theorem digitCount_le_iff {n k : Nat} (hk : 0 < k) :
    Decimal.digitCount n ≤ k ↔ n < 10 ^ k :=
  Nat.length_toDigits_le_iff (by decide) hk

theorem withinDigitLimit_iff {n : Int} :
    withinDigitLimit n = true ↔ n.natAbs < 10 ^ digitLimit := by
  unfold withinDigitLimit
  generalize digitLimit = k
  exact decide_eq_true_iff

theorem significantDigits_le_digitCount (n : Nat) : significantDigits n ≤ Decimal.digitCount n :=
  (List.rdropWhile_prefix _ _).length_le

theorem digitChar_beq_zero : ∀ d < 10, (d.digitChar == '0') = decide (d = 0) := by
  decide

/-- The last digit of a number of several digits. -/
theorem digitCount_of_ten_le {n : Nat} (h : 10 ≤ n) :
    Decimal.digitCount n = Decimal.digitCount (n / 10) + 1 := by
  rw [Decimal.digitCount, Nat.toDigits_of_base_le (by decide) h, List.length_append]
  rfl

/-- A zero at the end does not count, and before another digit all count. -/
theorem significantDigits_of_ten_le {n : Nat} (h : 10 ≤ n) :
    significantDigits n =
      if n % 10 = 0 then significantDigits (n / 10) else Decimal.digitCount n := by
  rw [significantDigits, Nat.toDigits_of_base_le (by decide) h, List.rdropWhile_concat,
    digitChar_beq_zero _ (Nat.mod_lt n (by decide))]
  simp only [decide_eq_true_eq]
  split
  · rfl
  · rw [digitCount_of_ten_le h, List.length_append]
    rfl

/-- A number has at most `m` significant digits exactly if all of its digits but the first `m` are
zeros. -/
theorem significantDigits_le_iff {n m : Nat} (hn : 0 < n) (hm : 0 < m) :
    significantDigits n ≤ m ↔ 10 ^ (Decimal.digitCount n - m) ∣ n := by
  induction n using Nat.strongRecOn with
  | ind n ih =>
    by_cases hten : 10 ≤ n
    · have hcount := digitCount_of_ten_le hten
      have hrest := significantDigits_le_digitCount (n / 10)
      by_cases hlen : Decimal.digitCount n ≤ m
      · have hle := significantDigits_le_digitCount n
        simp only [Nat.sub_eq_zero_of_le hlen, pow_zero, one_dvd, iff_true]
        omega
      · -- The last digit is beyond the first `m`.
        have hexp : Decimal.digitCount n - m = Decimal.digitCount (n / 10) - m + 1 := by omega
        rw [significantDigits_of_ten_le hten, hexp, pow_succ]
        split
        · rename_i hmod
          have hdiv : n / 10 * 10 = n := by omega
          rw [ih (n / 10) (by omega) (by omega), ← Nat.mul_dvd_mul_iff_right (Nat.succ_pos 9), hdiv]
        · rename_i hmod
          refine iff_of_false hlen fun hdvd => hmod ?_
          exact Nat.mod_eq_zero_of_dvd ((Nat.dvd_mul_left 10 _).trans hdvd)
    · have hcount : Decimal.digitCount n ≤ 1 := (digitCount_le_iff Nat.one_pos).mpr (by omega)
      have hle := significantDigits_le_digitCount n
      have hzero : Decimal.digitCount n - m = 0 := by omega
      simp only [hzero, pow_zero, one_dvd, iff_true]
      omega

/-- A power of ten and all numbers below it have no more significant digits than its exponent. -/
theorem significantDigits_le_of_le {n k : Nat} (hn : 0 < n) (hk : 0 < k) (h : n ≤ 10 ^ k) :
    significantDigits n ≤ k := by
  rcases h.lt_or_eq with hlt | rfl
  · exact (significantDigits_le_digitCount n).trans ((digitCount_le_iff hk).mpr hlt)
  · have hcount : Decimal.digitCount (10 ^ k) ≤ k + 1 :=
      (digitCount_le_iff (Nat.succ_pos k)).mpr
        (Nat.pow_lt_pow_right (by decide) (Nat.lt_succ_self k))
    rw [significantDigits_le_iff hn hk]
    exact pow_dvd_pow 10 (by omega)

/-! ### Rounding -/

/-- Rounding to a multiple keeps a number exactly if it is one. -/
theorem divHalfEven_mul_eq_iff {n d : Nat} (hd : 0 < d) : divHalfEven n d * d = n ↔ d ∣ n := by
  refine ⟨fun h => h ▸ Nat.dvd_mul_left d _, fun h => ?_⟩
  have hmod : n % d = 0 := Nat.mod_eq_zero_of_dvd h
  simp only [divHalfEven, hmod, Nat.mul_zero, if_pos hd]
  exact Nat.div_mul_cancel h

theorem divHalfEven_le (n d : Nat) : divHalfEven n d ≤ n + 1 := by
  have hdiv := Nat.div_le_self n d
  unfold divHalfEven
  dsimp only
  split
  · omega
  · split <;> omega

/-! ### Numerals of whole numbers -/

theorem digitValue?_of_isDigit {c : Char} (h : c.isDigit = true) :
    Text.digitValue? c = some (c.toNat - 48) := by
  have hrange : 48 ≤ c.toNat ∧ c.toNat ≤ 57 := by
    simpa [Char.isDigit, UInt32.le_iff_toNat_le] using h
  rw [Text.digitValue?, Text.digitZeros, List.find?_cons_of_pos]
  · rfl
  · simp only [Bool.and_eq_true, decide_eq_true_eq]
    omega

theorem isBlank_of_isDigit {c : Char} (h : c.isDigit = true) : Text.isBlank c = false := by
  have hrange : 48 ≤ c.toNat ∧ c.toNat ≤ 57 := by
    simpa [Char.isDigit, UInt32.le_iff_toNat_le] using h
  simp only [Text.isBlank, Text.isSpace, Bool.or_eq_false_iff, Bool.and_eq_false_iff,
    decide_eq_false_iff_not, beq_eq_false_iff_ne]
  omega

/-- Characters without the property are left at both ends. -/
theorem dropEnds_eq_self {p : Char → Bool} {cs : List Char} (h : ∀ c ∈ cs, p c = false) :
    Text.dropEnds p cs = cs := by
  have hdrop (cs : List Char) (hcs : ∀ c ∈ cs, p c = false) : cs.dropWhile p = cs :=
    List.dropWhile_eq_self_iff.mpr fun hpos => by simp [hcs _ (List.getElem_mem hpos)]
  rw [Text.dropEnds, hdrop _ h, hdrop _ fun c hc => h c (List.mem_reverse.mp hc),
    List.reverse_reverse]

theorem Numeral.dropUnderscores?_of_not_mem {isDigit : Char → Bool} {cs : List Char}
    (afterDigit : Bool) (h : '_' ∉ cs) :
    dropUnderscores? isDigit afterDigit cs = some cs := by
  induction cs generalizing afterDigit with
  | nil => rfl
  | cons c rest ih =>
    obtain ⟨hc, hrest⟩ : '_' ≠ c ∧ '_' ∉ rest := by simpa using h
    rw [dropUnderscores?, ih _ hrest]
    · rfl
    · intro _ _ hc' _
      exact hc hc'.symm
    · intro hc' _
      exact hc hc'.symm

/-- The value of a run of ASCII digits, whether digits of other scripts are known or not. -/
theorem natOfDigits_filterMap {ds : List Char} (h : ∀ c ∈ ds, c.isDigit = true) :
    natOfDigits 10 (ds.filterMap Text.digitValue?) = Nat.ofDigitChars 10 ds 0 := by
  rw [natOfDigits, Nat.ofDigitChars]
  generalize 0 = start
  induction ds generalizing start with
  | nil => rfl
  | cons c rest ih =>
    rw [List.filterMap_cons_some (digitValue?_of_isDigit (h c (by simp))), List.foldl_cons,
      List.foldl_cons, Nat.mul_comm]
    exact ih (fun d hd => h d (List.mem_cons_of_mem _ hd)) _

/-- A run of ASCII digits is a numeral with no places behind the point. -/
theorem ofChars?_of_takeSign {cs ds : List Char} {negative : Bool}
    (hsign : takeSign cs = (negative, ds)) (hne : ds ≠ []) (h : ∀ c ∈ ds, c.isDigit = true) :
    Decimal.ofChars? Text.digitValue? cs =
      some ⟨negative, Nat.ofDigitChars 10 ds 0, 0⟩ := by
  have hsome : ∀ c ∈ ds, (Text.digitValue? c).isSome = true := fun c hc => by
    rw [digitValue?_of_isDigit (h c hc)]
    rfl
  have htake : ds.takeWhile (fun c => (Text.digitValue? c).isSome) = ds :=
    List.takeWhile_eq_self_iff.mpr hsome
  have hdrop : ds.dropWhile (fun c => (Text.digitValue? c).isSome) = [] :=
    List.dropWhile_eq_nil_iff.mpr hsome
  have hdigits : (ds.filterMap Text.digitValue?).isEmpty = false := by
    obtain ⟨c, rest, rfl⟩ := List.exists_cons_of_ne_nil hne
    rw [List.filterMap_cons_some (digitValue?_of_isDigit (h c (by simp)))]
    rfl
  simp [Decimal.ofChars?, hsign, htake, hdrop, hdigits, Decimal.exponentOfChars?,
    natOfDigits_filterMap h]

/-- The decimal text of a whole number: its sign and its digits. -/
theorem toList_toString_int (n : Int) :
    (toString n).toList = (if n < 0 then ['-'] else []) ++ Nat.toDigits 10 n.natAbs := by
  rw [Int.toString_eq_repr, Int.repr_eq_if]
  by_cases hn : n < 0
  · rw [if_neg (by omega), if_pos hn, String.toList_append, Nat.toList_repr,
      show (-n).toNat = n.natAbs by omega]
    rfl
  · rw [if_pos (by omega), if_neg hn, Nat.toList_repr, show n.toNat = n.natAbs by omega]
    rfl

theorem isDigit_of_mem_toDigits {n : Nat} {c : Char} (h : c ∈ Nat.toDigits 10 n) :
    c.isDigit = true :=
  Nat.isDigit_of_mem_toDigits (by decide) (by decide) h

/-- A character of the decimal text of a whole number is a digit, or the sign. -/
theorem isDigit_or_eq_of_mem_toString {n : Int} {c : Char} (h : c ∈ (toString n).toList) :
    c.isDigit = true ∨ c = '-' := by
  rw [toList_toString_int, List.mem_append] at h
  rcases h with hsign | hdigit
  · split at hsign
    · exact .inr (List.mem_singleton.mp hsign)
    · cases hsign
  · exact .inl (isDigit_of_mem_toDigits hdigit)

theorem takeSign_toString (n : Int) :
    takeSign (toString n).toList = (decide (n < 0), Nat.toDigits 10 n.natAbs) := by
  rw [toList_toString_int]
  by_cases hn : n < 0
  · simp [hn, takeSign]
  · -- The first digit is no sign.
    obtain ⟨d, rest, hds⟩ :=
      List.exists_cons_of_ne_nil (Nat.toDigits_ne_nil (n := n.natAbs) (b := 10))
    have hd : d.isDigit = true := isDigit_of_mem_toDigits (hds ▸ List.mem_cons_self)
    rw [if_neg hn, List.nil_append, hds, takeSign]
    · simp [hn]
    · intro r hr
      cases hr
      exact absurd hd (by decide)
    · intro r hr
      cases hr
      exact absurd hd (by decide)

theorem signed_natAbs (n : Int) : signed (decide (n < 0)) n.natAbs = n := by
  by_cases hn : n < 0
  · simp only [signed, hn, decide_true, if_true]
    omega
  · simp only [signed, hn, decide_false, Bool.false_eq_true, if_false]
    omega

/-- Whole numbers have different decimal texts. -/
theorem toString_int_injective {m n : Int} (h : toString m = toString n) : m = n := by
  have hsign := congrArg (fun s : String => takeSign s.toList) h
  simp only [takeSign_toString, Prod.mk.injEq] at hsign
  obtain ⟨hneg, hdigits⟩ := hsign
  have habs : m.natAbs = n.natAbs := by
    rw [← Nat.ofDigitChars_ten_toDigits (n := m.natAbs), hdigits, Nat.ofDigitChars_ten_toDigits]
  rw [← signed_natAbs m, ← signed_natAbs n, hneg, habs]

/-- **Reading decimal text.** The decimal text of a whole number is read as that number, if it is
not too long to be written. -/
theorem numberOfText?_toString {n : Int} (h : n.natAbs < 10 ^ digitLimit) :
    Quantity.numberOfText? (toString n) =
      some (.finite ⟨decide (n < 0), n.natAbs, 0⟩) := by
  have hplain : ∀ c ∈ (toString n).toList, Text.isBlank c = false ∧ c ≠ '_' := fun c hc => by
    rcases isDigit_or_eq_of_mem_toString hc with hdigit | rfl
    · exact ⟨isBlank_of_isDigit hdigit, by rintro rfl; cases hdigit⟩
    · exact ⟨by decide, by decide⟩
  have hends : Text.dropEnds Text.isBlank (toString n).toList = (toString n).toList :=
    dropEnds_eq_self fun c hc => (hplain c hc).1
  have hfilter : (toString n).toList.filter (· != '_') = (toString n).toList :=
    List.filter_eq_self.mpr fun c hc => by simpa using (hplain c hc).2
  have hcount : Decimal.digitCount n.natAbs ≤ digitLimit :=
    (digitCount_le_iff (by decide)).mpr h
  have hholds : Quantity.holds ⟨decide (n < 0), n.natAbs, 0⟩ = true := by
    refine decide_eq_true ⟨(by decide : Quantity.numeralFloor ≤ 0), ?_⟩
    simp only [Decimal.adjustedExponent, Quantity.numeralLimit]
    simp only [digitLimit] at hcount
    omega
  rw [Quantity.numberOfText?, hends, hfilter,
    ofChars?_of_takeSign (takeSign_toString n) Nat.toDigits_ne_nil
      fun c hc => isDigit_of_mem_toDigits hc,
    Nat.ofDigitChars_ten_toDigits]
  simp only [hholds, if_true]

end SliceAgent
