import SliceAgent.Proofs.Digits
import SliceAgent.Sysfs
import Mathlib.Data.List.Forall2
import Mathlib.Data.Nat.Digits.Defs

/-!
# Numerals of attribute files

`IsNumeral` tells which runs of digits stand for which number, without a word on how they are read:
each character is a digit of the base, and the number is the one with those digits. Just these runs
are read (`natOfDigits?_eq_some_iff`), and each number has one in each base
(`IsNumeral.of_toDigits`).

A numeral may also have white space at its ends, underscores, digits of other scripts and a mark of
its base. In an attribute file all of these are refused before the numeral is read, so a sign and a
run of digits is what is left of it (`Sysfs.strictInt?_eq`).
-/

namespace SliceAgent

/-! ### Runs of digits -/

/-- A character is the digit of a value in a base; letters may have either case. -/
structure IsDigit (base : Nat) (c : Char) (d : Nat) : Prop where
  lt : d < base
  char : c = d.digitChar ∨ c = d.digitChar.toUpper

/-- A run of digits, the most significant one first, and the number that it stands for. -/
def IsNumeral (base : Nat) (cs : List Char) (n : Nat) : Prop :=
  cs ≠ [] ∧ ∃ ds, List.Forall₂ (IsDigit base) cs ds ∧ Nat.ofDigits base ds.reverse = n

theorem hexValue?_digitChar : ∀ d < 16,
    Text.hexValue? d.digitChar = some d ∧ Text.hexValue? d.digitChar.toUpper = some d := by
  decide +kernel

theorem isDigit_of_hexValue?_ascii : ∀ n < 128, ∀ d < 16, Text.hexValue? (.ofNat n) = some d →
    Char.ofNat n = d.digitChar ∨ Char.ofNat n = d.digitChar.toUpper := by
  decide +kernel

theorem lt_of_hexValue? {c : Char} {d : Nat} (h : Text.hexValue? c = some d) :
    c.toNat < 128 ∧ d < 16 := by
  simp only [Text.hexValue?, Char.le_def, UInt32.le_iff_toNat_le, Char.toNat_val] at h
  split at h
  · rename_i hc
    obtain rfl := Option.some.inj h
    simp at hc
    omega
  split at h
  · rename_i hc
    obtain rfl := Option.some.inj h
    simp at hc
    omega
  split at h
  · rename_i hc
    obtain rfl := Option.some.inj h
    simp at hc
    omega
  · cases h

theorem hexValue?_eq_some_iff {c : Char} {d : Nat} :
    Text.hexValue? c = some d ↔ IsDigit 16 c d := by
  constructor
  · intro h
    obtain ⟨hc, hd⟩ := lt_of_hexValue? h
    have hdigit := isDigit_of_hexValue?_ascii c.toNat hc d hd
    rw [Char.ofNat_toNat] at hdigit
    exact ⟨hd, hdigit h⟩
  · rintro ⟨hd, rfl | rfl⟩
    · exact (hexValue?_digitChar d hd).1
    · exact (hexValue?_digitChar d hd).2

variable {base : Nat}

theorem filter_hexValue?_eq_some_iff (hbase : base ≤ 16) {c : Char} {d : Nat} :
    (Text.hexValue? c).filter (· < base) = some d ↔ IsDigit base c d := by
  rw [Option.filter_eq_some_iff, hexValue?_eq_some_iff, decide_eq_true_eq]
  exact ⟨fun ⟨h, hd⟩ => ⟨hd, h.char⟩, fun h => ⟨⟨h.lt.trans_le hbase, h.char⟩, h.lt⟩⟩

theorem mapM_eq_some_iff {α β : Type} {f : α → Option β} {xs : List α} {ys : List β} :
    xs.mapM f = some ys ↔ List.Forall₂ (fun x y => f x = some y) xs ys := by
  induction xs generalizing ys with
  | nil => simp [eq_comm]
  | cons x rest ih =>
    rw [List.mapM_cons, List.forall₂_cons_left_iff]
    simp only [Option.bind_eq_bind, Option.bind_eq_some_iff, ih, Option.pure_def,
      Option.some.injEq]
    constructor
    · rintro ⟨y, hy, rest', hrest, rfl⟩
      exact ⟨y, rest', hy, hrest, rfl⟩
    · rintro ⟨y, rest', hy, hrest, rfl⟩
      exact ⟨y, hy, rest', hrest, rfl⟩

theorem natOfDigits_eq (base : Nat) (ds : List Nat) :
    natOfDigits base ds = Nat.ofDigits base ds.reverse := by
  induction ds using List.reverseRecOn with
  | nil => rfl
  | append_singleton ds d ih =>
    rw [natOfDigits_append_singleton, ih, List.reverse_append, List.reverse_singleton,
      List.singleton_append, Nat.ofDigits_cons]
    exact (Nat.add_comm _ _).trans (congrArg (d + ·) (Nat.mul_comm _ _))

/-- **Runs of digits.** Just the runs of digits of a base are read, each as the number that it
stands for. -/
theorem natOfDigits?_eq_some_iff (hbase : base ≤ 16) {cs : List Char} {n : Nat} :
    natOfDigits? base cs = some n ↔ IsNumeral base cs n := by
  have hmap (ds : List Nat) : (cs.mapM fun c => (Text.hexValue? c).filter (· < base)) = some ds ↔
      List.Forall₂ (IsDigit base) cs ds := by
    rw [mapM_eq_some_iff]
    simp only [filter_hexValue?_eq_some_iff hbase]
  rw [natOfDigits?, natOfRun?]
  constructor
  · intro h
    split at h
    · rename_i d ds hds
      have hdigits := (hmap (d :: ds)).mp hds
      obtain rfl := Option.some.inj h
      refine ⟨?_, d :: ds, hdigits, (natOfDigits_eq base _).symm⟩
      rintro rfl
      cases hdigits
    · cases h
  · rintro ⟨hne, ds, hdigits, rfl⟩
    rw [(hmap ds).mpr hdigits, ← natOfDigits_eq]
    cases hdigits with
    | nil => exact absurd rfl hne
    | cons => rfl

/-! ### Written numerals -/

namespace IsNumeral

theorem single {c : Char} {d : Nat} (h : IsDigit base c d) : IsNumeral base [c] d :=
  ⟨by simp, [d], .cons h .nil, by simp⟩

theorem concat {cs : List Char} {c : Char} {n d : Nat} (h : IsNumeral base cs n)
    (hc : IsDigit base c d) : IsNumeral base (cs ++ [c]) (n * base + d) := by
  obtain ⟨-, ds, hdigits, rfl⟩ := h
  refine ⟨by simp, ds ++ [d], List.rel_append hdigits (.cons hc .nil), ?_⟩
  rw [← natOfDigits_eq, ← natOfDigits_eq, natOfDigits_append_singleton]

theorem cons_zero {cs : List Char} {n : Nat} (hbase : 0 < base) (h : IsNumeral base cs n) :
    IsNumeral base ('0' :: cs) n := by
  obtain ⟨-, ds, hdigits, rfl⟩ := h
  refine ⟨by simp, 0 :: ds, .cons ⟨hbase, .inl rfl⟩ hdigits, ?_⟩
  simp [Nat.ofDigits_append]

/-- A number is written in each base, with any number of zeros before it. -/
theorem of_toDigits (hone : 1 < base) (zeros n : Nat) :
    IsNumeral base (List.replicate zeros '0' ++ Nat.toDigits base n) n := by
  induction zeros with
  | zero =>
    induction n using Nat.strongRecOn with
    | ind n ih =>
      by_cases hn : n < base
      · rw [Nat.toDigits_of_lt_base hn]
        exact single ⟨hn, .inl rfl⟩
      · have hdiv : n / base < n := Nat.div_lt_self (by omega) hone
        rw [Nat.toDigits_of_base_le hone (Nat.le_of_not_lt hn), ← List.append_assoc]
        conv => arg 3; rw [← Nat.div_add_mod' n base]
        exact (ih _ hdiv).concat ⟨Nat.mod_lt n (by omega), .inl rfl⟩
  | succ zeros ih =>
    rw [List.replicate_succ, List.cons_append]
    exact ih.cons_zero (by omega)

theorem isDigit_of_mem {cs : List Char} {n : Nat} (h : IsNumeral base cs n) :
    ∀ c ∈ cs, ∃ d, IsDigit base c d := by
  obtain ⟨-, ds, hdigits, -⟩ := h
  induction hdigits with
  | nil => simp
  | cons hc _ ih =>
    simp only [List.forall_mem_cons]
    exact ⟨⟨_, hc⟩, ih⟩

end IsNumeral

theorem not_isDigit {c : Char} (h : Text.hexValue? c = none) (hbase : base ≤ 16) (d : Nat) :
    ¬IsDigit base c d := by
  intro hc
  have hsome := hexValue?_eq_some_iff.mpr ⟨hc.lt.trans_le hbase, hc.char⟩
  rw [h] at hsome
  cases hsome

/-- What begins with a sign is no run of digits. -/
theorem not_isNumeral_of_sign (hbase : base ≤ 16) {ds : List Char}
    (h : ds.head? = some '+' ∨ ds.head? = some '-') (n : Nat) : ¬IsNumeral base ds n := by
  intro hrun
  obtain ⟨c, rest, rfl⟩ := List.exists_cons_of_ne_nil hrun.1
  obtain ⟨d, hc⟩ := hrun.isDigit_of_mem c List.mem_cons_self
  simp only [List.head?_cons, Option.some.injEq] at h
  rcases h with rfl | rfl
  · exact not_isDigit (by decide) hbase d hc
  · exact not_isDigit (by decide) hbase d hc

/-! ### Signs -/

section Sign

variable {cs : List Char} {c : Char}

theorem takeSign_of_head? (h : ¬(cs.head? = some '+' ∨ cs.head? = some '-')) :
    takeSign cs = (false, cs) := by
  unfold takeSign
  split
  · simp at h
  · simp at h
  · rfl

theorem mem_of_mem_takeSign (h : c ∈ (takeSign cs).2) : c ∈ cs := by
  unfold takeSign at h
  split at h
  · exact List.mem_cons_of_mem _ h
  · exact List.mem_cons_of_mem _ h
  · exact h

theorem eq_or_mem_takeSign (h : c ∈ cs) : c = '+' ∨ c = '-' ∨ c ∈ (takeSign cs).2 := by
  unfold takeSign
  split
  · exact .inr (List.mem_cons.mp h)
  · exact (List.mem_cons.mp h).imp_right .inr
  · exact .inr (.inr h)

end Sign

/-! ### What numerals may have -/

theorem natOfRun?_congr {f g : Char → Option Nat} {cs : List Char} (h : ∀ c ∈ cs, f c = g c) :
    natOfRun? base f cs = natOfRun? base g cs := by
  have hmap : cs.mapM f = cs.mapM g := by
    induction cs with
    | nil => rfl
    | cons c rest ih =>
      rw [List.forall_mem_cons] at h
      rw [List.mapM_cons, List.mapM_cons, h.1, ih h.2]
  rw [natOfRun?, natOfRun?, hmap]

namespace Numeral

theorem digitValue?_or_hexValue?_ascii : ∀ n < 128,
    (Text.digitValue? (.ofNat n)).or (Text.hexValue? (.ofNat n)) = Text.hexValue? (.ofNat n) := by
  decide +kernel

theorem eq_zero_of_digitValue?_ascii : ∀ n < 128, Text.digitValue? (.ofNat n) = some 0 →
    Char.ofNat n = '0' := by
  decide +kernel

/-- The digits of other scripts are not in ASCII. -/
theorem digit?_of_ascii {c : Char} (h : c.toNat < 128) :
    digit? base c = (Text.hexValue? c).filter (· < base) := by
  have hor := digitValue?_or_hexValue?_ascii c.toNat h
  rw [Char.ofNat_toNat] at hor
  rw [digit?, hor]

theorem takeMark_of_ne {cs : List Char} (hascii : ∀ c ∈ cs, c.toNat < 128)
    (h : (cs.take 2).map Char.toLower ≠ ['0', 'x']) : takeMark cs = (false, cs) := by
  unfold takeMark
  split
  · rename_i zero mark r
    refine if_neg fun ⟨hzero, hmark⟩ => h ?_
    have hdigit := eq_zero_of_digitValue?_ascii zero.toNat (hascii zero (by simp))
    rw [Char.ofNat_toNat] at hdigit
    rw [hdigit hzero]
    rcases hmark with rfl | rfl <;> rfl
  · rfl

/-- In a text of ASCII characters without white space at its ends, underscores and a mark, a numeral
has its sign and its digits only. -/
theorem int?_eq {cs : List Char} (hends : Text.dropEnds Text.isSpace cs = cs)
    (hascii : ∀ c ∈ cs, c.toNat < 128) (hline : '_' ∉ cs)
    (hmark : base = 16 → takeMark (takeSign cs).2 = (false, (takeSign cs).2)) :
    int? base cs =
      if base = 10 ∧ digitLimit < (takeSign cs).2.length then none
      else (natOfDigits? base (takeSign cs).2).map (signed (takeSign cs).1) := by
  have hbody : (if base = 16 then takeMark (takeSign cs).2 else (false, (takeSign cs).2)) =
      (false, (takeSign cs).2) := by
    split
    · rename_i h
      exact hmark h
    · rfl
  have hrun : natOfRun? base (digit? base) (takeSign cs).2 = natOfDigits? base (takeSign cs).2 :=
    natOfRun?_congr fun c hc => digit?_of_ascii (hascii c (mem_of_mem_takeSign hc))
  rw [int?, hends]
  dsimp only
  rw [hbody, dropUnderscores?_of_not_mem _ fun h => hline (mem_of_mem_takeSign h),
    Option.bind_some, hrun]

end Numeral

theorem dropEnds_eq_self_iff {p : Char → Bool} {cs : List Char} :
    Text.dropEnds p cs = cs ↔ cs.dropWhile p = cs ∧ cs.rdropWhile p = cs := by
  constructor
  · intro h
    -- What is left lies within what is left of it at the one end.
    have hprefix : Text.dropEnds p cs <+: cs.dropWhile p := List.rdropWhile_prefix p _
    have hdrop : cs.dropWhile p = cs :=
      (List.dropWhile_suffix p).eq_of_length_le (h ▸ hprefix).length_le
    exact ⟨hdrop, by rwa [Text.dropEnds, hdrop] at h⟩
  · rintro ⟨hfront, hback⟩
    rw [Text.dropEnds, hfront]
    exact hback

theorem dropEnds_isSpace_of_isBlank {cs : List Char} (h : Text.dropEnds Text.isBlank cs = cs) :
    Text.dropEnds Text.isSpace cs = cs := by
  have hblank {c : Char} (hc : ¬Text.isBlank c = true) : ¬Text.isSpace c = true := fun hspace =>
    hc (by rw [Text.isBlank, hspace, Bool.true_or])
  rw [dropEnds_eq_self_iff, List.dropWhile_eq_self_iff, List.rdropWhile_eq_self_iff] at h ⊢
  exact ⟨fun hpos => hblank (h.1 hpos), fun hne => hblank (h.2 hne)⟩

/-! ### Strict numerals -/

namespace Sysfs

/-- A character that is not refused anywhere in a numeral. -/
def IsStrict (c : Char) : Prop :=
  c.toNat < 128 ∧ c ≠ '_' ∧ c.toLower ≠ 'x' ∧ Text.isBlank c = false

instance (c : Char) : Decidable (IsStrict c) :=
  inferInstanceAs (Decidable (_ ∧ _))

theorem isStrict_digitChar : ∀ d < 16, IsStrict d.digitChar ∧ IsStrict d.digitChar.toUpper := by
  decide +kernel

theorem isStrict_of_isNumeral (hbase : base ≤ 16) {cs : List Char} {n : Nat}
    (h : IsNumeral base cs n) : ∀ c ∈ cs, IsStrict c := by
  intro c hc
  obtain ⟨d, hlt, rfl | rfl⟩ := h.isDigit_of_mem c hc
  · exact (isStrict_digitChar d (hlt.trans_le hbase)).1
  · exact (isStrict_digitChar d (hlt.trans_le hbase)).2

theorem not_isBlank_of_isNumeral (hbase : base ≤ 16) {cs : List Char} {n : Nat}
    (h : IsNumeral base cs n) : ∀ c ∈ cs, Text.isBlank c = false :=
  fun c hc => (isStrict_of_isNumeral hbase h c hc).2.2.2

theorem isStrict_of_takeSign (hbase : base ≤ 16) {cs : List Char} {n : Nat}
    (h : IsNumeral base (takeSign cs).2 n) : ∀ c ∈ cs, IsStrict c := by
  intro c hc
  rcases eq_or_mem_takeSign hc with rfl | rfl | hmem
  · decide
  · decide
  · exact isStrict_of_isNumeral hbase h c hmem

/-- **The strict reader.** Behind what is refused, the reader of numerals reads a sign and a run of
ASCII digits, and it is refused nothing of that kind. In base 16 this holds of texts without a sign;
behind one, a mark is not refused. -/
theorem strictInt?_eq {cs : List Char}
    (hbase : base = 10 ∨ base = 16 ∧ takeSign cs = (false, cs)) :
    strictInt? base cs =
      if base = 10 ∧ digitLimit < (takeSign cs).2.length then none
      else (natOfDigits? base (takeSign cs).2).map (signed (takeSign cs).1) := by
  have hle : base ≤ 16 := by omega
  -- A character that is refused is neither a sign nor a digit.
  have hnone (h : ¬(cs ≠ [] ∧ ∀ c ∈ cs, IsStrict c)) :
      natOfDigits? base (takeSign cs).2 = none := by
    rw [Option.eq_none_iff_forall_ne_some]
    intro n hn
    rw [natOfDigits?_eq_some_iff hle] at hn
    refine h ⟨?_, isStrict_of_takeSign hle hn⟩
    rintro rfl
    exact hn.1 rfl
  rw [strictInt?]
  split
  · rename_i hrefused
    rw [hnone, Option.map_none, ite_self]
    rintro ⟨hne, hstrict⟩
    rcases hrefused with rfl | hascii | hline | hends
    · exact hne rfl
    · obtain ⟨c, hc, hlarge⟩ := List.any_eq_true.mp hascii
      exact absurd (hstrict c hc).1 (Nat.not_lt_of_le (of_decide_eq_true hlarge))
    · exact (hstrict _ hline).2.1 rfl
    · exact hends (dropEnds_eq_self fun c hc => (hstrict c hc).2.2.2).symm
  · rename_i hpassed
    simp only [not_or, List.any_eq_true, decide_eq_true_eq, not_exists, not_and, Nat.not_le,
      not_not] at hpassed
    obtain ⟨-, hascii, hline, hends⟩ := hpassed
    split
    · rename_i hmarked
      rw [hnone, Option.map_none, ite_self]
      rintro ⟨-, hstrict⟩
      have hmark : 'x' ∈ (cs.take 2).map Char.toLower := by simp [hmarked.2]
      obtain ⟨c, hc, hlower⟩ := List.mem_map.mp hmark
      exact (hstrict c (List.mem_of_mem_take hc)).2.2.1 hlower
    · rename_i hmarked
      refine Numeral.int?_eq (dropEnds_isSpace_of_isBlank hends.symm) hascii hline fun h => ?_
      have hplain : takeSign cs = (false, cs) := by simpa [h] using hbase
      rw [hplain]
      exact Numeral.takeMark_of_ne hascii fun htake => hmarked ⟨h, htake⟩

/-- Blanks, underscores, digits of other scripts and marks are all right in numerals, and refused in
strict ones. -/
example :
    ([(10, " +1_0\n"), (10, "\u0661"), (16, "0x_fF")] : List (Nat × String)).all (fun (base, s) =>
      (Numeral.int? base s.toList).isSome && (strictInt? base s.toList).isNone) = true := by
  decide +kernel

theorem strictInt?_eq_some_iff {cs : List Char} {v : Int}
    (hbase : base = 10 ∨ base = 16 ∧ takeSign cs = (false, cs)) :
    strictInt? base cs = some v ↔ ∃ n, IsNumeral base (takeSign cs).2 n ∧
      (base = 10 → (takeSign cs).2.length ≤ digitLimit) ∧ signed (takeSign cs).1 n = v := by
  have hle : base ≤ 16 := by omega
  rw [strictInt?_eq hbase]
  split
  · rename_i hlong
    refine iff_of_false (by simp) ?_
    rintro ⟨n, -, hshort, -⟩
    exact absurd (hshort hlong.1) (Nat.not_le_of_lt hlong.2)
  · rename_i hshort
    have hshort' : base = 10 → (takeSign cs).2.length ≤ digitLimit := fun h =>
      Nat.le_of_not_lt fun hlong => hshort ⟨h, hlong⟩
    simp only [Option.map_eq_some_iff, natOfDigits?_eq_some_iff hle]
    exact exists_congr fun n => and_congr_right fun _ => (and_iff_right hshort').symm

end Sysfs

end SliceAgent
