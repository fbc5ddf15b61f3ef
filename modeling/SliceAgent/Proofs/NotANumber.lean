import SliceAgent.Proofs.Digits
import SliceAgent.CommandLine.Value

/-!
# Texts that stand for no number

A decimal number has a word nearest to it that stands for a number again, or for an infinity, so a
text is read as no number only by name: it is the word `nan` in letters of either case, with an
optional sign and between white space (`floatOfText?_isNaN_iff`). Underscores are dropped only in
front of digits, of which the word has none.
-/

namespace SliceAgent

namespace Binary64

/-- A word is no number if it has a fraction beyond the largest exponent. -/
theorem isNaN_eq_true_iff {x : Binary64} :
    x.isNaN = true ↔ x.bits.toNat / 0x10000000000000 % 0x800 = 2047 ∧
      x.bits.toNat % 0x10000000000000 ≠ 0 := by
  rw [isNaN, decide_eq_true_eq, decode]
  split
  · split <;> simp_all
  · split <;> simp_all

theorem isNaN_ofScaled (negative : Bool) (m : Nat) (e : Int) :
    (ofScaled negative m e).isNaN = false := by
  rw [← Bool.not_eq_true, isNaN_eq_true_iff, ofScaled]
  generalize (if m < 0x10000000000000 then m
    else (e + 1075).toNat * 0x10000000000000 + (m - 0x10000000000000)) = magnitude
  have hword : min magnitude 0x7ff0000000000000 ≤ 0x7ff0000000000000 := Nat.min_le_right _ _
  generalize min magnitude 0x7ff0000000000000 = word at hword
  rw [UInt64.toNat_ofNat']
  rintro ⟨hexp, hfraction⟩
  cases negative
  · simp only [Bool.false_eq_true, if_false] at hexp hfraction
    omega
  · simp only [if_true] at hexp hfraction
    omega

theorem isNaN_ofRatio (negative : Bool) (n d : Nat) : (ofRatio negative n d).isNaN = false := by
  rw [ofRatio]
  split
  · exact isNaN_ofScaled ..
  · exact isNaN_ofScaled ..

/-- A decimal number has a number nearest to it. -/
theorem isNaN_ofDecimal (d : Decimal) : (ofDecimal d).isNaN = false := by
  rw [ofDecimal]
  split
  · exact isNaN_ofScaled ..
  split
  · exact isNaN_ofScaled ..
  split
  · exact isNaN_ofRatio ..
  · exact isNaN_ofRatio ..

end Binary64

/-! ### Numerals without digits -/

namespace Numeral

variable {isDigit : Char → Bool} {cs ds : List Char}

/-- An underscore is dropped only in front of a digit, so none is if no digit is left. -/
theorem eq_of_dropUnderscores? {afterDigit : Bool}
    (h : dropUnderscores? isDigit afterDigit cs = some ds) (hds : ∀ c ∈ ds, isDigit c = false) :
    ds = cs := by
  fun_induction dropUnderscores? isDigit afterDigit cs generalizing ds with
  | case1 => exact (Option.some.inj h).symm
  | case2 afterDigit c rest hdigit ih =>
    obtain ⟨ds, -, rfl⟩ := Option.map_eq_some_iff.mp h
    have hc : isDigit c = false := hds c (by simp)
    simp [hc] at hdigit
  | case3 => cases h
  | case4 => cases h
  | case5 afterDigit c rest hpair hlast ih =>
    obtain ⟨ds, hrest, rfl⟩ := Option.map_eq_some_iff.mp h
    rw [ih hrest fun c hc => hds c (List.mem_cons_of_mem _ hc)]

end Numeral

/-! ### The word for no number -/

/-- The spellings of the word for no number, in letters of either case and with an optional sign. -/
def naNWords : List (List Char) :=
  [[], ['+'], ['-']].flatMap fun sign =>
    ['n', 'N'].flatMap fun c₁ => ['a', 'A'].flatMap fun c₂ => ['n', 'N'].map fun c₃ =>
      sign ++ [c₁, c₂, c₃]

/-- Characters are the word for no number. -/
def IsNaNWord (cs : List Char) : Prop :=
  cs ∈ naNWords

instance : DecidablePred IsNaNWord := fun cs => inferInstanceAs (Decidable (cs ∈ naNWords))

theorem eq_or_eq_of_toLower_eq {c small large : Char} (hcase : small.val = large.val + 32)
    (h : c.toLower = small) : c = small ∨ c = large := by
  unfold Char.toLower at h
  split at h
  · have hval : c.val + 32 = large.val + 32 := (congrArg Char.val h).trans hcase
    exact .inr (Char.ext (by grind))
  · exact .inl h

theorem exists_takeSign (cs : List Char) :
    ∃ sign ∈ [[], ['+'], ['-']], cs = sign ++ (takeSign cs).2 := by
  unfold takeSign
  split
  · exact ⟨['-'], by simp, rfl⟩
  · exact ⟨['+'], by simp, rfl⟩
  · exact ⟨[], by simp, rfl⟩

/-- The word is no numeral, and is read as no number. -/
theorem IsNaNWord.spec {cs : List Char} (h : IsNaNWord cs) :
    (∀ c ∈ cs, Text.digitValue? c = none ∧ c ≠ '_') ∧
      Decimal.ofChars? Text.digitValue? cs = none ∧
      SettingCheck.floatOfWord? cs = some .nan := by
  have hwords : ∀ cs ∈ naNWords,
      (cs.all fun c => Text.digitValue? c = none ∧ c ≠ '_') = true ∧
        Decimal.ofChars? Text.digitValue? cs = none ∧
        SettingCheck.floatOfWord? cs = some .nan := by
    decide +kernel
  obtain ⟨hchars, hread⟩ := hwords cs h
  exact ⟨fun c hc => of_decide_eq_true (List.all_eq_true.mp hchars c hc), hread⟩

/-- No other word is read as no number. -/
theorem isNaNWord_of_floatOfWord? {cs : List Char} {x : Binary64}
    (h : SettingCheck.floatOfWord? cs = some x) (hx : x.isNaN = true) : IsNaNWord cs := by
  have hword : (takeSign cs).2.map Char.toLower = ['n', 'a', 'n'] := by
    unfold SettingCheck.floatOfWord? at h
    dsimp only at h
    split at h
    · cases h
      split at hx <;> cases hx
    · cases h
      split at hx <;> cases hx
    · rename_i htext
      exact String.ofList_injective htext
    · cases h
  obtain ⟨c₁, rest₁, hrest, h₁, hrest₁⟩ := List.map_eq_cons_iff.mp hword
  obtain ⟨c₂, rest₂, rfl, h₂, hrest₂⟩ := List.map_eq_cons_iff.mp hrest₁
  obtain ⟨c₃, rest₃, rfl, h₃, hrest₃⟩ := List.map_eq_cons_iff.mp hrest₂
  obtain rfl := List.map_eq_nil_iff.mp hrest₃
  obtain ⟨sign, hsign, hcs⟩ := exists_takeSign cs
  rw [hrest] at hcs
  have hcase {c small large : Char} (hl : small.val = large.val + 32) (h : c.toLower = small) :
      c ∈ [small, large] := by
    simpa using eq_or_eq_of_toLower_eq hl h
  rw [IsNaNWord, naNWords]
  simp only [List.mem_flatMap, List.mem_map]
  exact ⟨sign, hsign, c₁, hcase (by decide) h₁, c₂, hcase (by decide) h₂, c₃,
    hcase (by decide) h₃, hcs.symm⟩

/-- **What is read as no number** is the word for it, between white space. -/
theorem floatOfText?_isNaN_iff {s : String} :
    (∃ x, CommandLine.floatOfText? s = some x ∧ x.isNaN = true) ↔
      IsNaNWord (Text.dropEnds Text.isSpace s.toList) := by
  constructor
  · rintro ⟨x, h, hx⟩
    obtain ⟨cs, hcs, hfloat⟩ := Option.bind_eq_some_iff.mp h
    have hword : IsNaNWord cs := by
      cases hnumeral : Decimal.ofChars? Text.digitValue? cs with
      | some d =>
        rw [hnumeral] at hfloat
        cases hfloat
        rw [Binary64.isNaN_ofDecimal] at hx
        cases hx
      | none =>
        rw [hnumeral] at hfloat
        exact isNaNWord_of_floatOfWord? hfloat hx
    have hsame : cs = Text.dropEnds Text.isSpace s.toList :=
      Numeral.eq_of_dropUnderscores? hcs fun c hc => by rw [(hword.spec.1 c hc).1]; rfl
    rwa [← hsame]
  · intro hword
    obtain ⟨hchars, hnumeral, hfloat⟩ := hword.spec
    have hcs : Numeral.chars? s.toList = some (Text.dropEnds Text.isSpace s.toList) :=
      Numeral.dropUnderscores?_of_not_mem _ fun hmem => (hchars _ hmem).2 rfl
    refine ⟨.nan, ?_, by decide⟩
    rw [CommandLine.floatOfText?, hcs]
    simp only [Option.bind_some, hnumeral, hfloat]

end SliceAgent
