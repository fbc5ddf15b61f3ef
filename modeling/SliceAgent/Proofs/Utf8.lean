import SliceAgent.Text.Encoding
import Mathlib.Tactic.IntervalCases

/-!
# Decoding undoes encoding

The octets of a text are those of its characters one after another, so it is enough to follow the
decoder through the octets of one character (`decodeFrom_utf8EncodeChar`). The first octet tells how
many are owed and bounds the next one, and each of the others brings six bits. The bounds hold since
a character is encoded in no more octets than it needs, and is no surrogate.
-/

namespace SliceAgent.Text.Utf8

theorem toNat_ofNat_of_lt {n : Nat} (h : n < 256) : (UInt8.ofNat n).toNat = n := by
  rw [UInt8.toNat_ofNat']
  omega

/-! ### First octets -/

theorem begin?_two {n : Nat} (hlow : 0xc2 ≤ n) (hhigh : n ≤ 0xdf) (position : Nat) :
    begin? position (.ofNat n) = some ⟨position, .ofNat n, 1, n - 0xc0, 0x80, 0xbf, 0⟩ := by
  interval_cases n <;> rfl

theorem begin?_three {n : Nat} (hlow : 0xe0 ≤ n) (hhigh : n ≤ 0xef) (position : Nat) :
    begin? position (.ofNat n) = some ⟨position, .ofNat n, 1, n - 0xe0,
      if n = 0xe0 then 0xa0 else 0x80, if n = 0xed then 0x9f else 0xbf, 1⟩ := by
  interval_cases n <;> rfl

theorem begin?_four {n : Nat} (hlow : 0xf0 ≤ n) (hhigh : n ≤ 0xf4) (position : Nat) :
    begin? position (.ofNat n) = some ⟨position, .ofNat n, 1, n - 0xf0,
      if n = 0xf0 then 0x90 else 0x80, if n = 0xf4 then 0x8f else 0xbf, 2⟩ := by
  interval_cases n <;> rfl

/-! ### One octet -/

variable {position n : Nat} {r : List UInt8}

theorem decodeFrom_ascii (h : n < 0x80) :
    decodeFrom position none (.ofNat n :: r) =
      (decodeFrom (position + 1) none r).map (Char.ofNat n :: ·) := by
  have hb : (UInt8.ofNat n).toNat = n := toNat_ofNat_of_lt (by omega)
  have hascii : UInt8.ofNat n < 0x80 := by rwa [UInt8.lt_iff_toNat_lt, hb]
  rw [decodeFrom_cons_ascii hascii, hb]

theorem decodeFrom_begin {p : Pending} (hlow : 0x80 ≤ n) (hhigh : n < 256)
    (h : begin? position (.ofNat n) = some p) :
    decodeFrom position none (.ofNat n :: r) = decodeFrom (position + 1) (some p) r := by
  have hascii : ¬UInt8.ofNat n < 0x80 := by
    rw [UInt8.lt_iff_toNat_lt, toNat_ofNat_of_lt hhigh]
    exact Nat.not_lt.mpr hlow
  simp only [decodeFrom, if_neg hascii, h]

section Continuation

variable {start seen value owed : Nat} {first low high : UInt8}

/-- The octet of six bits lies within bounds. -/
structure Continues (low high : UInt8) (n : Nat) : Prop where
  lt : n < 64
  low_le : low.toNat ≤ n + 128
  le_high : n + 128 ≤ high.toNat

/-- Any six bits go where no narrower bounds apply. -/
theorem Continues.of_lt (h : n < 64) : Continues 0x80 0xbf n where
  lt := h
  low_le := Nat.le_add_left 128 n
  le_high := by
    change n + 128 ≤ 191
    omega

theorem Continues.toNat_eq (h : Continues low high n) : (UInt8.ofNat (n + 128)).toNat = n + 128 :=
  toNat_ofNat_of_lt (by have := h.lt; omega)

theorem Continues.within (h : Continues low high n) :
    low ≤ .ofNat (n + 128) ∧ .ofNat (n + 128) ≤ high := by
  rw [UInt8.le_iff_toNat_le, UInt8.le_iff_toNat_le, h.toNat_eq]
  exact ⟨h.low_le, h.le_high⟩

theorem decodeFrom_last (h : Continues low high n) :
    decodeFrom position (some ⟨start, first, seen, value, low, high, 0⟩) (.ofNat (n + 128) :: r) =
      (decodeFrom (position + 1) none r).map (Char.ofNat (value * 64 + n) :: ·) := by
  have hbits : (UInt8.ofNat (n + 128)).toNat - 0x80 = n := by rw [h.toNat_eq, Nat.add_sub_cancel]
  simp only [decodeFrom, if_pos h.within, hbits]

theorem decodeFrom_next (h : Continues low high n) :
    decodeFrom position (some ⟨start, first, seen, value, low, high, owed + 1⟩)
        (.ofNat (n + 128) :: r) =
      decodeFrom (position + 1)
        (some ⟨start, first, seen + 1, value * 64 + n, 0x80, 0xbf, owed⟩) r := by
  have hbits : (UInt8.ofNat (n + 128)).toNat - 0x80 = n := by rw [h.toNat_eq, Nat.add_sub_cancel]
  simp only [decodeFrom, if_pos h.within, hbits]

end Continuation

/-! ### One character -/

/-- The octets of a character are decoded to it. -/
theorem decodeFrom_utf8EncodeChar (position : Nat) (c : Char) (r : List UInt8) :
    ∃ position', decodeFrom position none (String.utf8EncodeChar c ++ r) =
      (decodeFrom position' none r).map (c :: ·) := by
  have hvalid : c.val.toNat < 0xd800 ∨ 0xdfff < c.val.toNat ∧ c.val.toNat < 0x110000 := c.valid
  have hchar : Char.ofNat c.val.toNat = c := Char.ofNat_toNat c
  rw [String.utf8EncodeChar]
  generalize c.val.toNat = v at hvalid hchar
  rw [← hchar]
  have hlast : Continues 0x80 0xbf (v % 64) := .of_lt (Nat.mod_lt _ (by decide))
  have hmiddle : Continues 0x80 0xbf (v / 64 % 64) := .of_lt (Nat.mod_lt _ (by decide))
  split
  · exact ⟨_, decodeFrom_ascii (by omega)⟩
  split
  · have hstart := begin?_two (n := v / 64 % 32 + 192) (by omega) (by omega) position
    have hvalue : (v / 64 % 32 + 192 - 0xc0) * 64 + v % 64 = v := by omega
    refine ⟨position + 1 + 1, ?_⟩
    simp only [List.cons_append, List.nil_append]
    rw [decodeFrom_begin (by omega) (by omega) hstart, decodeFrom_last hlast, hvalue]
  split
  · have hstart := begin?_three (n := v / 4096 % 16 + 224) (by omega) (by omega) position
    have hsecond : Continues (if v / 4096 % 16 + 224 = 0xe0 then 0xa0 else 0x80)
        (if v / 4096 % 16 + 224 = 0xed then 0x9f else 0xbf) (v / 64 % 64) := by
      refine ⟨hmiddle.lt, ?_, ?_⟩
      · split
        · change 160 ≤ _
          omega
        · exact hmiddle.low_le
      · split
        · change _ ≤ 159
          omega
        · exact hmiddle.le_high
    have hvalue : ((v / 4096 % 16 + 224 - 0xe0) * 64 + v / 64 % 64) * 64 + v % 64 = v := by omega
    refine ⟨position + 1 + 1 + 1, ?_⟩
    simp only [List.cons_append, List.nil_append]
    rw [decodeFrom_begin (by omega) (by omega) hstart, decodeFrom_next hsecond,
      decodeFrom_last hlast, hvalue]
  · have hstart := begin?_four (n := v / 262144 % 8 + 240) (by omega) (by omega) position
    have hsecond : Continues (if v / 262144 % 8 + 240 = 0xf0 then 0x90 else 0x80)
        (if v / 262144 % 8 + 240 = 0xf4 then 0x8f else 0xbf) (v / 4096 % 64) := by
      refine ⟨Nat.mod_lt _ (by decide), ?_, ?_⟩
      · split
        · change 144 ≤ _
          omega
        · exact Nat.le_add_left 128 _
      · split
        · change _ ≤ 143
          omega
        · change _ ≤ 191
          omega
    have hvalue : (((v / 262144 % 8 + 240 - 0xf0) * 64 + v / 4096 % 64) * 64 + v / 64 % 64) * 64 +
        v % 64 = v := by omega
    refine ⟨position + 1 + 1 + 1 + 1, ?_⟩
    simp only [List.cons_append, List.nil_append]
    rw [decodeFrom_begin (by omega) (by omega) hstart, decodeFrom_next hsecond,
      decodeFrom_next hmiddle, decodeFrom_last hlast, hvalue]

/-! ### Texts -/

theorem toList_loop_eq (bs : ByteArray) (i : Nat) (r : List UInt8) :
    ByteArray.toList.loop bs i r = r.reverse ++ bs.data.toList.drop i := by
  fun_induction ByteArray.toList.loop bs i r with
  | case1 i r h ih =>
    have hi : i < bs.data.toList.length := by simpa using h
    rw [ih, List.reverse_cons, List.append_assoc, List.drop_eq_getElem_cons hi]
    simp [ByteArray.get!, getElem!_pos bs.data i h]
  | case2 i r h =>
    have hi : bs.data.toList.length ≤ i := by simpa using h
    rw [List.drop_eq_nil_of_le hi, List.append_nil]

theorem encode_eq (s : String) : encode s = s.toList.flatMap String.utf8EncodeChar := by
  have h : s.toUTF8 = s.toList.utf8Encode := by simp
  rw [encode, h, ByteArray.toList, toList_loop_eq, List.utf8Encode]
  simp

theorem decodeFrom_flatMap (position : Nat) (cs : List Char) :
    decodeFrom position none (cs.flatMap String.utf8EncodeChar) = .ok cs := by
  induction cs generalizing position with
  | nil => rfl
  | cons c rest ih =>
    obtain ⟨position', hc⟩ :=
      decodeFrom_utf8EncodeChar position c (rest.flatMap String.utf8EncodeChar)
    rw [List.flatMap_cons, hc, ih]
    rfl

/-- **Decoding undoes encoding.** -/
theorem decode_encode (s : String) : decode (encode s) = .ok s := by
  rw [decode, encode_eq, decodeFrom_flatMap]
  exact congrArg Except.ok String.ofList_toList

end SliceAgent.Text.Utf8
