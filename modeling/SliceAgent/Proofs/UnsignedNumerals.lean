import SliceAgent.Proofs.Numerals
import SliceAgent.Proofs.Findings
import SliceAgent.Proofs.Utf8

/-!
# Unsigned numerals of attribute files

An unsigned number is written in decimal digits that are not too many, or in hexadecimal ones behind
a mark (`Sysfs.IsUnsigned`). The marks are no digits, so no text is both, and no sign is a digit, so
the test for signs refuses nothing else. Just the texts that stand for a number of 32 bits are read
(`Sysfs.uint32OfText_eq_ok_iff`).
-/

namespace SliceAgent

namespace Sysfs

/-- The texts that stand for an unsigned number: decimal digits that are not too many, or any number
of hexadecimal digits behind their mark. -/
inductive IsUnsigned : List Char → Nat → Prop
  | decimal {cs : List Char} {n : Nat} (run : IsNumeral 10 cs n) (short : cs.length ≤ digitLimit) :
    IsUnsigned cs n
  | hexadecimal {mark : Char} {cs : List Char} {n : Nat} (is_mark : mark = 'x' ∨ mark = 'X')
    (run : IsNumeral 16 cs n) : IsUnsigned ('0' :: mark :: cs) n

/-- The marks of hexadecimal numerals stand between no digits. -/
theorem isUnsigned_hexadecimal_iff {mark : Char} {cs : List Char} {n : Nat}
    (hmark : mark = 'x' ∨ mark = 'X') :
    IsUnsigned ('0' :: mark :: cs) n ↔ IsNumeral 16 cs n := by
  refine ⟨fun h => ?_, fun h => .hexadecimal hmark h⟩
  have hnone : Text.hexValue? mark = none := by rcases hmark with rfl | rfl <;> decide
  cases h with
  | hexadecimal _ run => exact run
  | decimal run _ =>
    obtain ⟨d, hd⟩ := run.isDigit_of_mem mark (by simp)
    exact absurd hd (not_isDigit hnone (by decide) d)

/-- The digits of an unsigned number and their base are those that a text is split into. -/
theorem isUnsigned_iff {cs : List Char} {n : Nat} :
    IsUnsigned cs n ↔ IsNumeral (splitBase cs).1 (splitBase cs).2 n ∧
      ((splitBase cs).1 = 10 → (splitBase cs).2.length ≤ digitLimit) := by
  unfold splitBase
  split
  · simp [isUnsigned_hexadecimal_iff]
  · simp [isUnsigned_hexadecimal_iff]
  · rename_i hx hX
    refine ⟨fun h => ?_, fun h => .decimal h.1 (h.2 rfl)⟩
    cases h with
    | decimal run short => exact ⟨run, fun _ => short⟩
    | hexadecimal is_mark _ =>
      rcases is_mark with rfl | rfl
      · exact absurd rfl (hx _)
      · exact absurd rfl (hX _)

theorem splitBase_fst (cs : List Char) : (splitBase cs).1 = 10 ∨ (splitBase cs).1 = 16 := by
  unfold splitBase
  split <;> simp

theorem strictInt?_splitBase_eq_some_iff {cs : List Char} {v : Int}
    (hsign : ¬((splitBase cs).2.head? = some '+' ∨ (splitBase cs).2.head? = some '-')) :
    strictInt? (splitBase cs).1 (splitBase cs).2 = some v ↔
      ∃ n : Nat, IsUnsigned cs n ∧ (n : Int) = v := by
  have hplain := takeSign_of_head? hsign
  rw [strictInt?_eq_some_iff ((splitBase_fst cs).imp_right fun h => ⟨h, hplain⟩), hplain]
  simp only [isUnsigned_iff, and_assoc]
  rfl

/-- **Unsigned numbers.** A text is read as a number exactly if it stands for it and the number is
one of 32 bits. -/
theorem uint32OfText_eq_ok_iff {text : String} {v : Nat} :
    uint32OfText text = .ok v ↔ IsUnsigned text.toList v ∧ v < 2 ^ 32 := by
  rw [uint32OfText]
  dsimp only
  split
  · rename_i hsign
    have hbase : (splitBase text.toList).1 ≤ 16 := by
      have := splitBase_fst text.toList
      omega
    exact iff_of_false (by simp) fun h =>
      not_isNumeral_of_sign hbase hsign v (isUnsigned_iff.mp h.1).1
  · rename_i hsign
    have hvalue (n : Nat) : strictInt? (splitBase text.toList).1 (splitBase text.toList).2 =
        some (n : Int) ↔ IsUnsigned text.toList n := by
      rw [strictInt?_splitBase_eq_some_iff hsign]
      simp
    rw [← hvalue]
    cases hread : strictInt? (splitBase text.toList).1 (splitBase text.toList).2 with
    | none => simp
    | some n =>
      obtain ⟨m, -, rfl⟩ := (strictInt?_splitBase_eq_some_iff hsign).mp hread
      have hmax : (m : Int) ≤ uint32Max ↔ m < 2 ^ 32 := by
        simp only [uint32Max]
        omega
      simp only [hmax, Int.toNat_natCast, Option.some.injEq, Int.natCast_inj]
      split
      · rename_i hlt
        rw [Except.ok.injEq]
        exact ⟨fun h => ⟨h, h ▸ hlt⟩, And.left⟩
      · rename_i hle
        refine iff_of_false (by simp) ?_
        rintro ⟨rfl, hlt⟩
        exact hle hlt

theorem isParse_of_uint32OfText {text : String} {cause : ValueCause}
    (h : uint32OfText text = .error cause) : cause.isParse = true := by
  rw [uint32OfText] at h
  dsimp only at h
  split at h
  · obtain rfl := Except.error.inj h
    rfl
  split at h
  · obtain rfl := Except.error.inj h
    rfl
  split at h
  · cases h
  · obtain rfl := Except.error.inj h
    rfl

/-! ### Attribute files -/

theorem unixLinesChars_eq_self {cs : List Char} (h : '\r' ∉ cs) : Text.unixLinesChars cs = cs := by
  fun_induction Text.unixLinesChars cs with
  | case1 => rfl
  | case2 => simp at h
  | case3 => simp at h
  | case4 c r _ _ ih => rw [ih fun hr => h (List.mem_cons_of_mem c hr)]

/-- A text without blanks is left as it is. -/
theorem trim_unixLines {s : String} (h : ∀ c ∈ s.toList, Text.isBlank c = false) :
    Text.trim (Text.unixLines s) = s := by
  have hlines : Text.unixLinesChars s.toList = s.toList :=
    unixLinesChars_eq_self fun hmem => absurd (h _ hmem) (by decide)
  rw [Text.trim, Text.unixLines, String.toList_ofList, hlines, dropEnds_eq_self h,
    String.ofList_toList]

theorem readText_eq {t : FileTree} {directory attr content : String} {octets : List UInt8}
    (hread : t.read? ((Path.ofText directory).child attr) = .ok octets)
    (hdecode : Text.Utf8.decode octets = .ok content) :
    readText t directory attr = .ok (Text.trim (Text.unixLines content)) := by
  unfold readText
  rw [hread]
  simp only [textOfOctets, hdecode, Except.map, Except.mapError]

theorem readUInt32_eq {t : FileTree} {directory attr content : String} {octets : List UInt8}
    (hread : t.read? ((Path.ofText directory).child attr) = .ok octets)
    (hdecode : Text.Utf8.decode octets = .ok content) :
    readUInt32 t directory attr =
      (uint32OfText (Text.trim (Text.unixLines content))).mapError (valueFault directory attr) := by
  simp only [readUInt32, readText_eq hread hdecode, Except.bind]

/-- A text that is no number is a fault of a number. -/
theorem exists_numberFault {α : Type} {parsed : Except ValueCause α} (directory attr : String)
    (hparse : ∀ cause, parsed = .error cause → cause.isParse = true)
    (hnone : ¬∃ v, parsed = .ok v) :
    ∃ f : Fault, parsed.mapError (valueFault directory attr) = .error (.fault f) ∧
      f.cause.kind = .number ∧ f.attr = attr ∧ f.path = directory := by
  cases parsed with
  | ok v => exact absurd ⟨v, rfl⟩ hnone
  | error cause =>
    refine ⟨⟨.value cause, attr, directory⟩, rfl, ?_, rfl, rfl⟩
    rw [Cause.kind, hparse cause rfl]
    rfl

theorem IsUnsigned.not_isBlank {cs : List Char} {n : Nat} (h : IsUnsigned cs n) :
    ∀ c ∈ cs, Text.isBlank c = false := by
  cases h with
  | decimal run _ => exact not_isBlank_of_isNumeral (by decide) run
  | hexadecimal is_mark run =>
    simp only [List.forall_mem_cons]
    refine ⟨by decide, ?_, not_isBlank_of_isNumeral (by decide) run⟩
    rcases is_mark with rfl | rfl <;> decide

/-- A number is read from a file that holds nothing else. -/
theorem readUInt32_encode {t : FileTree} {directory attr text : String} {v : Nat}
    (h : IsUnsigned text.toList v) (hv : v < 2 ^ 32)
    (hread : t.read? ((Path.ofText directory).child attr) = .ok (Text.Utf8.encode text)) :
    readUInt32 t directory attr = .ok v := by
  rw [readUInt32_eq hread (Text.Utf8.decode_encode text), trim_unixLines h.not_isBlank,
    uint32OfText_eq_ok_iff.mpr ⟨h, hv⟩]
  rfl

theorem isUnsigned_toString {v : Nat} (hv : v < 2 ^ 32) : IsUnsigned (toString v).toList v := by
  have hrun : IsNumeral 10 (Nat.toDigits 10 v) v := .of_toDigits (by decide) 0 v
  have hlength : (Nat.toDigits 10 v).length ≤ 10 :=
    (Nat.length_toDigits_le_iff (by decide) (by decide)).mpr (by omega)
  have htext : (toString v).toList = Nat.toDigits 10 v := Nat.toList_repr
  rw [htext]
  exact .decimal hrun (hlength.trans (by decide))

theorem isUnsigned_hexDigits {mark : Char} (hmark : mark = 'x' ∨ mark = 'X') (width v : Nat) :
    IsUnsigned ("0" ++ mark.toString ++ Text.hexDigits width v).toList v := by
  have hrun : IsNumeral 16
      (List.replicate (width - (Nat.toDigits 16 v).length) '0' ++ Nat.toDigits 16 v) v :=
    .of_toDigits (by decide) _ v
  have htext : ("0" ++ mark.toString ++ Text.hexDigits width v).toList = '0' :: mark ::
      (List.replicate (width - (Nat.toDigits 16 v).length) '0' ++ Nat.toDigits 16 v) := by
    simp [Text.hexDigits]
  rw [htext]
  exact .hexadecimal hmark hrun

end Sysfs

open Sysfs in
/-- **Which files hold an unsigned number.** A file that can be decoded is read as a number exactly
if its text, with unified line ends and without the blanks around it, stands for that number and the
number is one of 32 bits; any other text is a fault of a number that names the attribute and the
directory as the caller wrote it. So every number that is read is one of 32 bits, and every such
number is read, be it written in decimal digits or in hexadecimal ones with zeros before them. -/
theorem uint32_reads_numerals :
    (∀ (t : FileTree) (directory attr : String) (octets : List UInt8) (content : String),
      t.read? ((Path.ofText directory).child attr) = .ok octets →
      Text.Utf8.decode octets = .ok content →
      let text := Text.trim (Text.unixLines content)
      (∀ v, readUInt32 t directory attr = .ok v ↔ IsUnsigned text.toList v ∧ v < 2 ^ 32) ∧
      ((¬∃ v, IsUnsigned text.toList v ∧ v < 2 ^ 32) →
        ∃ f : Fault, readUInt32 t directory attr = .error (.fault f) ∧
          f.cause.kind = .number ∧ f.attr = attr ∧ f.path = directory)) ∧
    (∀ (t : FileTree) (directory attr : String) (v : Nat),
      readUInt32 t directory attr = .ok v → v < 2 ^ 32) ∧
    ∀ (t : FileTree) (directory attr : String) (v : Nat), v < 2 ^ 32 →
      (t.read? ((Path.ofText directory).child attr) = .ok (Text.Utf8.encode (toString v)) →
        readUInt32 t directory attr = .ok v) ∧
      ∀ (mark : Char) (width : Nat), mark = 'x' ∨ mark = 'X' →
        t.read? ((Path.ofText directory).child attr) =
          .ok (Text.Utf8.encode ("0" ++ mark.toString ++ Text.hexDigits width v)) →
        readUInt32 t directory attr = .ok v := by
  refine ⟨fun t directory attr octets content hread hdecode => ?_, fun t directory attr v h => ?_,
    fun t directory attr v hv => ⟨fun hread => ?_, fun mark width hmark hread => ?_⟩⟩
  · simp only [readUInt32_eq hread hdecode, ← uint32OfText_eq_ok_iff]
    exact ⟨fun v => mapError_eq_ok_iff,
      exists_numberFault directory attr fun _ => isParse_of_uint32OfText⟩
  · obtain ⟨text, -, htext⟩ := bind_eq_ok.mp h
    exact (uint32OfText_eq_ok_iff.mp (mapError_eq_ok_iff.mp htext)).2
  · exact readUInt32_encode (isUnsigned_toString hv) hv hread
  · exact readUInt32_encode (isUnsigned_hexDigits hmark width v) hv hread

/-- Signs, further marks, underscores, blanks within, digits of other scripts, no digits at all and
numbers of more bits make no number. -/
example :
    ["+1", "-0x1", "0x+1", "0x0x1", "1_0", "1 0", "0x 1", "\u0661", "", "0x", "4294967296",
      "0x100000000"].all (fun s => (Sysfs.uint32OfText s).toOption.isNone) = true := by
  decide +kernel

open Sysfs in
/-- A hexadecimal number with blanks around it, one with a sign behind its mark, and the largest
number of 32 bits. -/
theorem uint32_reads_numerals_of_files :
    let t := (FileTree.empty ["w"]).applyAll
      [.file "d/a" (Text.Utf8.encode "\t0X00fF\r\n"),
       .file "d/b" (Text.Utf8.encode "0x-1"),
       .file "d/c" (Text.Utf8.encode (toString 4294967295))]
    readUInt32 t "d" "a" = .ok 255 ∧
      (∃ f : Fault, readUInt32 t "d" "b" = .error (.fault f) ∧ f.cause.kind = .number ∧
        f.attr = "b" ∧ f.path = "d") ∧
      readUInt32 t "d" "c" = .ok 4294967295 := by
  intro t
  obtain ⟨hfiles, -, hnumbers⟩ := uint32_reads_numerals
  refine ⟨?_, ?_, ?_⟩
  · have ha := hfiles t "d" "a" (Text.Utf8.encode "\t0X00fF\r\n") "\t0X00fF\r\n"
      (by decide +kernel) (Text.Utf8.decode_encode _)
    exact (ha.1 255).mpr (uint32OfText_eq_ok_iff.mp (by decide +kernel))
  · have hb := hfiles t "d" "b" (Text.Utf8.encode "0x-1") "0x-1" (by decide +kernel)
      (Text.Utf8.decode_encode _)
    refine hb.2 ?_
    rintro ⟨v, hv⟩
    have hsigned : uint32OfText (Text.trim (Text.unixLines "0x-1")) = .error (.signed "0x-1") := by
      decide +kernel
    cases hsigned.symm.trans (uint32OfText_eq_ok_iff.mpr hv)
  · exact (hnumbers t "d" "c" 4294967295 (by decide)).1 (by decide +kernel)

end SliceAgent
