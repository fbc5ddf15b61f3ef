import SliceAgent.Proofs.UnsignedNumerals

/-!
# Signed numerals of attribute files

A signed number is written in decimal digits that are not too many, behind at most one sign
(`Sysfs.IsSigned`). No sign is a digit, so the sign and the digits of a text are told apart in one
way only, and just the texts that stand for a number of 64 bits are read
(`Sysfs.int64OfText_eq_ok_iff`).

Blanks around a text are taken off, line ends of any kind among them, since a line end stays a blank
when it is unified with the others (`trim_unixLines_append`).
-/

namespace SliceAgent

/-! ### Blanks around a text -/

section Blanks

variable {before cs after : List Char}

/-- Line ends are unified apart on both sides of a place that is not within one. -/
theorem unixLinesChars_append (h : before.getLast? = some '\r' → after.head? ≠ some '\n') :
    Text.unixLinesChars (before ++ after) =
      Text.unixLinesChars before ++ Text.unixLinesChars after := by
  fun_induction Text.unixLinesChars before with
  | case1 => rfl
  | case2 r ih =>
    rw [List.cons_append, List.cons_append, Text.unixLinesChars, ih, List.cons_append]
    intro hlast
    exact h (by simp [List.getLast?_cons, hlast])
  | case3 r hnext ih =>
    -- A return at the end of the one side would be part of a line end that goes on in the other.
    have hnext' : ∀ r', r ++ after = '\n' :: r' → False := by
      intro r' hr'
      cases r with
      | nil => exact h rfl (by simpa using congrArg List.head? hr')
      | cons c rest =>
        obtain ⟨rfl, -⟩ := List.cons.inj hr'
        exact hnext rest rfl
    rw [List.cons_append, Text.unixLinesChars.eq_3 _ hnext', ih, List.cons_append]
    intro hlast
    exact h (by simp [List.getLast?_cons, hlast])
  | case4 c r hpair hreturn ih =>
    rw [List.cons_append, Text.unixLinesChars.eq_4, ih, List.cons_append]
    · intro hlast
      exact h (by simp [List.getLast?_cons, hlast])
    · intro r' hc hr'
      exact hreturn hc
    · exact hreturn

/-- A line end is a blank, however it is written. -/
theorem isBlank_of_mem_unixLinesChars (h : ∀ c ∈ cs, Text.isBlank c = true) :
    ∀ c ∈ Text.unixLinesChars cs, Text.isBlank c = true := by
  fun_induction Text.unixLinesChars cs with
  | case1 => simp
  | case2 r ih =>
    rw [List.forall_mem_cons, List.forall_mem_cons] at h
    exact List.forall_mem_cons.mpr ⟨by decide, ih h.2.2⟩
  | case3 r _ ih =>
    rw [List.forall_mem_cons] at h
    exact List.forall_mem_cons.mpr ⟨by decide, ih h.2⟩
  | case4 c r _ _ ih =>
    rw [List.forall_mem_cons] at h
    exact List.forall_mem_cons.mpr ⟨h.1, ih h.2⟩

theorem dropWhile_append_of_forall {p : Char → Bool} (hbefore : ∀ c ∈ before, p c = true)
    (hne : cs ≠ []) (hcs : ∀ c ∈ cs, p c = false) :
    (before ++ (cs ++ after)).dropWhile p = cs ++ after := by
  obtain ⟨c, rest, rfl⟩ := List.exists_cons_of_ne_nil hne
  rw [List.dropWhile_append_of_pos hbefore, List.cons_append,
    List.dropWhile_cons_of_neg (by simp [hcs c])]

theorem dropEnds_append {p : Char → Bool} (hbefore : ∀ c ∈ before, p c = true)
    (hafter : ∀ c ∈ after, p c = true) (hne : cs ≠ []) (hcs : ∀ c ∈ cs, p c = false) :
    Text.dropEnds p (before ++ (cs ++ after)) = cs := by
  have hend : (after.reverse ++ (cs.reverse ++ [])).dropWhile p = cs.reverse ++ [] :=
    dropWhile_append_of_forall (by simpa using hafter) (by simpa using hne) (by simpa using hcs)
  rw [List.append_nil] at hend
  rw [Text.dropEnds, dropWhile_append_of_forall hbefore hne hcs, List.reverse_append, hend,
    List.reverse_reverse]

/-- A text without blanks is left of itself with blanks around it. -/
theorem trim_unixLines_append (hbefore : ∀ c ∈ before, Text.isBlank c = true)
    (hafter : ∀ c ∈ after, Text.isBlank c = true) (hne : cs ≠ [])
    (hcs : ∀ c ∈ cs, Text.isBlank c = false) :
    Text.trim (Text.unixLines (.ofList (before ++ (cs ++ after)))) = .ofList cs := by
  have hplain {c : Char} (hc : Text.isBlank c = true) : c ∉ cs := fun hmem => by
    simp [hcs c hmem] at hc
  have hhead : (cs ++ after).head? ≠ some '\n' := by
    rw [List.head?_append_of_ne_nil _ hne]
    exact fun h => hplain (c := '\n') (by decide) (List.mem_of_mem_head? h)
  have hlast : cs.getLast? ≠ some '\r' := fun h =>
    hplain (c := '\r') (by decide) (List.mem_of_getLast? h)
  rw [Text.trim, Text.unixLines, String.toList_ofList, String.toList_ofList,
    unixLinesChars_append fun _ => hhead, unixLinesChars_append fun h => absurd h hlast,
    Sysfs.unixLinesChars_eq_self (hplain (c := '\r') (by decide)),
    dropEnds_append (isBlank_of_mem_unixLinesChars hbefore) (isBlank_of_mem_unixLinesChars hafter)
      hne hcs]

end Blanks

namespace Sysfs

/-! ### Signed numbers -/

/-- The texts that stand for a signed number: decimal digits that are not too many, behind at most
one sign. -/
inductive IsSigned : List Char → Int → Prop
  | plain {ds : List Char} {n : Nat} (run : IsNumeral 10 ds n) (short : ds.length ≤ digitLimit) :
    IsSigned ds n
  | plus {ds : List Char} {n : Nat} (run : IsNumeral 10 ds n) (short : ds.length ≤ digitLimit) :
    IsSigned ('+' :: ds) n
  | minus {ds : List Char} {n : Nat} (run : IsNumeral 10 ds n) (short : ds.length ≤ digitLimit) :
    IsSigned ('-' :: ds) (-n)

theorem not_isNumeral_cons {c : Char} (h : Text.hexValue? c = none) (ds : List Char) (n : Nat) :
    ¬IsNumeral 10 (c :: ds) n := by
  intro hrun
  obtain ⟨d, hd⟩ := hrun.isDigit_of_mem c List.mem_cons_self
  exact not_isDigit h (by decide) d hd

/-- The sign and the digits of a signed number are those that a text is split into. -/
theorem isSigned_iff {cs : List Char} {v : Int} :
    IsSigned cs v ↔ ∃ n, IsNumeral 10 (takeSign cs).2 n ∧
      (takeSign cs).2.length ≤ digitLimit ∧ signed (takeSign cs).1 n = v := by
  unfold takeSign
  split
  · rename_i ds
    constructor
    · intro h
      cases h with
      | plain run _ => exact absurd run (not_isNumeral_cons (by decide) ds _)
      | minus run short => exact ⟨_, run, short, rfl⟩
    · rintro ⟨n, run, short, rfl⟩
      exact .minus run short
  · rename_i ds
    constructor
    · intro h
      cases h with
      | plain run _ => exact absurd run (not_isNumeral_cons (by decide) ds _)
      | plus run short => exact ⟨_, run, short, rfl⟩
    · rintro ⟨n, run, short, rfl⟩
      exact .plus run short
  · rename_i hminus hplus
    constructor
    · intro h
      cases h with
      | plain run short => exact ⟨_, run, short, rfl⟩
      | plus => exact absurd rfl (hplus _)
      | minus => exact absurd rfl (hminus _)
    · rintro ⟨n, run, short, rfl⟩
      exact .plain run short

theorem strictInt?_ten_eq_some_iff {cs : List Char} {v : Int} :
    strictInt? 10 cs = some v ↔ IsSigned cs v := by
  rw [isSigned_iff, strictInt?_eq_some_iff (.inl rfl)]
  simp only [true_implies]

/-- **Signed numbers.** A text is read as a number exactly if it stands for it and the number is one
of 64 bits. -/
theorem int64OfText_eq_ok_iff {text : String} {v : Int} :
    int64OfText text = .ok v ↔ IsSigned text.toList v ∧ -2 ^ 63 ≤ v ∧ v ≤ 2 ^ 63 - 1 := by
  have hrange (n : Int) : int64Min ≤ n ∧ n ≤ int64Max ↔ -2 ^ 63 ≤ n ∧ n ≤ 2 ^ 63 - 1 := by
    simp only [int64Min, int64Max]
    omega
  rw [← strictInt?_ten_eq_some_iff, int64OfText]
  cases strictInt? 10 text.toList with
  | none => simp
  | some n =>
    simp only [hrange, Option.some.injEq]
    split
    · rename_i hn
      rw [Except.ok.injEq]
      exact ⟨fun h => ⟨h, h ▸ hn⟩, And.left⟩
    · rename_i hn
      refine iff_of_false (by simp) ?_
      rintro ⟨rfl, hv⟩
      exact hn hv

theorem isParse_of_int64OfText {text : String} {cause : ValueCause}
    (h : int64OfText text = .error cause) : cause.isParse = true := by
  rw [int64OfText] at h
  split at h
  · obtain rfl := Except.error.inj h
    rfl
  split at h
  · cases h
  · obtain rfl := Except.error.inj h
    rfl

/-! ### Written numbers -/

theorem IsSigned.ne_nil {cs : List Char} {v : Int} (h : IsSigned cs v) : cs ≠ [] := by
  cases h with
  | plain run _ => exact run.1
  | plus => exact List.cons_ne_nil _ _
  | minus => exact List.cons_ne_nil _ _

theorem IsSigned.not_isBlank {cs : List Char} {v : Int} (h : IsSigned cs v) :
    ∀ c ∈ cs, Text.isBlank c = false := by
  cases h with
  | plain run _ => exact not_isBlank_of_isNumeral (by decide) run
  | plus run _ =>
    exact List.forall_mem_cons.mpr ⟨by decide, not_isBlank_of_isNumeral (by decide) run⟩
  | minus run _ =>
    exact List.forall_mem_cons.mpr ⟨by decide, not_isBlank_of_isNumeral (by decide) run⟩

/-- The decimal text of a number of 64 bits stands for it. -/
theorem isSigned_toString {v : Int} (hv : -2 ^ 63 ≤ v ∧ v ≤ 2 ^ 63 - 1) :
    IsSigned (toString v).toList v := by
  have hlength : (Nat.toDigits 10 v.natAbs).length ≤ 19 :=
    (Nat.length_toDigits_le_iff (by decide) (by decide)).mpr (by omega)
  rw [isSigned_iff, takeSign_toString]
  exact ⟨v.natAbs, .of_toDigits (by decide) 0 _, hlength.trans (by decide), signed_natAbs v⟩

/-! ### Attribute files -/

theorem readInt64_eq {t : FileTree} {directory attr content : String} {octets : List UInt8}
    (hread : t.read? ((Path.ofText directory).child attr) = .ok octets)
    (hdecode : Text.Utf8.decode octets = .ok content) :
    readInt64 t directory attr =
      (int64OfText (Text.trim (Text.unixLines content))).mapError (valueFault directory attr) := by
  simp only [readInt64, readText_eq hread hdecode, Except.bind]

end Sysfs

open Sysfs in
/-- **Which files hold a signed number.** A file that can be decoded is read as a number exactly if
its text, with unified line ends and without the blanks around it, stands for that number and the
number is one of 64 bits; any other text is a fault of a number that names the attribute and the
directory as the caller wrote it. So nothing outside of 64 bits is ever read, and every number of 64
bits is read from its decimal text, as from any other text that stands for it, with any blanks and
line ends around it. -/
theorem int64_reads_numerals :
    (∀ (t : FileTree) (directory attr : String) (octets : List UInt8) (content : String),
      t.read? ((Path.ofText directory).child attr) = .ok octets →
      Text.Utf8.decode octets = .ok content →
      let text := Text.trim (Text.unixLines content)
      (∀ v, readInt64 t directory attr = .ok v ↔
        IsSigned text.toList v ∧ -2 ^ 63 ≤ v ∧ v ≤ 2 ^ 63 - 1) ∧
      ((¬∃ v, IsSigned text.toList v ∧ -2 ^ 63 ≤ v ∧ v ≤ 2 ^ 63 - 1) →
        ∃ f : Fault, readInt64 t directory attr = .error (.fault f) ∧
          f.cause.kind = .number ∧ f.attr = attr ∧ f.path = directory)) ∧
    (∀ (t : FileTree) (directory attr : String) (v : Int),
      readInt64 t directory attr = .ok v → -2 ^ 63 ≤ v ∧ v ≤ 2 ^ 63 - 1) ∧
    ∀ v : Int, -2 ^ 63 ≤ v → v ≤ 2 ^ 63 - 1 →
      IsSigned (toString v).toList v ∧
      ∀ (t : FileTree) (directory attr : String) (before numeral after : List Char),
        IsSigned numeral v → (∀ c ∈ before, Text.isBlank c = true) →
        (∀ c ∈ after, Text.isBlank c = true) →
        t.read? ((Path.ofText directory).child attr) =
          .ok (Text.Utf8.encode (.ofList (before ++ (numeral ++ after)))) →
        readInt64 t directory attr = .ok v := by
  refine ⟨fun t directory attr octets content hread hdecode => ?_, fun t directory attr v h => ?_,
    fun v hmin hmax => ⟨isSigned_toString ⟨hmin, hmax⟩, ?_⟩⟩
  · simp only [readInt64_eq hread hdecode, ← int64OfText_eq_ok_iff]
    exact ⟨fun v => mapError_eq_ok_iff,
      exists_numberFault directory attr fun _ => isParse_of_int64OfText⟩
  · obtain ⟨text, -, htext⟩ := bind_eq_ok.mp h
    exact (int64OfText_eq_ok_iff.mp (mapError_eq_ok_iff.mp htext)).2
  · intro t directory attr before numeral after hsigned hbefore hafter hread
    have htrim := trim_unixLines_append hbefore hafter hsigned.ne_nil hsigned.not_isBlank
    have hnumeral : IsSigned (String.ofList numeral).toList v := by rwa [String.toList_ofList]
    rw [readInt64_eq hread (Text.Utf8.decode_encode _), htrim,
      int64OfText_eq_ok_iff.mpr ⟨hnumeral, hmin, hmax⟩]
    rfl

/-- Two signs, a sign alone or apart, underscores, points, marks of other bases, digits of other
scripts and numbers of more bits make no number. -/
example :
    ["+-1", "-", "- 1", "1_0", "1.0", "0x1", "\u0661", "", "9223372036854775808",
      "-9223372036854775809"].all (fun s => (Sysfs.int64OfText s).toOption.isNone) = true := by
  decide +kernel

open Sysfs in
/-- A number behind a sign and zeros, one with a letter in it, and the least number of 64 bits with
blanks and line ends around it. -/
theorem int64_reads_numerals_of_files :
    let t := (FileTree.empty ["w"]).applyAll
      [.file "d/a" (Text.Utf8.encode "+007\n"),
       .file "d/b" (Text.Utf8.encode "-1e3"),
       .file "d/c" (Text.Utf8.encode "\r\n\u2003-9223372036854775808 \r")]
    readInt64 t "d" "a" = .ok 7 ∧
      (∃ f : Fault, readInt64 t "d" "b" = .error (.fault f) ∧ f.cause.kind = .number ∧
        f.attr = "b" ∧ f.path = "d") ∧
      readInt64 t "d" "c" = .ok (-9223372036854775808) := by
  intro t
  obtain ⟨hfiles, -, hnumbers⟩ := int64_reads_numerals
  refine ⟨?_, ?_, ?_⟩
  · have ha := hfiles t "d" "a" (Text.Utf8.encode "+007\n") "+007\n" (by decide +kernel)
      (Text.Utf8.decode_encode _)
    exact (ha.1 7).mpr ⟨strictInt?_ten_eq_some_iff.mp (by decide +kernel), by decide, by decide⟩
  · have hb := hfiles t "d" "b" (Text.Utf8.encode "-1e3") "-1e3" (by decide +kernel)
      (Text.Utf8.decode_encode _)
    refine hb.2 ?_
    rintro ⟨v, hv, -⟩
    have hnone : strictInt? 10 (Text.trim (Text.unixLines "-1e3")).toList = none := by
      decide +kernel
    cases hnone.symm.trans (strictInt?_ten_eq_some_iff.mpr hv)
  · obtain ⟨hsigned, hread⟩ := hnumbers (-9223372036854775808) (by decide) (by decide)
    exact hread t "d" "c" ['\r', '\n', '\u2003'] _ [' ', '\r'] hsigned
      (List.all_eq_true.mp (by decide)) (List.all_eq_true.mp (by decide)) (by decide +kernel)

end SliceAgent
