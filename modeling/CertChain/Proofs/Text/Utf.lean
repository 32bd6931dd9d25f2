import CertChain.Text.Utf

/-!
# Texts are read back from UTF-8

`Utf8.decode_ofText` says that the octets of a text decode to that text. The decoder goes
through the octets with a position and with the characters it has found, so the statement
that the induction carries is about a decoder in the middle of its work
(`Utf8.decodeFrom_ofText`).

The four lengths of a character are four branches of the decoder. For each of them there is
one lemma that says which octets the branch takes (`Utf8.decodeFrom_one` to
`Utf8.decodeFrom_four`); that the octets of a character are such octets is arithmetic.

Characters below 128 are octets by themselves (`Bytes.ofText_of_ascii`), so a text of them is
looked at octet by octet.
-/

namespace CertChain
namespace Utf8

/-! ### One character -/

/-- An octet that continues a character has its top bits set to 10. -/
theorem isContinuation_iff {b : UInt8} :
    isContinuation b = true ↔ 0x80 ≤ b.toNat ∧ b.toNat < 0xC0 := by
  simp [isContinuation, UInt8.le_iff_toNat_le, UInt8.lt_iff_toNat_lt]

/-- The second octet continues the character, within the bounds that its first octet sets. -/
theorem isSecond_iff {lead b : UInt8} :
    isSecond lead b = true ↔ (0x80 ≤ b.toNat ∧ b.toNat < 0xC0)
      ∧ (lead.toNat = 0xE0 → 0xA0 ≤ b.toNat) ∧ (lead.toNat = 0xED → b.toNat < 0xA0)
      ∧ (lead.toNat = 0xF0 → 0x90 ≤ b.toNat) ∧ (lead.toNat = 0xF4 → b.toNat < 0x90) := by
  have heq : ∀ k : UInt8, (lead == k) = decide (lead.toNat = k.toNat) := fun k => by
    rw [Bool.eq_iff_iff, beq_iff_eq, decide_eq_true_iff, UInt8.toNat_inj]
  simp only [isSecond, heq, Bool.and_eq_true, isContinuation_iff, UInt8.le_iff_toNat_le,
    UInt8.lt_iff_toNat_lt, Bool.not_eq_true', Bool.and_eq_false_imp, decide_eq_true_eq,
    decide_eq_false_iff_not]
  simp only [UInt8.toNat_ofNat]
  -- both sides are the same comparisons, put together differently
  grind

variable (position : Nat) (done : List Char) (rest : Bytes) {a b c d : UInt8}

/-- The first octet of a longer character is taken for one. -/
theorem not_ascii_of_lead (hlow : 0xC2 ≤ a.toNat) (hhigh : a.toNat < 0xF5) :
    ¬ a < 0x80 ∧ (a < 0xC2 || 0xF5 ≤ a) = false := by
  rw [Bool.or_eq_false_iff, decide_eq_false_iff_not, decide_eq_false_iff_not]
  simp only [UInt8.lt_iff_toNat_lt, UInt8.le_iff_toNat_le, UInt8.toNat_ofNat]
  omega

/-- An octet below 128 is a character. -/
theorem decodeFrom_one (ha : a.toNat < 0x80) :
    decodeFrom position done (a :: rest)
      = decodeFrom (position + 1) (Char.ofNat a.toNat :: done) rest := by
  rw [decodeFrom.eq_def]
  exact if_pos (UInt8.lt_iff_toNat_lt.mpr ha)

/-- Two octets are a character of eleven bits. -/
theorem decodeFrom_two (ha : 0xC2 ≤ a.toNat) (ha' : a.toNat < 0xE0)
    (hb : isContinuation b = true) :
    decodeFrom position done (a :: b :: rest)
      = decodeFrom (position + 2) (Char.ofNat (a.toNat % 32 * 64 + payload b) :: done) rest := by
  obtain ⟨h1, h2⟩ := not_ascii_of_lead (a := a) (by omega) (by omega)
  have h3 : a < 0xE0 := UInt8.lt_iff_toNat_lt.mpr ha'
  rw [decodeFrom.eq_def]
  simp only [h1, h2, h3, hb, if_true, if_false, Bool.false_eq_true]

/-- Three octets are a character of sixteen bits, if the second octet is in its bounds. -/
theorem decodeFrom_three (ha : 0xE0 ≤ a.toNat) (ha' : a.toNat < 0xF0)
    (hb : isSecond a b = true) (hc : isContinuation c = true) :
    decodeFrom position done (a :: b :: c :: rest)
      = decodeFrom (position + 3)
          (Char.ofNat ((a.toNat % 16 * 64 + payload b) * 64 + payload c) :: done) rest := by
  obtain ⟨h1, h2⟩ := not_ascii_of_lead (a := a) (by omega) (by omega)
  have h3 : ¬ a < 0xE0 := by rw [UInt8.lt_iff_toNat_lt]; simp; omega
  have h4 : a < 0xF0 := UInt8.lt_iff_toNat_lt.mpr ha'
  rw [decodeFrom.eq_def]
  simp only [h1, h2, h3, h4, hb, hc, if_true, if_false, Bool.false_eq_true]

/-- Four octets are a character of twenty-one bits, if the second octet is in its bounds. -/
theorem decodeFrom_four (ha : 0xF0 ≤ a.toNat) (ha' : a.toNat < 0xF5)
    (hb : isSecond a b = true) (hc : isContinuation c = true) (hd : isContinuation d = true) :
    decodeFrom position done (a :: b :: c :: d :: rest)
      = decodeFrom (position + 4)
          (Char.ofNat (((a.toNat % 8 * 64 + payload b) * 64 + payload c) * 64 + payload d) :: done)
          rest := by
  obtain ⟨h1, h2⟩ := not_ascii_of_lead (a := a) (by omega) (by omega)
  have h3 : ¬ a < 0xE0 := by rw [UInt8.lt_iff_toNat_lt]; simp; omega
  have h4 : ¬ a < 0xF0 := by rw [UInt8.lt_iff_toNat_lt]; simp; omega
  rw [decodeFrom.eq_def]
  simp only [h1, h2, h3, h4, hb, hc, hd, if_true, if_false, Bool.false_eq_true]

/-- The numbers of characters leave out the surrogates. -/
theorem toNat_char (c : Char) : c.toNat < 0xD800 ∨ (0xDFFF < c.toNat ∧ c.toNat < 0x110000) :=
  c.valid

/-- **A character is read back**, whatever was found before it and stands behind it. -/
theorem decodeFrom_char (c : Char) :
    ∃ width, decodeFrom position done (String.utf8EncodeChar c ++ rest)
      = decodeFrom (position + width) (c :: done) rest := by
  have hvalid := toNat_char c
  have hback : Char.ofNat c.toNat = c := Char.ofNat_toNat c
  generalize hn : c.toNat = n at hvalid hback
  have hval : c.val.toNat = n := hn
  have hsmall : ∀ k, k < 256 → (UInt8.ofNat k).toNat = k := fun k hk => by
    rw [UInt8.toNat_ofNat', Nat.mod_eq_of_lt hk]
  have hlast : (UInt8.ofNat (n % 64 + 0x80)).toNat = n % 64 + 0x80 := hsmall _ (by omega)
  have hmid : (UInt8.ofNat (n / 64 % 64 + 0x80)).toNat = n / 64 % 64 + 0x80 := hsmall _ (by omega)
  have hhigh : (UInt8.ofNat (n / 4096 % 64 + 0x80)).toNat = n / 4096 % 64 + 0x80 :=
    hsmall _ (by omega)
  -- the encoder tells the four lengths by the number, and in each the decoder goes the same way
  unfold String.utf8EncodeChar
  simp only [hval]
  split
  · have ha := hsmall n (by omega)
    refine ⟨1, ?_⟩
    rw [List.cons_append, List.nil_append, decodeFrom_one _ _ _ (by omega), ha, hback]
  · split
    · have ha := hsmall (n / 64 % 0x20 + 0xC0) (by omega)
      refine ⟨2, ?_⟩
      simp only [List.cons_append, List.nil_append]
      rw [decodeFrom_two _ _ _ (by omega) (by omega) (isContinuation_iff.mpr (by omega))]
      -- the payloads of the octets are the number's digits to the base 64
      simp only [payload, ha, hlast]
      rw [show (n / 64 % 0x20 + 0xC0) % 32 * 64 + (n % 64 + 0x80) % 64 = n by omega, hback]
    · split
      · -- the bounds on the second octet leave out the surrogates, which are no characters
        have ha := hsmall (n / 4096 % 0x10 + 0xE0) (by omega)
        refine ⟨3, ?_⟩
        simp only [List.cons_append, List.nil_append]
        rw [decodeFrom_three _ _ _ (by omega) (by omega) (isSecond_iff.mpr (by omega))
          (isContinuation_iff.mpr (by omega))]
        simp only [payload, ha, hmid, hlast]
        rw [show ((n / 4096 % 0x10 + 0xE0) % 16 * 64 + (n / 64 % 64 + 0x80) % 64) * 64
          + (n % 64 + 0x80) % 64 = n by omega, hback]
      · -- and here they leave out what is beyond the last character
        have ha := hsmall (n / 262144 % 0x08 + 0xF0) (by omega)
        refine ⟨4, ?_⟩
        simp only [List.cons_append, List.nil_append]
        rw [decodeFrom_four _ _ _ (by omega) (by omega) (isSecond_iff.mpr (by omega))
          (isContinuation_iff.mpr (by omega)) (isContinuation_iff.mpr (by omega))]
        simp only [payload, ha, hhigh, hmid, hlast]
        rw [show (((n / 262144 % 0x08 + 0xF0) % 8 * 64 + (n / 4096 % 64 + 0x80) % 64) * 64
          + (n / 64 % 64 + 0x80) % 64) * 64 + (n % 64 + 0x80) % 64 = n by omega, hback]

/-! ### Texts -/

/-- From the middle of a text the rest is read behind what has been found. -/
theorem decodeFrom_ofText (cs : List Char) :
    decodeFrom position done (cs.flatMap String.utf8EncodeChar) = .ok (done.reverse ++ cs) := by
  -- with every character the decoder moves on and has found one more
  induction cs generalizing position done with
  | nil => simp [decodeFrom]
  | cons c cs ih =>
    rw [List.flatMap_cons]
    obtain ⟨width, hc⟩ := decodeFrom_char position done (cs.flatMap String.utf8EncodeChar) c
    rw [hc, ih, List.reverse_cons, List.append_assoc, List.singleton_append]

/-- **A text is read back** from its octets. -/
theorem decode_ofText (text : String) : decode (Bytes.ofText text) = .ok text := by
  rw [decode, Bytes.ofText, decodeFrom_ofText]
  simp [Except.map]

/-- The decoder that names no fault reads the text as well. -/
theorem decode?_ofText (text : String) : decode? (Bytes.ofText text) = some text := by
  rw [decode?, decode_ofText]
  rfl

end Utf8

namespace Bytes

/-- Different texts have different octets. -/
theorem ofText_injective {s t : String} (h : ofText s = ofText t) : s = t := by
  -- the octets are the same, and each text is what they are read as
  have hread := Utf8.decode_ofText s
  rw [h, Utf8.decode_ofText t] at hread
  exact (Except.ok.inj hread).symm

/-! ### Octets below 128 -/

/-- A character below 128 is encoded by its number. -/
theorem utf8EncodeChar_of_ascii {c : Char} (hc : c.toNat < 0x80) :
    String.utf8EncodeChar c = [UInt8.ofNat c.toNat] := by
  have hval : c.val.toNat ≤ 0x7F := Nat.le_of_lt_succ hc
  unfold String.utf8EncodeChar
  rw [if_pos hval]
  rfl

/-- Characters below 128 are one octet each. -/
theorem ofText_of_ascii {cs : List Char} (h : ∀ c ∈ cs, c.toNat < 0x80) :
    ofText (String.ofList cs) = cs.map fun c => UInt8.ofNat c.toNat := by
  rw [ofText, String.toList_ofList]
  induction cs with
  | nil => rfl
  | cons c cs ih =>
    rw [List.flatMap_cons, utf8EncodeChar_of_ascii (h c List.mem_cons_self),
      ih fun d hd => h d (List.mem_cons_of_mem c hd)]
    rfl

end Bytes
end CertChain
