import CertChain.Der.Primitive
import CertChain.Oid
import CertChain.Proofs.Der.Element

/-!
# The written forms of primitive values

Whole numbers, bit strings, truth values, points in time and object identifiers are held by
their contents octets, so what their readers take is written back as it was
(`Integer.spells_reader`, `BitString.spells_reader`, `Time.spells_reader`,
`Oid.spells_reader`).

One fact goes further, because the version of a document is held as what it means and not
as it is spelled: a number below 128 that is in shortest form is one octet
(`Integer.contents_eq_of_natural?`).
-/

namespace CertChain
namespace Der

/-! ### Whole numbers -/

namespace Integer

/-- An integer holds its contents, which are in shortest form. -/
theorem ofContents_ok {contents : Bytes} {n : Integer} (h : ofContents contents = .ok n) :
    isShortest contents = true ∧ n = ⟨contents⟩ := by
  unfold ofContents at h
  split at h
  · rename_i hshort
    cases h
    exact ⟨hshort, rfl⟩
  · cases h

/-- An integer is written as it was read. -/
theorem spells_reader : Spells Integer.reader fun n => n.toElement.write := by
  intro input rest n h
  obtain ⟨contents, mid, hexpect, h⟩ := run_bind_ok h
  obtain ⟨hn, rfl⟩ := run_lift_ok h
  obtain ⟨-, rfl⟩ := ofContents_ok hn
  exact spells_expect integerTag hexpect

/-- What a reader of natural numbers takes is an integer in shortest form. -/
theorem naturalReader_ok {input rest : Bytes} {n : Nat}
    (h : naturalReader.run input = .ok (n, rest)) :
    ∃ contents, isShortest contents = true ∧ natural? ⟨contents⟩ = some n ∧
      input = (toElement ⟨contents⟩).write ++ rest := by
  obtain ⟨i, mid, hi, h⟩ := run_bind_ok h
  -- the spelling is that of the integer; the reader then asks for its sign and takes nothing
  have hspell := spells_reader hi
  obtain ⟨contents, _, _, hi⟩ := run_bind_ok hi
  obtain ⟨hshort, rfl⟩ := ofContents_ok (run_lift_ok hi).1
  refine ⟨contents, hshort, ?_⟩
  split at h
  · rename_i m hm
    obtain ⟨rfl, rfl⟩ := run_pure_ok h
    exact ⟨hm, hspell⟩
  · cases h

/-- The same with nothing behind the number. -/
theorem within_naturalReader_ok {contents : Bytes} {n : Nat}
    (h : within naturalReader contents = .ok n) :
    ∃ octets, isShortest octets = true ∧ natural? ⟨octets⟩ = some n ∧
      contents = (toElement ⟨octets⟩).write := by
  obtain ⟨octets, hshort, hvalue, hspell⟩ := naturalReader_ok (within_ok h)
  exact ⟨octets, hshort, hvalue, by rw [hspell, List.append_nil]⟩

/-- A number that is not below zero is the one that its octets spell. -/
theorem toNat_of_natural? {i : Integer} {n : Nat} (h : natural? i = some n) :
    Bytes.toNat i.contents = n := by
  unfold natural? at h
  split at h
  · cases h
  · exact Option.some.inj h

/-- Two or more octets in shortest form spell at least 128, if the sign is not looked at: the
first one counts, or the second one has its top bit set. -/
theorem le_toNat_of_isShortest {a b : UInt8} {rest : Bytes}
    (h : isShortest (a :: b :: rest) = true) : 0x80 ≤ Bytes.toNat (a :: b :: rest) := by
  have hpos : 0 < 256 ^ rest.length := Nat.pow_pos (by decide)
  simp only [isShortest, Bool.and_eq_true, Bool.not_eq_true', Bool.and_eq_false_iff,
    beq_eq_false_iff_ne, decide_eq_false_iff_not] at h
  rw [Bytes.toNat_cons, Bytes.toNat_cons, List.length_cons, Nat.pow_succ]
  rcases h.1 with ha | hb
  · -- the first octet is not zero, and it weighs 256 at least
    have ha' : 1 ≤ a.toNat :=
      Nat.one_le_iff_ne_zero.mpr fun h0 => ha (UInt8.toNat_inj.mp h0)
    have hm := Nat.mul_le_mul_right (256 ^ rest.length * 256) ha'
    omega
  · -- the first octet may be zero, but then the second is not below 128
    have hb' : 0x80 ≤ b.toNat := by
      rw [UInt8.lt_iff_toNat_lt] at hb
      exact Nat.le_of_not_lt hb
    have hm := Nat.mul_le_mul_right (256 ^ rest.length) hb'
    omega

/-- **A small number has one octet.** -/
theorem contents_eq_of_natural? {contents : Bytes} {n : Nat} (hs : isShortest contents = true)
    (hn : natural? ⟨contents⟩ = some n) (hlt : n < 0x80) : contents = [UInt8.ofNat n] := by
  have hval : Bytes.toNat contents = n := toNat_of_natural? hn
  -- a single octet is the number itself, and with two or more the number is too large
  match contents, hs with
  | [a], _ =>
    rw [Bytes.toNat_cons, List.length_nil, Nat.pow_zero, Nat.mul_one] at hval
    rw [← hval, show Bytes.toNat [] = 0 from rfl, Nat.add_zero, UInt8.ofNat_toNat]
  | a :: b :: rest, hs =>
    have := le_toNat_of_isShortest hs
    omega

end Integer

/-! ### Bit strings and truth values -/

namespace BitString

/-- A bit string holds its octets, the one that counts the unused bits with them. -/
theorem spellsAll_ofContents : SpellsAll ofContents contents := by
  intro octets bits h
  match octets, h with
  | unused :: rest, h =>
    rw [ofContents] at h
    split at h
    · cases h
    · -- whatever is asked of the unused bits, the octets are kept as they are
      split at h <;> split at h <;> cases h <;> rfl

/-- A bit string is written as it was read. -/
theorem spells_reader : Spells BitString.reader fun bits => bits.toElement.write := by
  intro input rest bits h
  obtain ⟨octets, mid, hexpect, h⟩ := run_bind_ok h
  obtain ⟨hbits, rfl⟩ := run_lift_ok h
  rw [spells_expect bitStringTag hexpect, spellsAll_ofContents hbits]
  rfl

end BitString

/-- Truth has one spelling. -/
theorem contents_of_booleanOfContents {contents : Bytes}
    (h : booleanOfContents contents = .ok true) : contents = [0xFF] := by
  unfold booleanOfContents at h
  -- a truth value is one octet: all bits for true, none for false, and nothing else
  split at h
  · split at h
    · rename_i hb
      rw [hb]
    · split at h <;> cases h
  · cases h

/-! ### Points in time -/

namespace Time

/-- The element of a time can be made again, since the form of the time tells its tag. -/
theorem eq_toElement_of_ofElement {e : Element} {time : Time} (h : ofElement e = .ok time) :
    e = time.toElement := by
  unfold ofElement at h
  simp only at h
  -- there are two kinds of time, and the kind is held together with the contents
  split at h
  · rename_i htag
    split at h
    · cases h
      exact Element.eq_make_of_hasTag htag
    · cases h
  · split at h
    · rename_i htag
      split at h
      · cases h
        exact Element.eq_make_of_hasTag htag
      · cases h
    · cases h

/-- A time is written as it was read, in the form that it has. -/
theorem spells_reader : Spells Time.reader fun time => time.toElement.write := by
  intro input rest time h
  obtain ⟨e, mid, he, h⟩ := run_bind_ok h
  obtain ⟨htime, rfl⟩ := run_lift_ok h
  rw [spells_anyElement he, eq_toElement_of_ofElement htime]

end Time
end Der

/-! ### Object identifiers -/

namespace Oid

/-- An identifier is written as it was read. -/
theorem spells_reader : Der.Spells Oid.reader fun oid => oid.toElement.write := by
  intro input rest oid h
  obtain ⟨contents, mid, hexpect, h⟩ := Der.run_bind_ok h
  obtain ⟨hoid, rfl⟩ := Der.run_lift_ok h
  unfold ofContents at hoid
  -- identifiers are checked, but they are held by their contents
  split at hoid
  · cases hoid
  · split at hoid
    · cases hoid
      exact Der.spells_expect Der.oidTag hexpect
    · cases hoid

end Oid
end CertChain
