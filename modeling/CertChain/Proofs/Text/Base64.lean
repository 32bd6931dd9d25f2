import CertChain.Text.Base64
import CertChain.Text.Blank

/-!
# Base64 is read back

`Base64.decode?_encode` says that every octet string comes back from its characters. The
proof goes group by group: a group of three octets is four digits, each of which is its
six-bit number again, and from the four numbers the three octets come together.

Nothing else is read as these octets: their characters are the only ones
(`Base64.decode?_eq_some_iff`), since the reader wants the bits that are left over in the
last digit to be zero and the padding to be there.

The last part of the file is about the characters themselves. What is written consists of
the sixty-four digits and the sign for padding (`Base64.isLetter_of_mem_encode`), so the
armour around it can tell it from line ends, white space and dashes. All that is ever used of
a letter is the range of its number (`Base64.range_of_isLetter`).
-/

namespace CertChain
namespace Base64

/-! ### Digits -/

/-- A digit has the number that it is the digit of. -/
theorem value?_digit {n : Nat} (h : n < 64) : value? (digit n) = some n := by
  -- there are sixty-four digits
  revert n
  decide

/-- The sign for padding is no digit. -/
theorem digit_ne_padding {n : Nat} (h : n < 64) : digit n ≠ '=' := by
  revert n
  decide

/-! ### Groups -/

variable (a b c : UInt8)

/-- The first octet of a group is in the first two digits. -/
theorem octet_first (k : Nat) (hk : k < 16) :
    UInt8.ofNat (a.toNat / 4 * 4 + (a.toNat % 4 * 16 + k) / 16) = a := by
  have h : a.toNat / 4 * 4 + (a.toNat % 4 * 16 + k) / 16 = a.toNat := by omega
  rw [h, UInt8.ofNat_toNat]

/-- The second octet of a group is in the two digits in the middle. -/
theorem octet_second (j k : Nat) (hk : k < 4) :
    UInt8.ofNat ((j * 16 + b.toNat / 16) % 16 * 16 + (b.toNat % 16 * 4 + k) / 4) = b := by
  have hb := b.toNat_lt
  have h : (j * 16 + b.toNat / 16) % 16 * 16 + (b.toNat % 16 * 4 + k) / 4 = b.toNat := by omega
  rw [h, UInt8.ofNat_toNat]

/-- The third octet of a group is in the last two digits. -/
theorem octet_third (j : Nat) :
    UInt8.ofNat ((j * 4 + c.toNat / 64) % 4 * 64 + c.toNat % 64) = c := by
  have hc := c.toNat_lt
  have h : (j * 4 + c.toNat / 64) % 4 * 64 + c.toNat % 64 = c.toNat := by omega
  rw [h, UInt8.ofNat_toNat]

/-- A single octet comes back from two digits and two signs for padding. -/
theorem decode?_one : decode? (encode [a]) = some [a] := by
  have ha := a.toNat_lt
  have hx : value? (digit (a.toNat / 4)) = some (a.toNat / 4) := value?_digit (by omega)
  have hy : value? (digit (a.toNat % 4 * 16)) = some (a.toNat % 4 * 16) :=
    value?_digit (by omega)
  -- the bits that fill up the second digit are zeros
  have hfirst := octet_first a 0 (by decide)
  simp only [encode, decode?, last?, hx, hy]
  simpa using hfirst

/-- Two octets come back from three digits and one sign. -/
theorem decode?_two : decode? (encode [a, b]) = some [a, b] := by
  have ha := a.toNat_lt
  have hb := b.toNat_lt
  have hx : value? (digit (a.toNat / 4)) = some (a.toNat / 4) := value?_digit (by omega)
  have hy := value?_digit (n := a.toNat % 4 * 16 + b.toNat / 16) (by omega)
  have hz := value?_digit (n := b.toNat % 16 * 4) (by omega)
  have hpad := digit_ne_padding (n := b.toNat % 16 * 4) (by omega)
  -- the first two octets share a digit, and zeros fill up the third one
  have hfirst := octet_first a (b.toNat / 16) (by omega)
  have hsecond := octet_second b (a.toNat % 4) 0 (by decide)
  simp only [encode, decode?, last?, hx, hy, hz, hpad]
  simp_all

/-- Four digits, with or without something behind them, are the three octets. -/
theorem decode?_three (rest : List Char) (tail : Bytes) (h : decode? rest = some tail) :
    decode? (digit (a.toNat / 4) :: digit (a.toNat % 4 * 16 + b.toNat / 16)
      :: digit (b.toNat % 16 * 4 + c.toNat / 64) :: digit (c.toNat % 64) :: rest)
      = some (a :: b :: c :: tail) := by
  have ha := a.toNat_lt
  have hb := b.toNat_lt
  have hc := c.toNat_lt
  have hx : value? (digit (a.toNat / 4)) = some (a.toNat / 4) := value?_digit (by omega)
  have hy := value?_digit (n := a.toNat % 4 * 16 + b.toNat / 16) (by omega)
  have hz := value?_digit (n := b.toNat % 16 * 4 + c.toNat / 64) (by omega)
  have hw := value?_digit (n := c.toNat % 64) (by omega)
  -- each octet is put together from two neighbouring digits
  have hfirst := octet_first a (b.toNat / 16) (by omega)
  have hsecond := octet_second b (a.toNat % 4) (c.toNat / 64) (by omega)
  have hthird := octet_third c (b.toNat % 16)
  -- only the last group may be padded, so the decoder looks whether this is the last one
  cases rest with
  | nil =>
    cases h
    have hpad := digit_ne_padding (n := b.toNat % 16 * 4 + c.toNat / 64) (by omega)
    have hpad' := digit_ne_padding (n := c.toNat % 64) (by omega)
    simp only [decode?, last?, hx, hy, hz, hw]
    simp_all
  | cons d rest =>
    simp only [decode?, hx, hy, hz, hw, h]
    simp_all

/-- **Octets come back** from their characters. -/
theorem decode?_encode (bytes : Bytes) : decode? (encode bytes) = some bytes := by
  -- on the groups of the encoder, of which only the last may be short
  fun_induction encode bytes with
  | case1 a b c rest ih => exact decode?_three a b c (encode rest) rest ih
  | case2 a b => exact decode?_two a b
  | case3 a => exact decode?_one a
  | case4 => rfl

/-! ### One written form -/

/-- A character has a number only as the digit of that number. -/
theorem digit_of_value? {c : Char} {n : Nat} (h : value? c = some n) : digit n = c ∧ n < 64 := by
  have hback : Char.ofNat c.toNat = c := Char.ofNat_toNat c
  simp only [value?] at h
  -- capitals, small letters, decimal digits, and the two signs
  split at h
  · cases h
    rw [digit, if_pos (by omega), show 65 + (c.toNat - 65) = c.toNat by omega]
    exact ⟨hback, by omega⟩
  · split at h
    · cases h
      rw [digit, if_neg (by omega), if_pos (by omega),
        show 71 + (c.toNat - 71) = c.toNat by omega]
      exact ⟨hback, by omega⟩
    · split at h
      · cases h
        rw [digit, if_neg (by omega), if_neg (by omega), if_pos (by omega), Nat.add_sub_cancel]
        exact ⟨hback, by omega⟩
      · split at h
        · rename_i hplus
          cases h
          exact ⟨hplus.symm, by decide⟩
        · split at h
          · rename_i hslash
            cases h
            exact ⟨hslash.symm, by decide⟩
          · cases h

section Groups

variable {x y z w : Nat}

/-- The octets of a group have its digits. -/
theorem encode_three (hx : x < 64) (hy : y < 64) (hz : z < 64) (hw : w < 64) (tail : Bytes) :
    encode (UInt8.ofNat (x * 4 + y / 16) :: UInt8.ofNat (y % 16 * 16 + z / 4)
      :: UInt8.ofNat (z % 4 * 64 + w) :: tail)
      = digit x :: digit y :: digit z :: digit w :: encode tail := by
  -- an octet gives back its digits, since a digit has six bits
  rw [encode]
  simp only [UInt8.toNat_ofNat']
  rw [show (x * 4 + y / 16) % 2 ^ 8 / 4 = x by omega,
    show (x * 4 + y / 16) % 2 ^ 8 % 4 * 16 + (y % 16 * 16 + z / 4) % 2 ^ 8 / 16 = y by omega,
    show (y % 16 * 16 + z / 4) % 2 ^ 8 % 16 * 4 + (z % 4 * 64 + w) % 2 ^ 8 / 64 = z by omega,
    show (z % 4 * 64 + w) % 2 ^ 8 % 64 = w by omega]

/-- Two octets have these digits, if the last of them leaves no bits over. -/
theorem encode_two (hx : x < 64) (hy : y < 64) (hz : z < 64) (hfill : z % 4 = 0) :
    encode [UInt8.ofNat (x * 4 + y / 16), UInt8.ofNat (y % 16 * 16 + z / 4)]
      = [digit x, digit y, digit z, '='] := by
  rw [encode]
  simp only [UInt8.toNat_ofNat']
  rw [show (x * 4 + y / 16) % 2 ^ 8 / 4 = x by omega,
    show (x * 4 + y / 16) % 2 ^ 8 % 4 * 16 + (y % 16 * 16 + z / 4) % 2 ^ 8 / 16 = y by omega,
    show (y % 16 * 16 + z / 4) % 2 ^ 8 % 16 * 4 = z by omega]

/-- One octet has these digits, if the second of them leaves no bits over. -/
theorem encode_one (hx : x < 64) (hy : y < 64) (hfill : y % 16 = 0) :
    encode [UInt8.ofNat (x * 4 + y / 16)] = [digit x, digit y, '=', '='] := by
  rw [encode]
  simp only [UInt8.toNat_ofNat']
  rw [show (x * 4 + y / 16) % 2 ^ 8 / 4 = x by omega,
    show (x * 4 + y / 16) % 2 ^ 8 % 4 * 16 = y by omega]

end Groups

/-- The last group is what its octets are written as. -/
theorem encode_of_last? {a b c d : Char} {bytes : Bytes} (h : last? a b c d = some bytes) :
    encode bytes = [a, b, c, d] := by
  simp only [last?, Option.bind_eq_bind, Option.bind_eq_some_iff] at h
  obtain ⟨x, hx, y, hy, h⟩ := h
  obtain ⟨rfl, hx'⟩ := digit_of_value? hx
  obtain ⟨rfl, hy'⟩ := digit_of_value? hy
  split at h
  · -- two signs for padding, and no bits under them
    rename_i hpads
    obtain ⟨rfl, rfl⟩ := hpads
    split at h
    · rename_i hfill
      cases h
      exact encode_one hx' hy' hfill
    · cases h
  · simp only [Option.bind_eq_some_iff] at h
    obtain ⟨z, hz, h⟩ := h
    obtain ⟨rfl, hz'⟩ := digit_of_value? hz
    split at h
    · -- one sign
      rename_i hpad
      subst hpad
      split at h
      · rename_i hfill
        cases h
        exact encode_two hx' hy' hz' hfill
      · cases h
    · -- none
      simp only [Option.bind_eq_some_iff, Option.some.injEq] at h
      obtain ⟨w, hw, rfl⟩ := h
      obtain ⟨rfl, hw'⟩ := digit_of_value? hw
      exact encode_three hx' hy' hz' hw' []

/-- **Octets have one written form**: what is read is what is written. -/
theorem encode_of_decode? {cs : List Char} {bytes : Bytes} (h : decode? cs = some bytes) :
    encode bytes = cs := by
  -- on the groups of the decoder, where the last one is looked at with its padding
  fun_induction decode? cs generalizing bytes with
  | case1 =>
    cases h
    rfl
  | case2 a b c d => exact encode_of_last? h
  | case3 a b c d rest hmore ih =>
    simp only [Option.bind_eq_bind, Option.bind_eq_some_iff, Option.pure_def,
      Option.some.injEq] at h
    obtain ⟨x, hx, y, hy, z, hz, w, hw, tail, htail, rfl⟩ := h
    obtain ⟨rfl, hx'⟩ := digit_of_value? hx
    obtain ⟨rfl, hy'⟩ := digit_of_value? hy
    obtain ⟨rfl, hz'⟩ := digit_of_value? hz
    obtain ⟨rfl, hw'⟩ := digit_of_value? hw
    rw [encode_three hx' hy' hz' hw', ih htail]
  | case4 => cases h

/-- **Octets are read from the characters that they are written in, and from no others.** -/
theorem decode?_eq_some_iff {cs : List Char} {bytes : Bytes} :
    decode? cs = some bytes ↔ cs = encode bytes := by
  constructor
  · intro h
    exact (encode_of_decode? h).symm
  · rintro rfl
    exact decode?_encode bytes

/-! ### Letters -/

/-- The characters that base64 is written in. -/
def isLetter (c : Char) : Bool :=
  (value? c).isSome || c == '='

/-- A digit is a letter. -/
theorem isLetter_digit {n : Nat} (h : n < 64) : isLetter (digit n) = true := by
  rw [isLetter, value?_digit h]
  rfl

/-- Everything that is written is letters. -/
theorem isLetter_of_mem_encode {bytes : Bytes} {c : Char} (h : c ∈ encode bytes) :
    isLetter c = true := by
  fun_induction encode bytes with
  | case1 a b c rest ih =>
    have ha := a.toNat_lt
    have hb := b.toNat_lt
    have hc := c.toNat_lt
    simp only [List.mem_cons] at h
    rcases h with rfl | rfl | rfl | rfl | h
    · exact isLetter_digit (by omega)
    · exact isLetter_digit (by omega)
    · exact isLetter_digit (by omega)
    · exact isLetter_digit (by omega)
    · exact ih h
  | case2 a b =>
    have ha := a.toNat_lt
    have hb := b.toNat_lt
    simp only [List.mem_cons, List.not_mem_nil, or_false] at h
    rcases h with rfl | rfl | rfl | rfl
    · exact isLetter_digit (by omega)
    · exact isLetter_digit (by omega)
    · exact isLetter_digit (by omega)
    · rfl
  | case3 a =>
    have ha := a.toNat_lt
    simp only [List.mem_cons, List.not_mem_nil, or_false] at h
    rcases h with rfl | rfl | rfl | rfl
    · exact isLetter_digit (by omega)
    · exact isLetter_digit (by omega)
    · rfl
    · rfl
  | case4 => cases h

/-- **Letters stand in ASCII**, apart from blanks, line ends, the dash and the colon. -/
theorem range_of_isLetter {c : Char} (h : isLetter c = true) :
    c.toNat = 43 ∨ (47 ≤ c.toNat ∧ c.toNat ≤ 57) ∨ c.toNat = 61
      ∨ (65 ≤ c.toNat ∧ c.toNat ≤ 90) ∨ (97 ≤ c.toNat ∧ c.toNat ≤ 122) := by
  simp only [isLetter, value?, Bool.or_eq_true, beq_iff_eq] at h
  -- capitals, small letters, decimal digits, the two signs, and the sign for padding
  rcases h with h | rfl
  · split at h
    · omega
    · split at h
      · omega
      · split at h
        · omega
        · split at h
          · rename_i hc
            exact .inl (congrArg Char.toNat hc)
          · split at h
            · rename_i hc
              exact .inr (.inl (by rw [hc]; decide))
            · cases h
  · decide

/-- No letter is a blank. -/
theorem not_isWhiteSpace_of_isLetter {c : Char} (h : isLetter c = true) :
    isWhiteSpace c = false := by
  have hrange := range_of_isLetter h
  rw [← Bool.not_eq_true]
  intro hwhite
  simp only [isWhiteSpace, Bool.or_eq_true, Bool.and_eq_true, decide_eq_true_eq, beq_iff_eq]
    at hwhite
  -- no range of letters meets one of blanks
  omega

end Base64
end CertChain
