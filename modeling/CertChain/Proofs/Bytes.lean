import Mathlib.Algebra.Group.Nat.Defs
import CertChain.Bytes

/-!
# Octets and the numbers they spell

On octet strings of one length, `Bytes.toNat` and `Bytes.ofNat` undo each other:
`Bytes.ofNat_toNat` gives back the octets of a number that was read off them. The
width of a number is settled by the two powers of 256 that it lies between
(`Bytes.widthOf_eq`), so a number that was read off octets without needless ones in
front has exactly their width.
-/

namespace CertChain
namespace Bytes

/-- What has been read so far counts with the weight of all octets that follow. -/
theorem foldl_toNat (bytes : Bytes) (n : Nat) :
    bytes.foldl (fun n b => 256 * n + b.toNat) n = n * 256 ^ bytes.length + toNat bytes := by
  unfold toNat
  -- the fold starts from another number in each step, so the claim is about all of them
  induction bytes generalizing n with
  | nil => simp
  | cons b rest ih =>
    rw [List.foldl_cons, List.foldl_cons, ih, ih (256 * 0 + b.toNat), List.length_cons,
      Nat.pow_succ]
    simp only [Nat.mul_zero, Nat.zero_add, Nat.add_mul]
    have : 256 * n * 256 ^ rest.length = n * (256 ^ rest.length * 256) := by
      rw [Nat.mul_comm 256 n, Nat.mul_assoc, Nat.mul_comm 256]
    omega

/-- The first octet counts with the weight of all octets behind it. -/
theorem toNat_cons (b : UInt8) (bytes : Bytes) :
    toNat (b :: bytes) = b.toNat * 256 ^ bytes.length + toNat bytes := by
  have h := foldl_toNat bytes b.toNat
  simpa [toNat] using h

/-- So many octets spell a number below that power of 256. -/
theorem toNat_lt (bytes : Bytes) : toNat bytes < 256 ^ bytes.length := by
  -- on the octets from the front, where each counts for more than all behind it
  induction bytes with
  | nil => simp [toNat]
  | cons b rest ih =>
    have hb : b.toNat ≤ 255 := Nat.le_of_lt_succ b.toNat_lt
    have hm := Nat.mul_le_mul_right (256 ^ rest.length) hb
    rw [toNat_cons, List.length_cons, Nat.pow_succ]
    omega

/-- To drop octets is to divide by a power of 256. -/
theorem shiftRight_eight (n width : Nat) : n >>> (8 * width) = n / 256 ^ width := by
  rw [Nat.shiftRight_eq_div_pow, Nat.pow_mul]

/-- Only the last `width` octets of a number are written. -/
theorem ofNat_add_mul (width k n : Nat) :
    ofNat width (k * 256 ^ width + n) = ofNat width n := by
  induction width generalizing k with
  | zero => rfl
  | succ width ih =>
    have hpos : 0 < 256 ^ width := Nat.pow_pos (by decide)
    -- one octet less is written, so one octet more is dropped
    have hk : k * 256 ^ (width + 1) = k * 256 * 256 ^ width := by
      rw [Nat.pow_succ, Nat.mul_comm (256 ^ width), Nat.mul_assoc]
    rw [ofNat, ofNat, hk, ih, shiftRight_eight, shiftRight_eight, Nat.add_comm,
      Nat.add_mul_div_right _ _ hpos]
    congr 1
    -- the octet in front is what is left of the number modulo 256
    apply UInt8.toNat_inj.mp
    simp only [UInt8.toNat_ofNat']
    omega

/-- **Octets come back** from the number they spell. -/
theorem ofNat_toNat (bytes : Bytes) : ofNat bytes.length (toNat bytes) = bytes := by
  induction bytes with
  | nil => rfl
  | cons b rest ih =>
    have hpos : 0 < 256 ^ rest.length := Nat.pow_pos (by decide)
    have hlt := toNat_lt rest
    -- the octets behind spell too little to touch the one in front
    rw [toNat_cons, List.length_cons, ofNat, ofNat_add_mul, ih, shiftRight_eight, Nat.add_comm,
      Nat.add_mul_div_right _ _ hpos, Nat.div_eq_of_lt hlt, Nat.zero_add, UInt8.ofNat_toNat]

/-- A number's width is read off the powers of 256 around it. -/
theorem widthOf_eq {n width : Nat} (hle : 256 ^ width ≤ n) (hlt : n < 256 ^ (width + 1)) :
    widthOf n = width + 1 := by
  have hpos : 0 < 256 ^ width := Nat.pow_pos (by decide)
  have hn : n ≠ 0 := by omega
  -- the width is a quotient of the binary logarithm, which the two powers enclose
  have hlow : 8 * width ≤ n.log2 := by
    rw [Nat.le_log2 hn, Nat.pow_mul]
    exact hle
  have hhigh : n.log2 < 8 * (width + 1) := by
    rw [Nat.log2_lt hn, Nat.pow_mul]
    exact hlt
  rw [widthOf, if_neg hn]
  omega

/-- A larger number is not narrower. -/
theorem widthOf_mono {n m : Nat} (h : n ≤ m) : widthOf n ≤ widthOf m := by
  by_cases hzero : n = 0
  · rw [hzero]
    exact Nat.zero_le _
  · have hm : m ≠ 0 := by omega
    have hlog : n.log2 ≤ m.log2 :=
      (Nat.le_log2 hm).mpr (Nat.le_trans (Nat.log2_self_le hzero) h)
    rw [widthOf, widthOf, if_neg hzero, if_neg hm]
    omega

/-! ### Hexadecimal -/

/-- The sixteen digits. -/
def hexDigits : List Char :=
  "0123456789abcdef".toList

/-- **A text in lower-case hexadecimal**: two digits for each octet, the first of which counts
sixteen times as much. -/
inductive InHex : Bytes → List Char → Prop where
  | nil : InHex [] []
  | cons {b : UInt8} {bytes : Bytes} {high low : Char} {text : List Char}
      (hhigh : hexDigits[b.toNat / 16]? = some high) (hlow : hexDigits[b.toNat % 16]? = some low)
      (hrest : InHex bytes text) : InHex (b :: bytes) (high :: low :: text)

/-- The digit of a number is at its place among the sixteen. -/
theorem hexDigits_getElem? {n : Nat} (h : n < 16) : hexDigits[n]? = some (hexDigit n) := by
  -- there are sixteen digits
  revert n
  decide

/-- Octets are written in hexadecimal, two digits each. -/
theorem inHex_hex (bytes : Bytes) : InHex bytes (hex bytes).toList := by
  rw [hex, String.toList_ofList]
  induction bytes with
  | nil => exact .nil
  | cons b rest ih =>
    have hb := b.toNat_lt
    exact .cons (hexDigits_getElem? (by omega)) (hexDigits_getElem? (by omega)) ih

end Bytes
end CertChain
