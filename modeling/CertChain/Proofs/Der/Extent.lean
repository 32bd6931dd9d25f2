import CertChain.Certificate.Document
import CertChain.Proofs.Der.Element

/-!
# An element ends by itself

The octets of an element say how many they are, so whoever reads one need not know what comes
after it: what was read is read again when something is put behind it (`Stops`). Not every
reader is like that. One that takes an element if there is another one left, or that wants to
have taken everything, looks at where its input ends. But a sequence is one element, whatever
the reader of its contents does, and so every reader of a sequence stops
(`stops_sequence`).

A reader that stops, and that must take all of its input, takes no octets that continue those
it took before (`within_append`): no two inputs that it takes are one the beginning of the
other. For documents this is `Document.read_append`.
-/

namespace CertChain
namespace Der

variable {α β : Type}

/-- **A reader that stops by itself**, and so does not see what is put behind. -/
def Stops (reader : Reader α) : Prop :=
  ∀ ⦃input rest : Bytes⦄ ⦃a : α⦄, reader.run input = .ok (a, rest) →
    ∀ more, reader.run (input ++ more) = .ok (a, rest ++ more)

/-! ### Identifiers and lengths -/

/-- Digits end with the first octet whose top bit is not set, whatever follows. -/
theorem takeBase128_append {input digits rest : Bytes}
    (h : takeBase128 input = some (digits, rest)) (more : Bytes) :
    takeBase128 (input ++ more) = some (digits, rest ++ more) := by
  -- octet by octet, since the last digit is known when it is seen
  induction input generalizing digits with
  | nil => cases h
  | cons b tail ih =>
    rw [takeBase128] at h
    rw [List.cons_append, takeBase128]
    split at h
    · -- the last digit
      rename_i hlast
      cases h
      rw [if_pos hlast]
    · -- a digit that others follow
      rename_i hmore
      obtain ⟨⟨d, r⟩, hd, he⟩ := Option.map_eq_some_iff.mp h
      cases he
      rw [if_neg hmore, ih hd]
      rfl

/-- Identifiers end by themselves. -/
theorem takeIdentifier_append {input identifier rest : Bytes}
    (h : takeIdentifier input = .ok (identifier, rest)) (more : Bytes) :
    takeIdentifier (input ++ more) = .ok (identifier, rest ++ more) := by
  cases input with
  | nil => cases h
  | cons lead tail =>
    rw [takeIdentifier] at h
    rw [List.cons_append, takeIdentifier]
    split at h
    · rename_i hshort
      cases h
      rw [if_pos hshort]
    · rename_i hlong
      rw [if_neg hlong]
      -- the tag number follows, and it has to be in shortest form
      split at h
      · cases h
      · rename_i digits after hdigits
        rw [takeBase128_append hdigits more]
        split at h
        · cases h
        · rename_i hshortest
          cases h
          exact if_neg hshortest

/-- A length tells by its first octet how many octets it has. -/
theorem takeLength_append {input rest : Bytes} {n : Nat}
    (h : takeLength input = .ok (n, rest)) (more : Bytes) :
    takeLength (input ++ more) = .ok (n, rest ++ more) := by
  cases input with
  | nil => cases h
  | cons lead tail =>
    simp only [takeLength] at h
    rw [List.cons_append]
    simp only [takeLength]
    split at h
    · rename_i hshort
      cases h
      rw [if_pos hshort]
    · rename_i hlong
      rw [if_neg hlong]
      split at h
      · cases h
      · rename_i hwidth
        rw [if_neg hwidth]
        split at h
        · cases h
        · -- all octets of the length are there, so none is taken from behind
          rename_i hroom
          have hle : lead.toNat - 0x80 ≤ tail.length := Nat.le_of_not_lt hroom
          have hroom' : ¬ (tail ++ more).length < lead.toNat - 0x80 := by
            rw [List.length_append]
            omega
          rw [if_neg hroom', List.take_append_of_le_length hle, List.drop_append_of_le_length hle]
          split at h
          · cases h
          · rename_i hshortest
            simp only [Except.ok.injEq, Prod.mk.injEq] at h
            obtain ⟨rfl, rfl⟩ := h
            rw [if_neg hshortest]

/-! ### Elements -/

/-- **An element is read again** when something is put behind it. -/
theorem Element.read_append {input rest : Bytes} {e : Element} (h : read input = .ok (e, rest))
    (more : Bytes) : read (input ++ more) = .ok (e, rest ++ more) := by
  unfold read at h
  obtain ⟨⟨identifier, afterIdentifier⟩, hi, h⟩ := bind_ok h
  obtain ⟨⟨length, afterLength⟩, hl, h⟩ := bind_ok h
  simp only at hl h
  split at h
  · cases h
  · -- the contents are as long as they say, so none of them is taken from behind
    rename_i hroom
    cases h
    have hle : length ≤ afterLength.length := Nat.le_of_not_lt hroom
    have hroom' : ¬ (afterLength ++ more).length < length := by
      rw [List.length_append]
      omega
    unfold read
    rw [takeIdentifier_append hi more]
    simp only [bind, Except.bind, takeLength_append hl more]
    rw [if_neg hroom', List.take_append_of_le_length hle, List.drop_append_of_le_length hle]
    rfl

/-! ### Readers -/

/-- A reader of elements stops. -/
theorem stops_anyElement : Stops anyElement :=
  fun _ _ _ h more => Element.read_append h more

/-- A reader goes on with what the one before it has left. -/
theorem run_bind_eq {r : Reader α} {f : α → Reader β} {input rest : Bytes} {a : α}
    (h : r.run input = .ok (a, rest)) : (r >>= f).run input = (f a).run rest := by
  rw [StateT.run_bind, h]
  rfl

/-- A reader of elements of a kind stops. -/
theorem stops_expect (tag : UInt8) : Stops (expect tag) := by
  intro input rest contents h more
  obtain ⟨e, mid, he, h⟩ := run_bind_ok h
  unfold expect
  rw [run_bind_eq (stops_anyElement he more)]
  -- whether it is of the kind that was expected depends on the element only
  split at h
  · rename_i htag
    obtain ⟨rfl, rfl⟩ := run_pure_ok h
    rw [if_pos htag]
    rfl
  · cases h

/-- **Sequences stop**, whatever their contents are read by. -/
theorem stops_sequence (reader : Reader α) : Stops (sequence reader) := by
  intro input rest a h more
  obtain ⟨contents, mid, hexpect, h⟩ := run_bind_ok h
  obtain ⟨hwithin, rfl⟩ := run_lift_ok h
  unfold sequence
  -- the contents are the same octets, and the reader of contents sees nothing else
  rw [run_bind_eq (stops_expect sequenceTag hexpect more), hwithin]
  rfl

/-- **Nothing may be left over**, and so nothing may be added. -/
theorem within_append {reader : Reader α} (hstops : Stops reader) {input : Bytes} {a : α}
    (h : within reader input = .ok a) {more : Bytes} (hmore : more ≠ []) :
    within reader (input ++ more) = .error .trailingData := by
  -- the reader stops where it stopped before, and now something is left
  have hrun := hstops (within_ok h) more
  rw [within, hrun]
  simp only [bind, Except.bind, List.nil_append]
  rw [if_neg (by rw [List.isEmpty_iff]; exact hmore)]
  rfl

/-! ### Written forms tell contents apart -/

/-- A larger length is not written shorter. -/
theorem length_writeLength_mono {n m : Nat} (h : n ≤ m) :
    (writeLength n).length ≤ (writeLength m).length := by
  -- both lengths are short, or the longer one has at least as many octets as the other
  have hwidth := Bytes.widthOf_mono h
  unfold writeLength
  split
  · split
    · exact Nat.le_refl _
    · exact Nat.le_add_left _ _
  · rename_i hlong
    rw [if_neg (fun hshort => hlong (Nat.lt_of_le_of_lt h hshort))]
    simp only [List.length_cons, Bytes.length_ofNat]
    omega

/-- **The written form tells what is in an element.** -/
theorem Element.write_make_injective (tag : UInt8) :
    Function.Injective fun contents => (make tag contents).write := by
  intro contents contents' hsame
  have hforms : writeLength contents.length ++ contents
      = writeLength contents'.length ++ contents' := List.cons.inj hsame |>.2
  -- longer contents have no shorter length in front of them
  have hlength : contents.length = contents'.length := by
    have htotal := congrArg List.length hforms
    rw [List.length_append, List.length_append] at htotal
    rcases Nat.le_total contents.length contents'.length with hle | hle
    · have hmono := length_writeLength_mono hle
      omega
    · have hmono := length_writeLength_mono hle
      omega
  rw [hlength] at hforms
  exact List.append_cancel_left hforms

/-- **What is read off a sequence is told by how it is written**, wherever the sequence stands. -/
theorem Spells.eq_of_write_eq {reader : Reader α} {write : α → Bytes}
    (hspells : Spells (sequence reader) write) {input input' rest rest' : Bytes} {a a' : α}
    (h : (sequence reader).run input = .ok (a, rest))
    (h' : (sequence reader).run input' = .ok (a', rest')) (hsame : write a = write a') :
    a = a' := by
  have hwritten := hspells h
  have hwritten' := hspells h'
  obtain ⟨contents, mid, hexpect, hlift⟩ := run_bind_ok h
  obtain ⟨contents', mid', hexpect', hlift'⟩ := run_bind_ok h'
  obtain ⟨hwithin, rfl⟩ := run_lift_ok hlift
  obtain ⟨hwithin', rfl⟩ := run_lift_ok hlift'
  -- both written forms are those of the element that the contents stand in
  rw [spells_expect sequenceTag hexpect] at hwritten
  rw [spells_expect sequenceTag hexpect', ← hsame] at hwritten'
  have hcontents : contents = contents' := by
    apply Element.write_make_injective sequenceTag
    exact (List.append_cancel_right hwritten).trans (List.append_cancel_right hwritten').symm
  rw [hcontents, hwithin'] at hwithin
  exact (Except.ok.inj hwithin).symm

end Der

namespace Document

/-- **No document continues another one.** -/
theorem read_append {input more : Bytes} {d : Document} (h : read input = .ok d)
    (hmore : more ≠ []) : read (input ++ more) = .error .trailingData :=
  Der.within_append (Der.stops_sequence _) h hmore

end Document
end CertChain
