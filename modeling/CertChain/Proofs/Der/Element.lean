import CertChain.Der.Element
import CertChain.Proofs.Bytes
import CertChain.Proofs.Outcome

/-!
# Every element has one written form

The encoding is distinguished: what a reader takes off the front of its input is the
written form of what it found, octet for octet. This file proves it for elements and for
the ways in which readers are put together, so that the readers of names, algorithms and
documents inherit it.

* `Spells reader write` says it of a reader that hands on the rest of its input, and
  `SpellsAll read write` of one that wants all of it.
* `takeIdentifier_spells` and `takeLength_spells` are the two facts about octets. The second
  is where shortest form is used: a length that is not below 128 and does not begin with a
  zero octet has exactly the width that `writeLength` gives it.
* `Element.spells_read` puts them together, and `elements_spells` goes on to runs of elements.
* `spells_expect`, `spells_optional`, `spells_sequence`, `spellsAll_within` and
  `spellsAll_sequenceOf` carry it through the combinators.

A composite reader is opened with `run_bind_ok`, which splits a successful run into the runs
of its two parts.
-/

namespace CertChain

namespace Der

variable {α β : Type}

/-- **What a reader takes is what is written.** -/
def Spells (reader : Reader α) (write : α → Bytes) : Prop :=
  ∀ ⦃input rest : Bytes⦄ ⦃a : α⦄, reader.run input = .ok (a, rest) → input = write a ++ rest

/-- The same of a reader that wants all of its input. -/
def SpellsAll (read : Bytes → Except Error α) (write : α → Bytes) : Prop :=
  ∀ ⦃contents : Bytes⦄ ⦃a : α⦄, read contents = .ok a → contents = write a

/-! ### Opening a run -/

/-- A successful run in two steps. -/
theorem run_bind_ok {r : Reader α} {f : α → Reader β} {input rest : Bytes} {b : β}
    (h : (r >>= f).run input = .ok (b, rest)) :
    ∃ a mid, r.run input = .ok (a, mid) ∧ (f a).run mid = .ok (b, rest) := by
  -- a reader is a state over `Except`, so its bind is one of those underneath
  rw [StateT.run_bind] at h
  obtain ⟨⟨a, mid⟩, hr, hf⟩ := bind_ok h
  exact ⟨a, mid, hr, hf⟩

/-- A reader that gives what it has takes nothing. -/
theorem run_pure_ok {a b : α} {input rest : Bytes}
    (h : (pure a : Reader α).run input = .ok (b, rest)) : b = a ∧ rest = input := by
  cases h
  exact ⟨rfl, rfl⟩

/-- A step that reads nothing. -/
theorem run_lift_ok {x : Except Error α} {input rest : Bytes} {a : α}
    (h : (liftM x : Reader α).run input = .ok (a, rest)) : x = .ok a ∧ rest = input := by
  cases x with
  | error e => cases h
  | ok b =>
    cases h
    exact ⟨rfl, rfl⟩

/-- What is made of a result is made of a result. -/
theorem run_map_ok {r : Reader α} {f : α → β} {input rest : Bytes} {b : β}
    (h : (f <$> r).run input = .ok (b, rest)) : ∃ a, r.run input = .ok (a, rest) ∧ b = f a := by
  rw [map_eq_pure_bind] at h
  obtain ⟨a, mid, hr, hf⟩ := run_bind_ok h
  obtain ⟨rfl, rfl⟩ := run_pure_ok hf
  exact ⟨a, hr, rfl⟩

/-! ### Identifiers and lengths -/

/-- Digits to the base 128 are the octets that were taken. -/
theorem takeBase128_spells {input digits rest : Bytes}
    (h : takeBase128 input = some (digits, rest)) : input = digits ++ rest := by
  -- octet by octet, up to the first one whose top bit is not set
  induction input generalizing digits with
  | nil => cases h
  | cons b tail ih =>
    rw [takeBase128] at h
    split at h
    · -- the last digit
      cases h
      rfl
    · -- a digit that others follow
      obtain ⟨⟨d, r⟩, hd, he⟩ := Option.map_eq_some_iff.mp h
      cases he
      rw [ih hd]
      rfl

/-- An identifier is the octets that were taken. -/
theorem takeIdentifier_spells {input identifier rest : Bytes}
    (h : takeIdentifier input = .ok (identifier, rest)) : input = identifier ++ rest := by
  cases input with
  | nil => cases h
  | cons lead tail =>
    rw [takeIdentifier] at h
    split at h
    · -- a kind with a small number, which is in the first octet
      cases h
      rfl
    · -- a kind with a large number, whose digits follow
      split at h
      · cases h
      · rename_i digits after hd
        split at h
        · cases h
        · cases h
          rw [takeBase128_spells hd]
          rfl

/-- A length of `width` octets that is in shortest form is written back with `width` octets. -/
theorem writeLength_toNat {octets : Bytes} {width : Nat} (hlen : octets.length = width + 1)
    (hlong : 0x80 ≤ Bytes.toNat octets) (hlead : 256 ^ width ≤ Bytes.toNat octets) :
    writeLength (Bytes.toNat octets) = UInt8.ofNat (0x80 + (width + 1)) :: octets := by
  have hlt := Bytes.toNat_lt octets
  rw [hlen] at hlt
  have hback := Bytes.ofNat_toNat octets
  rw [hlen] at hback
  -- shortest form bounds the number from below, its octets bound it from above
  rw [writeLength, if_neg (by omega), Bytes.widthOf_eq hlead hlt, hback]

/-- A length is written with the octets that it was read from. There is one shortest form. -/
theorem takeLength_spells {input rest : Bytes} {n : Nat}
    (h : takeLength input = .ok (n, rest)) : input = writeLength n ++ rest := by
  cases input with
  | nil => cases h
  | cons lead tail =>
    simp only [takeLength] at h
    split at h
    · -- a length below 128 is its own octet
      rename_i hshort
      cases h
      have hlt : lead.toNat < 0x80 := UInt8.lt_iff_toNat_lt.mp hshort
      rw [writeLength, if_pos hlt, UInt8.ofNat_toNat]
      rfl
    · split at h
      · cases h
      · split at h
        · cases h
        · split at h
          · cases h
          · rename_i hlong hwidth hroom hshortest
            -- `width` octets are there, and they spell `n` in shortest form
            obtain ⟨width, hw⟩ : ∃ width, lead.toNat - 0x80 = width + 1 :=
              ⟨lead.toNat - 0x80 - 1, by omega⟩
            simp only [hw, Nat.add_sub_cancel, Except.ok.injEq, Prod.mk.injEq] at h hroom hshortest
            obtain ⟨rfl, rfl⟩ := h
            have hlen : (tail.take (width + 1)).length = width + 1 := by
              rw [List.length_take]
              omega
            -- the first octet is not zero, since the form is the shortest
            have hlead : 256 ^ width ≤ Bytes.toNat (tail.take (width + 1)) := by
              have hs : 1 <<< (8 * width) = 256 ^ width := by
                rw [Nat.one_shiftLeft, Nat.pow_mul]
              omega
            have hback : UInt8.ofNat (0x80 + (width + 1)) = lead := by
              have := lead.toNat_lt
              apply UInt8.toNat_inj.mp
              simp only [UInt8.toNat_ofNat']
              omega
            rw [writeLength_toNat hlen (by omega) hlead, hback, List.cons_append,
              List.take_append_drop]

/-! ### Elements -/

namespace Element

/-- **An element has one written form.** -/
theorem spells_read {input rest : Bytes} {e : Element} (h : read input = .ok (e, rest)) :
    input = e.write ++ rest := by
  unfold read at h
  obtain ⟨⟨identifier, afterIdentifier⟩, hi, h⟩ := bind_ok h
  obtain ⟨⟨length, afterLength⟩, hl, h⟩ := bind_ok h
  simp only at hl h
  split at h
  · cases h
  · rename_i hroom
    cases h
    have hlen : (afterLength.take length).length = length := by
      rw [List.length_take]
      omega
    -- the length that was read is that of the contents, so it is written again
    rw [takeIdentifier_spells hi, takeLength_spells hl, write]
    simp only [hlen, List.append_assoc, List.take_append_drop]

/-- An element of a kind is told by the kind and its contents. -/
theorem eq_make_of_hasTag {e : Element} {tag : UInt8} (h : e.hasTag tag = true) :
    e = make tag e.contents := by
  cases e
  simp_all [hasTag, make]

/-- A written form has at least an octet for the kind and one for the length. -/
theorem le_length_write {tag : UInt8} {contents : Bytes} {n : Nat} (h : n ≤ contents.length) :
    n + 2 ≤ (make tag contents).write.length := by
  have hlength : 1 ≤ (writeLength contents.length).length := by
    rw [writeLength]
    split <;> simp
  simp only [make, write, List.length_append, List.length_singleton]
  omega

/-- An element takes two octets at least. -/
theorem two_le_length_write (tag : UInt8) (contents : Bytes) :
    2 ≤ (make tag contents).write.length :=
  le_length_write (Nat.zero_le _)

end Element

/-- A run of elements is the elements' written forms, one behind the other. -/
theorem elements_spells {input : Bytes} {es : List Element} (h : elements input = .ok es) :
    input = es.flatMap Element.write := by
  -- the cases are: no octets are left, no element is found, and an element with others behind
  fun_induction elements input generalizing es with
  | case1 input hempty =>
    cases h
    exact List.isEmpty_iff.mp hempty
  | case2 => cases h
  | case3 input hempty e rest hread hlt ih =>
    cases hrest : elements rest with
    | error reason =>
      rw [hrest] at h
      cases h
    | ok es' =>
      rw [hrest] at h
      cases h
      rw [List.flatMap_cons, ← ih hrest]
      exact Element.spells_read hread

/-- When each element is written as what is read off it, so is the list. -/
theorem flatMap_write_of_mapM {read : Element → Except Error α} {write : α → Bytes}
    (hread : ∀ e a, read e = .ok a → e.write = write a) {es : List Element} {as : List α}
    (h : es.mapM read = .ok as) : es.flatMap Element.write = as.flatMap write := by
  -- on the elements, each of which is read by itself
  induction es generalizing as with
  | nil =>
    cases h
    rfl
  | cons e rest ih =>
    rw [List.mapM_cons] at h
    obtain ⟨a, ha, h⟩ := bind_ok h
    obtain ⟨as', has, h⟩ := bind_ok h
    cases h
    rw [List.flatMap_cons, List.flatMap_cons, hread e a ha, ih has]

/-! ### Readers -/

/-- Any element is written as it was read. -/
theorem spells_anyElement : Spells anyElement Element.write :=
  fun _ _ _ h => Element.spells_read h

/-- The contents of an element of a kind, written as that element. -/
theorem spells_expect (tag : UInt8) :
    Spells (expect tag) fun contents => (Element.make tag contents).write := by
  intro input rest contents h
  obtain ⟨e, mid, he, h⟩ := run_bind_ok h
  rw [spells_anyElement he]
  split at h
  · -- an element of this kind is known by its contents
    rename_i htag
    obtain ⟨rfl, rfl⟩ := run_pure_ok h
    rw [Element.eq_make_of_hasTag htag]
    rfl
  · cases h

/-- Something that is there only behind a certain tag is written where it was read, and else nothing
is. -/
theorem spells_whenNext {reader : Reader α} {write : α → Bytes} (hr : Spells reader write)
    (tag : UInt8) : Spells (whenNext tag reader) fun a => (a.map write).getD [] := by
  intro input rest a h
  obtain ⟨isNext, mid, hnext, hrun⟩ := run_bind_ok h
  -- looking at the next octet takes nothing
  have hmid : mid = input := by
    obtain ⟨_, _, hget, hnext⟩ := run_bind_ok hnext
    cases hget
    exact (run_pure_ok hnext).2
  rw [hmid] at hrun
  split at hrun
  · obtain ⟨a, ha, rfl⟩ := run_map_ok hrun
    exact hr ha
  · -- nothing is taken, and nothing is written
    obtain ⟨rfl, rfl⟩ := run_pure_ok hrun
    rfl

/-- An element that may be missing. -/
theorem spells_optional (tag : UInt8) :
    Spells (optional tag) fun contents =>
      (contents.map fun octets => (Element.make tag octets).write).getD [] :=
  spells_whenNext (spells_expect tag) tag

/-- An element that is there unless the input has come to its end. -/
theorem spells_optionalElement :
    Spells optionalElement fun e => (e.map Element.write).getD [] := by
  intro input rest e h
  obtain ⟨octets, mid, hget, h⟩ := run_bind_ok h
  cases hget
  split at h
  · obtain ⟨rfl, rfl⟩ := run_pure_ok h
    rfl
  · obtain ⟨e, he, rfl⟩ := run_map_ok h
    exact Element.spells_read he

/-- A reader of contents octets leaves none of them. -/
theorem within_ok {reader : Reader α} {contents : Bytes} {a : α}
    (h : within reader contents = .ok a) : reader.run contents = .ok (a, []) := by
  obtain ⟨⟨value, rest⟩, hrun, hall⟩ := bind_ok h
  simp only at hall
  split at hall
  · rename_i hempty
    cases hall
    rw [← List.isEmpty_iff.mp hempty]
    exact hrun
  · cases hall

/-- A reader that must leave nothing takes all of its input. -/
theorem spellsAll_within {reader : Reader α} {write : α → Bytes} (hr : Spells reader write) :
    SpellsAll (within reader) write := by
  intro contents a h
  -- what is left is nothing, so the written form is the whole input
  rw [hr (within_ok h), List.append_nil]

/-- A sequence is written around the written form of its contents. -/
theorem spells_sequence {reader : Reader α} {write : α → Bytes} (hr : Spells reader write) :
    Spells (sequence reader) fun a => writeSequence (write a) := by
  intro input rest a h
  obtain ⟨contents, mid, hexpect, h⟩ := run_bind_ok h
  -- the contents are read apart from what stands behind the sequence
  obtain ⟨hwithin, rfl⟩ := run_lift_ok h
  rw [spells_expect sequenceTag hexpect, spellsAll_within hr hwithin]
  rfl

/-- Elements of one tag are written one by one, in their order. -/
theorem spellsAll_sequenceOf {read : Bytes → Except Error α} {write : α → Bytes}
    (hr : SpellsAll read write) (tag : UInt8) :
    SpellsAll (sequenceOf tag read) fun as =>
      as.flatMap fun a => (Element.make tag (write a)).write := by
  intro contents as h
  obtain ⟨es, hes, h⟩ := bind_ok h
  -- first the contents are cut into elements, then each of them is read
  rw [elements_spells hes]
  refine flatMap_write_of_mapM (fun e a ha => ?_) h
  split at ha
  · rename_i htag
    rw [Element.eq_make_of_hasTag htag, hr ha]
  · cases ha

end Der
end CertChain
