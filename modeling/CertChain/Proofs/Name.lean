import CertChain.Name
import CertChain.Proofs.Outcome

/-!
# Which names can be written as text

A name that has been read need not be one that can be written as text. The octets of its values
are decoded only when the text is asked for, and then something may turn out to be wrong with
any of them: `Name.Decodes` lists what. The string type of a value must be one of those that are
read as text, and its octets must be a text in the encoding that belongs to the type; only one
kind of attribute may hold bits. A relative name needs an attribute and must not say the same
thing twice.

`Name.exists_text?_iff` says that nothing else counts. The list is read off the definitions from
the inside out, from one value to one relative name to a whole name.
-/

namespace CertChain

/-! ### Values -/

namespace Attribute

/-- **What the value of an attribute spells**, according to the string type that it is in. -/
inductive Spells (a : Attribute) : AttributeValue → Prop where
  | bits (htag : a.value.identifier = [StringType.bitString])
      (hkind : a.kind = uniqueIdentifier) : Spells a (.bits a.value.contents)
  | universal {text : String} (htag : a.value.identifier = [StringType.universal])
      (htext : Utf32.decode? a.value.contents = some text) : Spells a (.text text)
  | bmp {text : String} (htag : a.value.identifier = [StringType.bmp])
      (htext : Utf16.decode? a.value.contents = some text) : Spells a (.text text)
  | utf8 {tag : UInt8} {text : String} (htag : a.value.identifier = [tag])
      (hmem : tag ∈ StringType.readAsUtf8)
      (htext : Utf8.decode? a.value.contents = some text) : Spells a (.text text)

variable {a : Attribute} {v w : AttributeValue}

/-- What is decoded is spelled. -/
theorem spells_of_decode? (h : a.decode? = some v) : a.Spells v := by
  rw [decode?] at h
  split at h
  · rename_i tag htag
    -- the four ways in the order in which the tag is compared, and no fifth one
    split_ifs at h with hbits hkind huniversal hbmp hutf8
    · rw [hbits] at htag
      cases h
      exact .bits htag hkind
    · obtain ⟨text, htext, rfl⟩ := Option.map_eq_some_iff.mp h
      exact .universal (huniversal ▸ htag) htext
    · obtain ⟨text, htext, rfl⟩ := Option.map_eq_some_iff.mp h
      exact .bmp (hbmp ▸ htag) htext
    · obtain ⟨text, htext, rfl⟩ := Option.map_eq_some_iff.mp h
      exact .utf8 htag (List.contains_iff_mem.mp hutf8) htext
  · cases h

/-- None of the string types that are read as UTF-8 is one of the other three. -/
theorem ne_of_mem_readAsUtf8 {tag : UInt8} (h : tag ∈ StringType.readAsUtf8) :
    tag ≠ StringType.bitString ∧ tag ≠ StringType.universal ∧ tag ≠ StringType.bmp := by
  -- what is decided is about the members of a list, and not about all octets
  have hall : (StringType.readAsUtf8.all fun t =>
      t ≠ StringType.bitString ∧ t ≠ StringType.universal ∧ t ≠ StringType.bmp) = true := by
    decide
  exact of_decide_eq_true (List.all_eq_true.mp hall tag h)

/-- What is spelled is decoded. -/
theorem Spells.decode?_eq (h : a.Spells v) : a.decode? = some v := by
  cases h with
  | bits htag hkind =>
    rw [decode?, htag]
    exact if_pos hkind
  | universal htag htext =>
    rw [decode?, htag, htext]
    rfl
  | bmp htag htext =>
    rw [decode?, htag, htext]
    rfl
  | utf8 htag hmem htext =>
    obtain ⟨hbits, huniversal, hbmp⟩ := ne_of_mem_readAsUtf8 hmem
    simp only [decode?, htag, if_neg hbits, if_neg huniversal, if_neg hbmp]
    rw [if_pos (List.contains_iff_mem.mpr hmem), htext]
    rfl

/-- A value is decoded as what it spells. -/
theorem decode?_eq_some_iff : a.decode? = some v ↔ a.Spells v :=
  ⟨spells_of_decode?, Spells.decode?_eq⟩

/-- A value spells one thing at most. -/
theorem Spells.unique (hv : a.Spells v) (hw : a.Spells w) : v = w := by
  have h := hv.decode?_eq
  rw [hw.decode?_eq] at h
  exact (Option.some.inj h).symm

end Attribute

/-! ### Relative names -/

namespace Name

/-- **A relative name decodes** if there is something in it, every value in it spells something,
and no two attributes of one kind spell the same. -/
structure RelativeDecodes (attributes : List Attribute) : Prop where
  ne_nil : attributes ≠ []
  spells : ∀ a ∈ attributes, ∃ v, a.Spells v
  distinct : attributes.Pairwise fun a b => a.kind = b.kind → ∀ v, a.Spells v → ¬ b.Spells v

/-- An attribute, and what becomes of it. -/
def Decoded (a : Attribute) (decoded : Oid × AttributeValue) : Prop :=
  decoded.1 = a.kind ∧ a.Spells decoded.2

/-- An attribute keeps its kind when its value is decoded. -/
theorem decoded_iff {a : Attribute} {decoded : Oid × AttributeValue} :
    (do return (a.kind, ← a.decode?)) = some decoded ↔ Decoded a decoded := by
  constructor
  · intro h
    obtain ⟨v, hv, h⟩ := Option.bind_eq_some_iff.mp h
    cases h
    exact ⟨rfl, Attribute.spells_of_decode? hv⟩
  · rintro ⟨hkind, hspells⟩
    rw [hspells.decode?_eq, ← hkind]
    rfl

/-- A relative name is decoded attribute by attribute, and then looked at as a whole. -/
theorem decodeRelative?_eq_some_iff {attributes : List Attribute}
    {decoded : List (Oid × AttributeValue)} :
    decodeRelative? attributes = some decoded ↔
      List.Forall₂ Decoded attributes decoded ∧ decoded ≠ [] ∧ decoded.Nodup := by
  -- decoding succeeds for all attributes together if it does for each of them
  have hall : attributes.mapM (fun a => do return (a.kind, ← a.decode?)) = some decoded
      ↔ List.Forall₂ Decoded attributes decoded := by
    rw [mapM_eq_some_iff]
    simp only [decoded_iff]
  constructor
  · intro h
    obtain ⟨found, hfound, h⟩ := Option.bind_eq_some_iff.mp h
    split_ifs at h with hgood
    cases h
    exact ⟨hall.mp hfound, hgood⟩
  · rintro ⟨hdecoded, hgood⟩
    rw [decodeRelative?, hall.mpr hdecoded]
    exact if_pos hgood

/-- Two attributes are decoded differently if they do not say the same. -/
theorem Decoded.ne_iff {a b : Attribute} {d e : Oid × AttributeValue} (hd : Decoded a d)
    (he : Decoded b e) :
    (a.kind = b.kind → ∀ v, a.Spells v → ¬ b.Spells v) ↔ d ≠ e := by
  obtain ⟨hkind, hspells⟩ := hd
  obtain ⟨hkind', hspells'⟩ := he
  constructor
  · rintro h rfl
    exact h (hkind.symm.trans hkind') _ hspells hspells'
  · intro hne hsame v hv hv'
    apply hne
    apply Prod.ext
    · rw [hkind, hkind', hsame]
    · rw [hspells.unique hv, hspells'.unique hv']

/-- No two results are the same exactly if no two attributes say the same. -/
theorem nodup_iff {attributes : List Attribute} {decoded : List (Oid × AttributeValue)}
    (h : List.Forall₂ Decoded attributes decoded) :
    decoded.Nodup ↔
      attributes.Pairwise fun a b => a.kind = b.kind → ∀ v, a.Spells v → ¬ b.Spells v := by
  -- on the two lists side by side: the first one is compared with all that follow
  induction h with
  | nil => exact ⟨fun _ => .nil, fun _ => .nil⟩
  | @cons a d attributes decoded ha hrest ih =>
    have hnew : (∀ b ∈ attributes, a.kind = b.kind → ∀ v, a.Spells v → ¬ b.Spells v)
        ↔ d ∉ decoded := by
      rw [forall_mem_iff_of_forall₂ (fun b e he => Decoded.ne_iff ha he) hrest]
      exact List.forall_mem_ne
    rw [List.nodup_cons, List.pairwise_cons, ih, hnew]

/-- A relative name is decoded exactly if it decodes. -/
theorem exists_decodeRelative?_iff {attributes : List Attribute} :
    (∃ decoded, decodeRelative? attributes = some decoded) ↔ RelativeDecodes attributes := by
  -- attributes are decoded together if each of them spells something
  have hspells : (∃ decoded, List.Forall₂ Decoded attributes decoded)
      ↔ ∀ a ∈ attributes, ∃ v, a.Spells v := by
    rw [exists_forall₂_iff]
    refine forall₂_congr fun a _ => ?_
    constructor
    · rintro ⟨d, hd⟩
      exact ⟨d.2, hd.2⟩
    · rintro ⟨v, hv⟩
      exact ⟨(a.kind, v), rfl, hv⟩
  constructor
  · rintro ⟨decoded, h⟩
    obtain ⟨hall, hne, hnodup⟩ := decodeRelative?_eq_some_iff.mp h
    refine ⟨?_, hspells.mp ⟨decoded, hall⟩, (nodup_iff hall).mp hnodup⟩
    rintro rfl
    exact hne (List.forall₂_nil_left_iff.mp hall)
  · rintro ⟨hne, hall, hdistinct⟩
    obtain ⟨decoded, hdecoded⟩ := hspells.mpr hall
    refine ⟨decoded, decodeRelative?_eq_some_iff.mpr ⟨hdecoded, ?_, (nodup_iff hdecoded).mpr
      hdistinct⟩⟩
    rintro rfl
    exact hne (List.forall₂_nil_right_iff.mp hdecoded)

/-! ### Names -/

/-- **A name decodes** if all of its relative names do. -/
def Decodes (name : Name) : Prop :=
  ∀ attributes ∈ name.relativeNames, RelativeDecodes attributes

/-- **A name can be written as text** exactly if it decodes. -/
theorem exists_text?_iff {name : Name} : (∃ text, name.text? = some text) ↔ name.Decodes := by
  have hall : (∃ decoded, name.relativeNames.mapM decodeRelative? = some decoded)
      ↔ name.Decodes := by
    simp only [mapM_eq_some_iff, exists_forall₂_iff, exists_decodeRelative?_iff, Decodes]
  rw [← hall]
  constructor
  · rintro ⟨text, h⟩
    obtain ⟨decoded, hdecoded, -⟩ := Option.bind_eq_some_iff.mp h
    exact ⟨decoded, hdecoded⟩
  · rintro ⟨decoded, hdecoded⟩
    -- what has been decoded can be written, whatever it is
    rw [text?, hdecoded]
    exact ⟨_, rfl⟩

/-- A name that does not decode has no text. -/
theorem text?_eq_none_iff {name : Name} : name.text? = none ↔ ¬ name.Decodes := by
  rw [← exists_text?_iff, ← Option.not_isSome_iff_eq_none, Option.isSome_iff_exists]

end Name
end CertChain
