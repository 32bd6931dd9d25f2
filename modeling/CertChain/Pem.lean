import CertChain.Text.Base64
import CertChain.Text.Blank
import CertChain.Text.Utf

/-!
# Text armour

A binary object travels in text as a block: a line `-----BEGIN label-----`, perhaps
some header lines and an empty one, the object in base64, and a line
`-----END label-----`. What stands before a block, between two blocks and after the
last one is no part of any block.

* `Pem.write` writes one block, with lines of 64 characters.
* `Pem.rawBlocks` cuts the blocks out of an octet string, and `Pem.read` also
  decodes every one of them. A block that is cut off is no block; but a whole block
  that is faulty makes the reading of the whole text fail, wherever it stands.

The reader looks for a marker by reading on, octet by octet: an octet that does not
fit makes it start the comparison afresh with the octet after it (`Pem.seek`). So a
marker right behind a part of itself, such as `------BEGIN `, is not seen.
-/

namespace CertChain
namespace Pem

/-- What a block holds: the label, and the object itself. -/
structure Block where
  label : String
  contents : Bytes
  deriving DecidableEq, Repr

/-- Why a text has no certificate to offer. -/
inductive Error where
  /-- There is no block at all. -/
  | noBlock
  /-- No block bears a label that was asked for. -/
  | noSuchLabel
  /-- A label, a header or a body is not UTF-8. -/
  | notText
  /-- A label is empty. -/
  | emptyLabel
  /-- The two labels of a block differ. -/
  | labelsDiffer
  /-- A header line has no colon. -/
  | badHeader
  /-- The body is not base64. -/
  | badBody
  deriving DecidableEq, Repr

/-- The words for an error. Which texts are refused is settled, and how a refusal is worded is left
to the reader of the text. -/
def Error.text : Error → String
  | .noBlock => "there is no block"
  | .noSuchLabel => "no block has a certificate's label"
  | .notText => "a block is not UTF-8"
  | .emptyLabel => "a label is empty"
  | .labelsDiffer => "the labels of a block differ"
  | .badHeader => "a header line has no colon"
  | .badBody => "the body of a block is not base64"

/-- A block as it stands in the text. -/
structure RawBlock where
  first : Bytes
  headers : Bytes
  body : Bytes
  last : Bytes

/-! ### Finding the markers -/

/-- What is missing of `marker` after the octet `b`, if `due` was missing before it. -/
def stillDue (marker due : Bytes) (b : UInt8) : Bytes :=
  match due with
  | [] => marker
  | d :: due => if b = d then due else marker

/-- **Looking for a marker.** `due` is what is still missing of it, `seen` what was
read, last octet first. The answer is what stands before the marker and what stands
behind it. -/
def seek (marker : Bytes) (due seen : Bytes) : Bytes → Option (Bytes × Bytes)
  | [] => none
  | b :: rest =>
    if (stillDue marker due b).isEmpty then
      some (((b :: seen).drop marker.length).reverse, rest)
    else seek marker (stillDue marker due b) (b :: seen) rest

/-- The parts of `input` before and after `marker`. -/
def splitOn? (marker input : Bytes) : Option (Bytes × Bytes) :=
  seek marker marker [] input

theorem length_lt_of_seek {marker due seen input before after : Bytes}
    (h : seek marker due seen input = some (before, after)) :
    after.length < input.length := by
  induction input generalizing due seen with
  | nil => simp [seek] at h
  | cons b rest ih =>
    rw [seek] at h
    split at h
    · cases h; simp
    · exact Nat.lt_succ_of_lt (ih h)

theorem length_lt_of_splitOn? {marker input before after : Bytes}
    (h : splitOn? marker input = some (before, after)) : after.length < input.length :=
  length_lt_of_seek h

/-- Octets that may stand between a marker line and the body. -/
def isGap (b : UInt8) : Bool :=
  b == 0x20 || b == 0x09 || b == 0x0A || b == 0x0D

/-- The marker that opens a block. -/
def beginMarker : Bytes := Bytes.ofText "-----BEGIN "

/-- The marker that opens the last line of a block. -/
def endMarker : Bytes := Bytes.ofText "-----END "

/-- The dashes that close a marker line. -/
def dashes : Bytes := Bytes.ofText "-----"

/-- The headers end at the first empty line; a body without one has no headers. -/
def splitHeaders (body : Bytes) : Bytes × Bytes :=
  match splitOn? [0x0A, 0x0A] body with
  | some parts => parts
  | none =>
    match splitOn? [0x0D, 0x0A, 0x0D, 0x0A] body with
    | some parts => parts
    | none => ([], body)

/-- The first block of `input`, and what comes after it. -/
def rawBlock? (input : Bytes) : Option (RawBlock × Bytes) :=
  match splitOn? beginMarker input with
  | none => none
  | some (_, opened) =>
    match splitOn? dashes opened with
    | none => none
    | some (first, filled) =>
      match splitOn? endMarker (filled.dropWhile isGap) with
      | none => none
      | some (content, ended) =>
        match splitOn? dashes ended with
        | none => none
        | some (last, rest) =>
          let (headers, body) := splitHeaders content
          some (⟨first, headers, body, last⟩, rest.dropWhile isGap)

theorem length_dropWhile_le (p : UInt8 → Bool) (bytes : Bytes) :
    (bytes.dropWhile p).length ≤ bytes.length :=
  (List.dropWhile_sublist p).length_le

theorem length_lt_of_rawBlock? {input rest : Bytes} {block : RawBlock}
    (h : rawBlock? input = some (block, rest)) : rest.length < input.length := by
  unfold rawBlock? at h
  split at h
  · cases h
  rename_i opened h₁
  split at h
  · cases h
  rename_i first filled h₂
  split at h
  · cases h
  rename_i content ended h₃
  split at h
  · cases h
  rename_i last tail h₄
  have h₁ := length_lt_of_splitOn? h₁
  have h₂ := length_lt_of_splitOn? h₂
  have h₃ := length_lt_of_splitOn? h₃
  have h₄ := length_lt_of_splitOn? h₄
  have gap₁ := length_dropWhile_le isGap filled
  have gap₂ := length_dropWhile_le isGap tail
  simp only [Option.some.injEq, Prod.mk.injEq] at h
  rw [← h.2]
  omega

/-- **All blocks** of `input` that are not cut off, in order. -/
def rawBlocks (input : Bytes) : List RawBlock :=
  match h : rawBlock? input with
  | none => []
  | some (block, rest) =>
    have := length_lt_of_rawBlock? h
    block :: rawBlocks rest
termination_by input.length

/-! ### Decoding blocks -/

/-- The lines of a text. A line feed at the very end opens no further line. -/
def linesOf (text : String) : List String :=
  let lines := text.splitOn "\n"
  if lines.getLast? = some "" then lines.dropLast else lines

/-- Decodes one block. -/
def RawBlock.decode (raw : RawBlock) : Except Error Block := do
  let some label := Utf8.decode? raw.first | throw .notText
  if label.isEmpty then throw .emptyLabel
  let some last := Utf8.decode? raw.last | throw .notText
  if last.isEmpty then throw .emptyLabel
  if label ≠ last then throw .labelsDiffer
  let some body := Utf8.decode? raw.body | throw .notText
  let some contents := Base64.decode? (body.toList.filter fun c => !isWhiteSpace c)
    | throw .badBody
  let some headers := Utf8.decode? raw.headers | throw .notText
  if (linesOf headers).any fun line => !line.contains ':' then throw .badHeader
  return ⟨label, contents⟩

/-- **All blocks, decoded.** One faulty block spoils the whole text. -/
def read (input : Bytes) : Except Error (List Block) :=
  (rawBlocks input).mapM RawBlock.decode

/-- The contents of the first block with one of the labels. -/
def firstLabelled (labels : List String) (input : Bytes) : Except Error Bytes := do
  let blocks ← read input
  if blocks.isEmpty then throw .noBlock
  match blocks.find? fun block => labels.contains block.label with
  | some block => return block.contents
  | none => throw .noSuchLabel

/-! ### Writing -/

/-- The length of the lines of a written body. -/
def lineLength : Nat := 64

/-- Characters in lines of `lineLength`, each with its line feed. -/
def wrap (cs : List Char) : List Char :=
  if _h : cs = [] then []
  else cs.take lineLength ++ '\n' :: wrap (cs.drop lineLength)
termination_by cs.length
decreasing_by
  have : 0 < cs.length := List.length_pos_iff.mpr _h
  simp only [List.length_drop, lineLength]
  omega

/-- **One block in text.** -/
def write (label : String) (contents : Bytes) : Bytes :=
  beginMarker ++ Bytes.ofText label ++ dashes ++ [0x0A]
    ++ Bytes.ofText (String.ofList (wrap (Base64.encode contents)))
    ++ endMarker ++ Bytes.ofText label ++ dashes ++ [0x0A]

end Pem
end CertChain
