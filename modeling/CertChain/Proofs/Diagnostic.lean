import CertChain.Program
import CertChain.Proofs.Command
import CertChain.Proofs.Outcome
import CertChain.Proofs.Signature
import CertChain.Proofs.Text.OneLine

/-!
# A failure is told in one line

When a command fails the program says one thing: the code of the failure, its message, and the
text of the fault behind it. Paths occur in all of them, and a path may hold any character there
is. It is told in quotes though, by the message as well as by the system, so that the whole is in
one line (`Command.answer_oneLine`, `Command.oneLine_unwritable`).

The other texts are words that are known beforehand, and what is put into them are numbers,
octets in hexadecimal and the names of keys.
-/

namespace CertChain

/-! ### Words for errors -/

/-- There are finitely many errors of elements, each with words of its own. -/
theorem Der.Error.oneLine_text (e : Der.Error) : OneLine e.text := by
  cases e <;> decide

theorem Pem.Error.oneLine_text (e : Pem.Error) : OneLine e.text := by
  cases e <;> decide

/-- An error of a certificate has the words of its encoding, or its own. -/
theorem Certificate.Error.oneLine_text (e : Certificate.Error) : OneLine e.text := by
  cases e with
  | armour reason => exact reason.oneLine_text
  | encoding reason => exact reason.oneLine_text
  | badSubject => decide
  | badIssuer => decide

/-- An error of a key has the words of its encoding, or its own. -/
theorem PublicKey.Error.oneLine_text (e : PublicKey.Error) : OneLine e.text := by
  cases e with
  | badEncoding reason => exact OneLine.append (by decide) reason.oneLine_text
  | unsupportedAlgorithm => decide
  | unsupportedCurve => decide
  | unusedBits => decide
  | badNumber => decide
  | badPoint => decide
  | badSize => decide

/-- **A fault that is told in one line**: it has a text, and the text is one line. -/
def Fault.InOneLine (fault : Fault) : Prop :=
  ∃ text, fault.text = .ok text ∧ OneLine text

/-- A refusal by the system that concerns a file says its number, its words, and the path in
quotes. -/
theorem Fault.text_system (name : String) {n : Int} {number : String}
    (hnumber : numeral? n = some number) (words file : String) :
    (Fault.alone ⟨.system name, [.int n, .text words, .text file], []⟩).text
      = .ok ("[Errno " ++ number ++ "] " ++ words ++ (": " ++ quoted file)) := by
  have hfile : systemFiles? (.system name) [.text file] = some (": " ++ quoted file) := by
    -- a file is a text, so it is not the number that a refusal to wait takes
    have hname : ¬ (Kind.system name = .system "BlockingIOError"
        ∧ (Datum.text file).isNumber = true) := fun h => (nomatch h.2)
    unfold systemFiles?
    simp only [if_neg hname]
    rfl
  show written (systemText? (.system name) (.int n) (.text words) [.text file]) = _
  rw [systemText?, show (Datum.int n).plain? = numeral? n from rfl, hnumber, hfile]
  rfl

/-- A file that is refused is named in quotes, and the other words are known. -/
theorem FileRefusal.inOneLine_fault (refusal : FileRefusal) (path : Path) :
    (refusal.fault path).InOneLine := by
  -- all but one of the refusals have the same form, with a number, its words and the path
  have hsystem : ∀ name n number words, numeral? n = some number → OneLine number →
      OneLine words → (Fault.alone ⟨.system name, [.int n, .text words, .text path.text], []⟩
        : Fault).InOneLine := by
    intro name n number words hnumber honeLine hwords
    refine ⟨_, Fault.text_system name hnumber words path.text, ?_⟩
    have hfront := ((OneLine.append (s := "[Errno ") (by decide) honeLine).append (t := "] ")
      (by decide)).append hwords
    exact hfront.append (OneLine.append (by decide) (oneLine_quoted _))
  cases refusal with
  | zeroOctet => exact ⟨_, rfl, by decide⟩
  | noEntry => exact hsystem _ _ "2" _ (by decide) (by decide) (by decide)
  | notDirectory => exact hsystem _ _ "20" _ (by decide) (by decide) (by decide)
  | isDirectory => exact hsystem _ _ "21" _ (by decide) (by decide) (by decide)
  | nameTooLong => exact hsystem _ _ "36" _ (by decide) (by decide) (by decide)

/-- A refused output has no name. -/
theorem OutputRefusal.inOneLine_fault (refusal : OutputRefusal) : refusal.fault.InOneLine := by
  cases refusal with
  | noOutput => exact ⟨_, rfl, by decide⟩
  | unread => exact ⟨"[Errno 32] Broken pipe", rfl, by decide⟩
  | noRoom => exact ⟨"[Errno 28] No space left on device", rfl, by decide⟩

/-! ### Refused signatures -/

/-- Why a signature cannot be checked is told in one line. -/
def Refusal.InOneLine (refusal : Refusal) : Prop :=
  refusal.fault.InOneLine

/-- An identifier is numbers with dots between them. -/
theorem Oid.oneLine_dotted (id : Oid) : OneLine id.dotted := by
  apply oneLine_intercalate (by decide)
  intro text htext
  obtain ⟨arc, -, rfl⟩ := List.mem_map.mp htext
  exact oneLine_nat arc

theorem PublicKey.oneLine_kindName (key : PublicKey) : OneLine key.kindName := by
  cases key <;> rw [kindName] <;> decide

/-- What is refused while an algorithm is read names the algorithm, if anything. -/
theorem Refusal.OfReading.inOneLine {refusal : Refusal} (h : refusal.OfReading) :
    refusal.InOneLine := by
  cases h with
  | unknownSignature id =>
    exact ⟨_, rfl, OneLine.append (by decide) id.oneLine_dotted⟩
  | unknownHash id =>
    exact ⟨_, rfl, OneLine.append (by decide) id.oneLine_dotted⟩
  | badParameters => exact ⟨_, rfl, by decide⟩

/-- **A refused check is told in one line.** -/
theorem checkSignature_oneLine (key : PublicKey) (signee : Document) :
    ErrorsIn (checkSignature key signee) Refusal.InOneLine := by
  intro refusal h
  -- the refusals that there can be are known; only two of them show anything of the input
  cases refuses_of_checkSignature h with
  | unread hreading => exact hreading.inOneLine
  | rsaWithoutHash => exact ⟨_, rfl, by decide⟩
  | dsaWithoutHash => exact ⟨_, rfl, by decide⟩
  | keyTooSmall => exact ⟨_, rfl, by decide⟩
  | keyMismatch =>
    exact ⟨_, rfl, (key.oneLine_kindName.append (by decide)).append
      signee.algorithm.id.oneLine_dotted⟩

/-! ### Failures -/

/-- **A failure is told in one line**: it has a detail, and that is one line. -/
def Failure.InOneLine (f : Failure) : Prop :=
  ∃ detail, f.detail = .ok detail ∧ OneLine detail

/-- A failure is told in one line if its message and its fault are. -/
theorem oneLine_because {code : ErrorCode} {message : String} {fault : Fault}
    (hmessage : OneLine message) (hfault : fault.InOneLine) :
    (Failure.because code message fault).InOneLine := by
  obtain ⟨text, htext, honeLine⟩ := hfault
  refine ⟨message ++ ": " ++ text, ?_, (hmessage.append (by decide)).append honeLine⟩
  rw [Failure.detail_because, htext]
  rfl

/-- A fault of an error has the words for the error. -/
theorem inOneLine_value {text : String} (h : OneLine text) :
    (Fault.ofText Fault.Kind.value text).InOneLine :=
  ⟨text, rfl, h⟩

/-- The message about a short input holds two numbers. -/
theorem tooShort_oneLine (input : Bytes) : (tooShort input).InOneLine := by
  have hlength := (OneLine.append (s := "Certificate buffer is ") (by decide)
    (oneLine_nat input.length)).append (t := " bytes, at least ") (by decide)
  exact ⟨_, rfl, (hlength.append (oneLine_nat pemMarker.length)).append (by decide)⟩

theorem unrecognized_oneLine (first : UInt8) : (unrecognized first).InOneLine :=
  ⟨_, rfl, (OneLine.append (by decide) (oneLine_hex [first])).append (by decide)⟩

/-- A refused encoding is told in one line. -/
theorem identify_oneLine (strict : Bool) (input : Bytes) :
    ErrorsIn (identify strict input) Failure.InOneLine := by
  rw [identify.eq_def]
  split_ifs
  · exact errorsIn_error (tooShort_oneLine input)
  · exact errorsIn_ok _
  · cases input with
    | nil => exact errorsIn_ok _
    | cons first rest =>
      simp only
      split_ifs
      · exact errorsIn_error (unrecognized_oneLine first)
      · exact errorsIn_ok _

namespace Certificate

/-- A certificate that cannot be decoded is told in one line. -/
theorem decode_oneLine (format : Format) (input : Bytes) :
    ErrorsIn (decode format input) Failure.InOneLine := by
  -- both forms end in the same message, which names the form, and differ in the error
  have houtcome : ∀ result, ErrorsIn (outcomeOf format result) Failure.InOneLine := by
    intro result
    cases result with
    | ok c => exact errorsIn_ok c
    | error e =>
      have hmessage : OneLine ("Failed to decode " ++ format.title ++ " certificate") := by
        cases format <;> decide
      exact errorsIn_error (oneLine_because hmessage (inOneLine_value e.oneLine_text))
  cases format with
  | pem => exact houtcome _
  | der => exact houtcome _

theorem fromBytes_oneLine (strict : Bool) (input : Bytes) :
    ErrorsIn (fromBytes strict input) Failure.InOneLine :=
  (identify_oneLine strict input).bind fun format => decode_oneLine format input

/-- A key that cannot be used is told in one line. -/
theorem publicKey_oneLine (c : Certificate) : ErrorsIn c.publicKey Failure.InOneLine := by
  rw [publicKey]
  split
  · exact errorsIn_ok _
  · rename_i e _
    apply errorsIn_error (oneLine_because (by decide) _)
    -- the kind of the fault depends on the error, its text does not
    cases e <;> exact ⟨_, rfl, PublicKey.Error.oneLine_text _⟩

end Certificate

/-- A failed check of a signature is told in one line. -/
theorem Pair.verify_oneLine (pair : Pair) : ErrorsIn pair.verify Failure.InOneLine := by
  -- first the key of the signer has to be had, and then the check has to go through
  refine pair.signer.publicKey_oneLine.bind fun key => ?_
  rw [verifyWith]
  split
  · exact errorsIn_ok _
  · exact errorsIn_error (oneLine_because (by decide) ⟨"", rfl, by decide⟩)
  · rename_i refusal hrefusal
    exact errorsIn_error (oneLine_because (by decide)
      (checkSignature_oneLine key pair.signee.document refusal hrefusal))

/-! ### Commands -/

namespace Command

variable (strict : Bool) (settings : Settings) (tree : FileTree)

/-- A file that cannot be read is told in one line. -/
theorem oneLine_unreadable (path : Path) (refusal : FileRefusal) :
    (unreadable path (refusal.fault path)).InOneLine :=
  oneLine_because (OneLine.append (by decide) (oneLine_quoted _)) (refusal.inOneLine_fault path)

/-- A file that cannot be written is told in one line. -/
theorem oneLine_unwritable (path : Path) (refusal : FileRefusal) :
    (unwritable path (refusal.fault path)).InOneLine :=
  oneLine_because (OneLine.append (by decide) (oneLine_quoted _)) (refusal.inOneLine_fault path)

/-- An output that cannot be printed to is told in one line. -/
theorem oneLine_unprintable (refusal : OutputRefusal) :
    (unprintable refusal.fault).InOneLine :=
  oneLine_because (by decide) refusal.inOneLine_fault

/-- A file that cannot be read is told in one line by whoever reads it. -/
theorem contentOf_oneLine (path : Path) : ErrorsIn (contentOf tree path) Failure.InOneLine := by
  rw [contentOf]
  split
  · exact errorsIn_ok _
  · exact errorsIn_error (oneLine_unreadable path _)

theorem formatOf_oneLine (path : Path) :
    ErrorsIn (formatOf strict tree path) Failure.InOneLine :=
  (contentOf_oneLine tree path).bind fun content => identify_oneLine strict content

theorem certificateOf_oneLine (path : Path) :
    ErrorsIn (certificateOf strict tree path) Failure.InOneLine :=
  (contentOf_oneLine tree path).bind fun content => Certificate.fromBytes_oneLine strict content

/-- **What a command fails with is told in one line.** -/
theorem answer_oneLine {command : Command} {f : Failure}
    (h : answer settings tree command = .ok (.error f)) : f.InOneLine := by
  have herrors : ∀ outcome, answer settings tree command = .ok outcome →
      ErrorsIn outcome Failure.InOneLine := by
    intro outcome h
    -- a command fails with the failure of one of its stages, in the order in which they are run
    cases command with
    | identify path =>
      cases h
      exact (formatOf_oneLine _ tree path).bind fun format => errorsIn_ok _
    | info path =>
      cases h
      exact (formatOf_oneLine _ tree path).bind fun format =>
        (certificateOf_oneLine _ tree path).bind fun c => errorsIn_ok _
    | convert path format output =>
      cases h
      exact (certificateOf_oneLine _ tree path).bind fun c => errorsIn_ok _
    | verify signer signee =>
      cases signee with
      | none => cases h
      | some signee =>
        cases h
        exact (certificateOf_oneLine _ tree signer).bind fun first =>
          (certificateOf_oneLine _ tree signee).bind fun second =>
            (Pair.mk first second).verify_oneLine.bind fun pair => errorsIn_ok _
  exact herrors _ h f rfl

end Command

/-- **The diagnostic of a failure is one line.** -/
theorem Program.oneLine_diagnostic {f : Failure} (h : f.InOneLine) :
    ∃ text, (Ending.failed f).diagnostic = some text ∧ OneLine text := by
  obtain ⟨detail, hdetail, honeLine⟩ := h
  have hname : OneLine f.code.name := by
    cases f.code <;> decide
  refine ⟨"error: [" ++ f.code.name ++ "] " ++ detail, ?_,
    ((OneLine.append (by decide) hname).append (by decide)).append honeLine⟩
  rw [Ending.diagnostic, hdetail]
  rfl

end CertChain
