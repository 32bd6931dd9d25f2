import CertChain.Proofs.Confusion
import CertChain.Proofs.Conversion
import CertChain.Proofs.Name
import CertChain.Proofs.Text.Lines

/-!
# Reports, line by line

A report on a file has four lines, and a check that holds is told in one. Who reads them goes by
the lines: what stands behind `issuer: ` at the beginning of a line is taken for the issuer, and
there should be only one such line (`Program.IsReport`).

The texts of names stand in these lines, and names are chosen by whoever made the certificate.
What is punctuation in a name gets a backslash in its text. A line feed is no punctuation and
stands there as it is, so a name can go on in a line of its own, and that line can be anything.

`Name.KeepsLine` is about the values of a name, and `Name.unbroken_text?_iff` that nothing else can
put a line feed into its text. `Program.report_lines_iff` is what follows for the program: it
tells what it should in four lines, or in one, exactly if the names in it are unbroken. A
certificate with another name gives itself an issuer (`Program.not_isReport_forged`).
-/

namespace CertChain

/-! ### Line feeds in names -/

namespace AttributeValue

/-- No escape has a line feed in it, and a line feed has none. -/
theorem mem_escape_iff {c : Char} : '\n' ∈ escape c ↔ c = '\n' := by
  rw [escape]
  split_ifs with hspecial hnull
  · have hne : c ≠ '\n' := by
      rintro rfl
      exact absurd hspecial (by decide)
    simp [hne, hne.symm]
  · rw [hnull]
    decide
  · rw [List.mem_singleton]
    exact eq_comm

/-- A text has the line feeds that it has without its escapes. -/
theorem mem_flatMap_escape_iff {cs : List Char} : '\n' ∈ cs.flatMap escape ↔ '\n' ∈ cs := by
  rw [List.mem_flatMap]
  simp only [mem_escape_iff]
  constructor
  · rintro ⟨c, hc, rfl⟩
    exact hc
  · intro h
    exact ⟨'\n', h, rfl⟩

/-- The guard in front of a text is no line feed. -/
theorem mem_guardFirst_iff {cs : List Char} : '\n' ∈ guardFirst cs ↔ '\n' ∈ cs := by
  -- if there is a guard at all, it is one more backslash
  unfold guardFirst
  split
  · simp
  · simp
  · rfl

/-- Nor is the guard in front of its last character. -/
theorem mem_guardLast_iff {cs : List Char} : '\n' ∈ guardLast cs ↔ '\n' ∈ cs := by
  -- the last character gets a backslash in front, or is left as it is
  unfold guardLast
  split_ifs with hlast
  · obtain ⟨front, rfl⟩ := List.getLast?_eq_some_iff.mp hlast
    rw [List.dropLast_concat]
    simp
  · rfl

/-- **A value that is written without line feeds**: bits, or a text that has none. -/
theorem unbroken_render_iff {v : AttributeValue} :
    Unbroken v.render ↔ ∀ text, v = .text text → Unbroken text := by
  -- bits are written in hexadecimal and have no line feed in any case
  cases v with
  | text characters =>
    rw [Unbroken, render, String.toList_ofList, mem_guardLast_iff, mem_guardFirst_iff,
      mem_flatMap_escape_iff]
    constructor
    · rintro h text ⟨⟩
      exact h
    · intro h
      exact h characters rfl
  | bits octets =>
    have hbits : Unbroken (render (.bits octets)) := by
      rw [render]
      split_ifs
      · decide
      · exact unbroken_append.mpr ⟨by decide, (oneLine_hex octets).unbroken⟩
    refine iff_of_true hbits ?_
    rintro text ⟨⟩

end AttributeValue

/-- A kind of attribute is written in one line. -/
theorem Attribute.oneLine_kindName (kind : Oid) : OneLine (kindName kind) := by
  have hshort : ∀ entry ∈ shortNames, OneLine entry.2 := by decide
  rw [kindName]
  split
  · rename_i name hname
    -- the names of kinds are in a table, and all of them are tried
    exact hshort (kind, name) (mem_of_lookup hname)
  · exact kind.oneLine_dotted

namespace Name

/-- **A name that keeps to its line**: no value in it spells a text with a line feed. -/
def KeepsLine (name : Name) : Prop :=
  ∀ attributes ∈ name.relativeNames, ∀ a ∈ attributes, ∀ text, a.Spells (.text text) →
    Unbroken text

/-- A relative name is unbroken exactly if the texts among its values are. -/
theorem unbroken_renderRelative_iff {attributes : List Attribute}
    {decoded : List (Oid × AttributeValue)} (h : decodeRelative? attributes = some decoded) :
    Unbroken (renderRelative decoded)
      ↔ ∀ a ∈ attributes, ∀ text, a.Spells (.text text) → Unbroken text := by
  obtain ⟨hdecoded, -⟩ := decodeRelative?_eq_some_iff.mp h
  -- of an attribute as it is written only the value matters
  have hone : ∀ a d, Decoded a d → ((∀ text, a.Spells (.text text) → Unbroken text)
      ↔ Unbroken (Attribute.kindName d.1 ++ "=" ++ d.2.render)) := by
    rintro a ⟨kind, v⟩ ⟨-, hspells⟩
    have hkind := (Attribute.oneLine_kindName kind).unbroken
    rw [unbroken_append, unbroken_append, AttributeValue.unbroken_render_iff]
    constructor
    · intro h
      refine ⟨⟨hkind, by decide⟩, ?_⟩
      rintro text rfl
      exact h text hspells
    · rintro ⟨-, h⟩ text htext
      exact h text (hspells.unique htext)
  rw [forall_mem_iff_of_forall₂ hone hdecoded, renderRelative, unbroken_intercalate (by decide),
    List.forall_mem_map]

/-- **The text of a name is not broken** exactly if the name is not. -/
theorem unbroken_text?_iff {name : Name} {text : String} (h : name.text? = some text) :
    Unbroken text ↔ name.KeepsLine := by
  obtain ⟨decoded, hdecoded, htext⟩ := Option.bind_eq_some_iff.mp h
  cases htext
  have hall := mapM_eq_some_iff.mp hdecoded
  have hone : ∀ attributes d, decodeRelative? attributes = some d →
      ((∀ a ∈ attributes, ∀ text, a.Spells (.text text) → Unbroken text)
        ↔ Unbroken (renderRelative d)) := fun attributes d hd =>
    (unbroken_renderRelative_iff hd).symm
  rw [KeepsLine, forall_mem_iff_of_forall₂ hone hall, unbroken_intercalate (by decide),
    List.forall_mem_map]
  -- the most specific relative name comes first, which does not matter here
  simp only [List.mem_reverse]

end Name

namespace Certificate

variable (c : Certificate)

/-- The subject of a certificate is shown in one line exactly if its values are in one. -/
theorem unbroken_subject_iff : Unbroken c.subject ↔ c.document.body.subject.KeepsLine :=
  Name.unbroken_text?_iff c.subject_eq

/-- The same of the issuer. -/
theorem unbroken_issuer_iff : Unbroken c.issuer ↔ c.document.body.issuer.KeepsLine :=
  Name.unbroken_text?_iff c.issuer_eq

/-- Fingerprints are in one line. -/
theorem unbroken_fingerprint : Unbroken c.fingerprint :=
  (oneLine_hex _).unbroken

end Certificate

/-! ### What is printed -/

/-- **Octets that consist of lines** of text. -/
def Bytes.ConsistOf (octets : Bytes) (lines : List String) : Prop :=
  ∃ text, octets = ofText text ∧ ConsistsOf text lines

namespace Command

/-- Lines that are printed are as many lines for the reader only if they are not broken. -/
theorem consistOf_ofLines_iff {lines : List String} :
    (∃ others, others.length = lines.length ∧ (Delivery.ofLines lines).content.ConsistOf others)
      ↔ ∀ line ∈ lines, Unbroken line := by
  rw [← consistsOf_length_iff]
  constructor
  · rintro ⟨others, hlength, text, htext, hothers⟩
    -- the texts are the same if their octets are
    have hsame : textOfLines lines = text := Bytes.ofText_injective htext
    exact ⟨others, hlength, hsame ▸ hothers⟩
  · rintro ⟨others, hlength, hothers⟩
    exact ⟨others, hlength, _, rfl, hothers⟩

/-- Lines that are not broken are what is printed. -/
theorem consistOf_ofLines {lines : List String} (h : ∀ line ∈ lines, Unbroken line) :
    (Delivery.ofLines lines).content.ConsistOf lines :=
  ⟨textOfLines lines, rfl, rfl, h⟩

end Command

namespace Program

open Command

/-- **A report as it should be**: a line for the subject, one for the issuer, and behind them the
format and the fingerprint. -/
def IsReport (format : Format) (c : Certificate) (printed : Bytes) : Prop :=
  ∃ subject issuer, printed.ConsistOf ["subject: " ++ subject, "issuer: " ++ issuer,
    "format: " ++ format.name, "sha256: " ++ c.fingerprint]

/-- **A single line**, whatever it says. -/
def IsLine (printed : Bytes) : Prop :=
  ∃ line, printed.ConsistOf [line]

/-- A report is as it should be exactly if both names keep to their lines. -/
theorem isReport_iff {format : Format} {c : Certificate} :
    IsReport format c (Delivery.ofLines (report format c)).content
      ↔ c.document.body.subject.KeepsLine ∧ c.document.body.issuer.KeepsLine := by
  rw [← c.unbroken_subject_iff, ← c.unbroken_issuer_iff]
  constructor
  · rintro ⟨subject, issuer, hlines⟩
    -- as many lines were read as were printed, so none of those is broken
    have hall : ∀ line ∈ report format c, Unbroken line := by
      refine consistOf_ofLines_iff.mp ⟨_, ?_, hlines⟩
      rfl
    have hsubject := hall ("subject: " ++ c.subject) (by simp [report])
    have hissuer := hall ("issuer: " ++ c.issuer) (by simp [report])
    exact ⟨(unbroken_append.mp hsubject).2, (unbroken_append.mp hissuer).2⟩
  · rintro ⟨hsubject, hissuer⟩
    have hformat : Unbroken format.name := by
      cases format with
      | pem => decide
      | der => decide
    refine ⟨c.subject, c.issuer, consistOf_ofLines ?_⟩
    rw [report]
    simp only [List.forall_mem_cons, unbroken_append]
    exact ⟨⟨by decide, hsubject⟩, ⟨by decide, hissuer⟩, ⟨by decide, hformat⟩,
      ⟨by decide, c.unbroken_fingerprint⟩, List.forall_mem_nil _⟩

/-- A check is told in a line exactly if both subjects keep to it. -/
theorem isLine_iff {first second : Certificate} :
    IsLine (Delivery.ofLines ["OK: " ++ first.subject ++ " signs " ++ second.subject]).content
      ↔ first.document.body.subject.KeepsLine ∧ second.document.body.subject.KeepsLine := by
  rw [← first.unbroken_subject_iff, ← second.unbroken_subject_iff]
  constructor
  · rintro ⟨line, hline⟩
    have hall : ∀ told ∈ ["OK: " ++ first.subject ++ " signs " ++ second.subject], Unbroken told :=
      consistOf_ofLines_iff.mp ⟨[line], rfl, hline⟩
    simp only [List.forall_mem_singleton, unbroken_append] at hall
    obtain ⟨⟨⟨-, hfirst⟩, -⟩, hsecond⟩ := hall
    exact ⟨hfirst, hsecond⟩
  · rintro ⟨hfirst, hsecond⟩
    -- all other words in the line are known
    refine ⟨_, consistOf_ofLines (List.forall_mem_singleton.mpr ?_)⟩
    simp only [unbroken_append]
    exact ⟨⟨⟨by decide, hfirst⟩, by decide⟩, hsecond⟩

/-- A run that is a success has delivered what its command had to tell. -/
theorem Run.Reaches.delivers {run : Run} {command : Command} {settings : Settings}
    (h : run.Reaches command settings) (hcommand : ∀ signer, command ≠ .verify signer none)
    (hdone : run.ending = .done) :
    ∃ delivery, Delivers settings run.tree command delivery
      ∧ delivery.Delivered run.before run.after := by
  have hcarry := h.performOn_eq
  have hconcluded : Concluded command settings run.before (carry command settings run.before).1
      (carry command settings run.before).2 := concluded_carry hcommand
  rw [← hcarry] at hconcluded
  -- a run that is done ends with the code of a success, and such a run has delivered
  have hcode : run.ending.code = some 0 := by
    rw [hdone]
    rfl
  exact (hconcluded.done hcode).2

/-- A run prints what its command prints. -/
theorem Run.printed_of_delivered {run : Run} {lines : List String}
    (h : (Delivery.ofLines lines).Delivered run.before run.after) :
    run.after.printed = (Delivery.ofLines lines).content := by
  have hprinted : run.after.printed = [] ++ (Delivery.ofLines lines).content := h.1
  rw [hprinted]
  exact List.nil_append _

/-- **What is told in lines stays in them exactly if the names do.** A report that is a success is
about a file with a certificate. What is printed are the texts of its names and so on, and these
are the four lines that there should be exactly if neither the subject nor the issuer of the
certificate is broken. A check that is a success is about two certificates, and it prints one line
exactly if neither subject is broken. -/
theorem report_lines_iff (run : Run) (settings : Settings) (hdone : run.ending = .done) :
    (∀ path, run.Reaches (.info path) settings →
      ∃ content format c, run.tree.read path = .ok content
        ∧ CertChain.identify settings.strictDer content = .ok format
        ∧ Certificate.decode format content = .ok c
        ∧ run.after.printed = (Delivery.ofLines (report format c)).content
        ∧ (IsReport format c run.after.printed
          ↔ c.document.body.subject.KeepsLine ∧ c.document.body.issuer.KeepsLine))
    ∧ ∀ signer signee, run.Reaches (.verify signer (some signee)) settings →
        ∃ first second, Loaded settings.strictDer run.tree signer first
          ∧ Loaded settings.strictDer run.tree signee second
          ∧ (Pair.mk first second).verify = .ok ⟨first, second⟩
          ∧ run.after.printed
            = (Delivery.ofLines ["OK: " ++ first.subject ++ " signs " ++ second.subject]).content
          ∧ (IsLine run.after.printed ↔ first.document.body.subject.KeepsLine
            ∧ second.document.body.subject.KeepsLine) := by
  constructor
  · intro path hreaches
    obtain ⟨delivery, hdelivers, hdelivered⟩ := hreaches.delivers (by simp) hdone
    cases hdelivers with
    | @info _ format c hformat hloaded =>
      obtain ⟨content, hread, hformat⟩ := hformat
      obtain ⟨content', format', hread', hformat', hdecode⟩ := hloaded
      -- format and certificate are looked for in one file
      rw [hread] at hread'
      cases hread'
      rw [hformat] at hformat'
      cases hformat'
      have hprinted := Run.printed_of_delivered hdelivered
      exact ⟨content, format, c, hread, hformat, hdecode, hprinted, hprinted ▸ isReport_iff⟩
  · intro signer signee hreaches
    obtain ⟨delivery, hdelivers, hdelivered⟩ := hreaches.delivers (by simp) hdone
    cases hdelivers with
    | @verify _ _ first second hfirst hsecond hverify =>
      have hprinted := Run.printed_of_delivered hdelivered
      exact ⟨first, second, hfirst, hsecond, hverify, hprinted, hprinted ▸ isLine_iff⟩

/-- A command that has something to print is a success. -/
theorem Run.Reaches.done_of_delivers {run : Run} {command : Command} {settings : Settings}
    {lines : List String} (h : run.Reaches command settings)
    (hdelivers : Delivers settings run.tree command (.ofLines lines)) : run.ending = .done := by
  have hcarry := h.performOn_eq
  have hbefore : Delivers settings run.before.tree command (.ofLines lines) := hdelivers
  rcases carry_of_delivers hbefore with ⟨hdone, -⟩ | ⟨f, hundelivered, -⟩
  · rw [← hcarry] at hdone
    exact hdone
  · -- there is no file that could be refused, and the output is in order
    exact absurd hundelivered (Delivery.not_undelivered_ofLines rfl)

/-! ### A good name and a bad one -/

section Samples

variable {c : Certificate}

/-- A file that holds the octets of a certificate. -/
theorem loaded_oneFile (h : c.Decoded) :
    Detected false (oneFile c.toDer) (.ofText "x") .der
      ∧ Loaded false (oneFile c.toDer) (.ofText "x") c := by
  have hread := read_oneFile c.toDer
  have hformat := c.identify_toDer false
  have hdecode : Certificate.decode .der c.toDer = .ok c :=
    Certificate.decode_encode h.readDer_toDer .der
  exact ⟨⟨_, hread, hformat⟩, _, _, hread, hformat, hdecode⟩

/-- A report on this file. -/
def reportRun (c : Certificate) : Run :=
  ⟨["info", "x"], oneFile c.toDer, []⟩

/-- The report is asked for with the settings that there are without any. -/
theorem reaches_reportRun : (reportRun c).Reaches (.info (.ofText "x")) ⟨"INFO", false, .pem⟩ :=
  reaches_oneFile read_info rfl

/-- There is a report on a certificate that can be read. -/
theorem delivers_reportRun (h : c.Decoded) :
    Delivers ⟨"INFO", false, .pem⟩ (reportRun c).tree (.info (.ofText "x"))
      (.ofLines (report .der c)) :=
  .info (loaded_oneFile h).1 (loaded_oneFile h).2

/-- The report is a success. -/
theorem done_reportRun (h : c.Decoded) : (reportRun c).ending = .done :=
  reaches_reportRun.done_of_delivers (delivers_reportRun h)

/-- What is printed are the lines of the report. -/
theorem printed_reportRun (h : c.Decoded) :
    (reportRun c).after.printed = (Delivery.ofLines (report .der c)).content := by
  obtain ⟨delivery, hdelivers, hdelivered⟩ :=
    reaches_reportRun.delivers (by simp) (done_reportRun h)
  -- a command answers one thing
  have hanswer :=
    (answer_ok_iff.mpr hdelivers).symm.trans (answer_ok_iff.mpr (delivers_reportRun h))
  have hsame : delivery = .ofLines (report .der c) := Except.ok.inj (Except.ok.inj hanswer)
  rw [hsame] at hdelivered
  exact Run.printed_of_delivered hdelivered

end Samples

/-- A name with one attribute keeps to its line if its text does. -/
theorem keepsLine_commonName {text : Bytes} {shown : String}
    (h : (Certificate.commonName text).text? = some shown) (hshown : Unbroken shown) :
    (Certificate.commonName text).KeepsLine :=
  (Name.unbroken_text?_iff h).mp hshown

/-- A file can be checked against itself. -/
theorem read_verify_twice : CommandLine.Invocation.read ["verify", "x", "x"]
    = .ok ⟨none, false, .verify (.ofText "x") (some (.ofText "x"))⟩ := by
  cbv

/-- The small certificate accepts its own signature. -/
theorem verify_sample : (Pair.mk (Certificate.sample Algorithm.ed25519)
    (Certificate.sample Algorithm.ed25519)).verify
      = .ok ⟨Certificate.sample Algorithm.ed25519, Certificate.sample Algorithm.ed25519⟩ := by
  have hkey := Pair.hasKey_sample Algorithm.ed25519 Algorithm.ed25519
  have hscheme : ¬ Algorithm.HasScheme Algorithm.ed25519 := by decide
  have hholds : Eddsa.verify25519 Certificate.neutralPoint
      (Certificate.sample Algorithm.ed25519).document.body.write
      (Certificate.sample Algorithm.ed25519).document.signature.octets = true := by
    decide +kernel
  exact Pair.verify_ok_iff.mpr ⟨rfl, _, hkey, .ed25519 (.unnamed hscheme) hholds⟩

/-- Nothing is wrong with the names of the small certificate, which has signed itself. -/
theorem report_lines_sample :
    let c := Certificate.sample Algorithm.ed25519
    let check : Run := ⟨["verify", "x", "x"], oneFile c.toDer, []⟩
    (reportRun c).ending = .done ∧ IsReport .der c (reportRun c).after.printed
      ∧ check.ending = .done ∧ IsLine check.after.printed := by
  intro c check
  have hdecoded : c.Decoded := Certificate.decoded_sample
  obtain ⟨-, hloaded⟩ := loaded_oneFile hdecoded
  have hsubject : c.document.body.subject.KeepsLine :=
    keepsLine_commonName Certificate.text?_subject (by decide)
  have hissuer : c.document.body.issuer.KeepsLine :=
    keepsLine_commonName Certificate.text?_issuer (by decide)
  have hdone := done_reportRun hdecoded
  have hreaches : check.Reaches (.verify (.ofText "x") (some (.ofText "x")))
      ⟨"INFO", false, .pem⟩ := reaches_oneFile read_verify_twice rfl
  have hholds : check.ending = .done :=
    hreaches.done_of_delivers (.verify hloaded hloaded verify_sample)
  obtain ⟨hreports, -⟩ := report_lines_iff (reportRun c) ⟨"INFO", false, .pem⟩ hdone
  obtain ⟨-, hchecks⟩ := report_lines_iff check ⟨"INFO", false, .pem⟩ hholds
  refine ⟨hdone, ?_, hholds, ?_⟩
  · obtain ⟨content, format, other, hread, hformat, hdecode, -, hiff⟩ :=
      hreports _ reaches_reportRun
    -- the file holds nothing but the octets of this certificate
    cases (read_oneFile c.toDer).symm.trans hread
    cases (c.identify_toDer false).symm.trans hformat
    cases (Certificate.decode_encode hdecoded.readDer_toDer .der).symm.trans hdecode
    exact hiff.mpr ⟨hsubject, hissuer⟩
  · obtain ⟨first, second, hfirst, hsecond, -, -, hiff⟩ := hchecks _ _ hreaches
    have hone : ∀ other, Loaded false (oneFile c.toDer) (.ofText "x") other → other = c := by
      intro other hother
      have hsame := (certificateOf_ok_iff.mpr hother).symm.trans (certificateOf_ok_iff.mpr hloaded)
      exact Except.ok.inj hsame
    cases hone first hfirst
    cases hone second hsecond
    exact hiff.mpr ⟨hsubject, hsubject⟩

/-- The forged name in words, with the line feed as it is. -/
theorem text?_forged :
    (Certificate.commonName (Bytes.ofText "a\nissuer: CN=b")).text?
      = some "CN=a\nissuer: CN=b" := by
  decide +kernel

/-- The small certificate, with a subject that names an issuer in a line of its own. -/
def forged : Certificate where
  document :=
    let document := Certificate.sampleDocument Algorithm.ed25519
    { document with
      body := { document.body with
        subject := Certificate.commonName (Bytes.ofText "a\nissuer: CN=b") } }
  subject := "CN=a\nissuer: CN=b"
  issuer := "CN=ca"
  subject_eq := text?_forged
  issuer_eq := Certificate.text?_issuer

/-- The forged certificate is read from its own octets. -/
theorem decoded_forged : forged.Decoded := by
  have hread : Certificate.readDer forged.toDer = .ok forged := by
    decide +kernel
  exact .der (Certificate.fromDer_toDer hread)

/-- **A certificate gives itself an issuer.** In the report on it there are two lines that begin as
the issuer's does, and the first of them is made up. -/
theorem not_isReport_forged :
    forged.Decoded ∧ (reportRun forged).Reaches (.info (.ofText "x")) ⟨"INFO", false, .pem⟩
      ∧ (reportRun forged).ending = .done
      ∧ (reportRun forged).after.printed.ConsistOf
        ["subject: CN=a", "issuer: CN=b", "issuer: CN=ca", "format: der",
          "sha256: " ++ forged.fingerprint]
      ∧ ¬ IsReport .der forged (reportRun forged).after.printed := by
  have hbroken : ¬ Unbroken forged.subject := by decide
  have hlines : textOfLines (report .der forged) = textOfLines ["subject: CN=a", "issuer: CN=b",
      "issuer: CN=ca", "format: der", "sha256: " ++ forged.fingerprint] := by
    -- the first line of the report is two lines
    have hfirst : "subject: " ++ forged.subject ++ "\n"
        = "subject: CN=a" ++ "\n" ++ ("issuer: CN=b" ++ "\n") := by decide
    rw [report, textOfLines_cons, hfirst, String.append_assoc, ← textOfLines_cons,
      ← textOfLines_cons]
    rfl
  rw [printed_reportRun decoded_forged, isReport_iff, ← forged.unbroken_subject_iff]
  refine ⟨decoded_forged, reaches_reportRun, done_reportRun decoded_forged,
    ⟨_, rfl, hlines, ?_⟩, fun h => hbroken h.1⟩
  simp only [List.forall_mem_cons, unbroken_append]
  exact ⟨by decide, by decide, by decide, by decide, ⟨by decide, forged.unbroken_fingerprint⟩,
    List.forall_mem_nil _⟩

end Program
end CertChain
