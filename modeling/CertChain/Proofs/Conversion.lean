import CertChain.Proofs.Atomicity
import CertChain.Proofs.Certificate.Canonical

/-!
# Conversions one after the other

A conversion reads a file and puts its certificate out in a format. What it puts out can be
converted again, by a run of its own, with its own command line and on its own machine, and so on
any number of times. Nothing is lost or added on the way: every run of such a chain succeeds,
however strictly it reads, and the last one puts out what it would have put out for the file at
the beginning (`Program.path_independent`).

What is kept along a chain is that the content of the file is a form of one certificate
(`Certificate.IsForm`). A run that reads such a content finds the certificate and puts out one of
its two encodings (`Program.Conversion.converts`), and the encodings are forms of it again. So
the chain is an induction with nothing in it but this step, and reports on any file of the chain
speak of the same certificate.
-/

namespace CertChain

/-! ### Forms of a certificate -/

namespace Certificate

variable {c : Certificate} {content : Bytes}

/-- **A form of a certificate**: octets that are read as the certificate, strictly or not. -/
def IsForm (c : Certificate) (content : Bytes) : Prop :=
  ∀ strict, fromBytes strict content = .ok c

/-- What is read strictly or leniently is read either way. -/
theorem isForm_of_fromBytes {strict : Bool} (h : fromBytes strict content = .ok c) :
    c.IsForm content :=
  fun other => (fromBytes_ok_iff other strict c).mpr h

/-- What is written of a certificate that has a form is a form. -/
theorem IsForm.encode (h : c.IsForm content) (format : Format) : c.IsForm (c.encode format) :=
  fun strict => (Decoded.bytes (h false)).fromBytes_eq format strict

/-- There is no second spelling of the octets of a certificate. -/
theorem IsForm.toDer_eq {other : Certificate} (h : c.IsForm content)
    (hder : fromDer content = .ok other) : c.toDer = content := by
  -- the other certificate is written as the content, and so it is read as the content is
  have hother : other.toDer = content := toDer_of_fromDer hder
  have hform : fromBytes false (other.encode .der) = .ok other :=
    (Decoded.der hder).fromBytes_eq .der false
  have hsame : Except.ok c = (Except.ok other : Outcome Certificate) := by
    rw [← h false, ← hform]
    exact congrArg (fromBytes false) hother.symm
  cases hsame
  exact hother

end Certificate

namespace Command

/-- The certificate of a file is what its content is read as. -/
theorem certificateOf_of_read {strict : Bool} {tree : FileTree} {path : Path} {content : Bytes}
    (hread : tree.read path = .ok content) :
    certificateOf strict tree path = Certificate.fromBytes strict content := by
  unfold certificateOf
  rw [contentOf_ok_iff.mpr hread]
  rfl

end Command

/-! ### Room for a file -/

namespace FileTree

variable {tree : FileTree} {path : Path}

/-- **There is room** for a file at the end of a path: the way to it is there, and it is no
directory. -/
def HasRoom (tree : FileTree) (path : Path) : Prop :=
  ∃ place, tree.locate path = .ok place ∧ tree.node? place ≠ some .directory

/-- A file can be written where there is room for it. -/
theorem write_of_hasRoom (h : tree.HasRoom path) (content : Bytes) :
    ∃ after, tree.write path content = .ok after := by
  obtain ⟨place, hlocate, hnode⟩ := h
  refine ⟨tree.put place (.file content), ?_⟩
  rw [write, hlocate]
  -- what is at the place is no directory
  simp only [bind, Except.bind]
  rfl

end FileTree

namespace Program

open Command

/-! ### Conversions -/

/-- **A conversion**: a run that gets as far as converting a file, with room for what it puts
out. -/
structure Conversion extends Run where
  source : Path
  /-- The format that is asked for, if one is. -/
  format : Option Format
  /-- The file to write; without one the result is printed. -/
  output : Option Path
  settings : Settings
  reaches : toRun.Reaches (.convert source format output) settings
  room : ∀ path, output = some path → tree.HasRoom path

namespace Conversion

variable (conversion : Conversion)

/-- The format to convert to: the one that is asked for, or else the one in the settings. -/
def target : Format :=
  conversion.format.getD conversion.settings.outputFormat

/-- What is in the file that is read. -/
def input : Except FileRefusal Bytes :=
  conversion.tree.read conversion.source

/-- **What is there afterwards**, on the standard output or in the file that was to be
written. -/
def result : Except FileRefusal Bytes :=
  match conversion.output with
  | none => .ok conversion.after.printed
  | some path => conversion.after.tree.read path

variable {conversion}

/-- What has been delivered is there. -/
theorem result_of_delivered {content : Bytes}
    (h : Delivery.Delivered ⟨content, conversion.output⟩ conversion.before conversion.after) :
    conversion.result = .ok content := by
  unfold result
  cases houtput : conversion.output with
  | none =>
    rw [houtput] at h
    exact congrArg Except.ok h.1
  | some path =>
    rw [houtput] at h
    exact h.2.read

variable {c : Certificate} {content : Bytes}

/-- **One conversion** of a file that holds a form of a certificate. -/
theorem converts (hinput : conversion.input = .ok content) (hform : c.IsForm content) :
    conversion.ending = .done ∧ conversion.result = .ok (c.encode conversion.target) := by
  have hloaded : Loaded conversion.settings.strictDer conversion.tree conversion.source c := by
    rw [← certificateOf_ok_iff, certificateOf_of_read hinput]
    exact hform conversion.settings.strictDer
  have hdelivers : Delivers conversion.settings conversion.before.tree
      (.convert conversion.source conversion.format conversion.output)
      ⟨c.encode conversion.target, conversion.output⟩ := .convert hloaded
  have hcarry := conversion.reaches.performOn_eq
  rcases carry_of_delivers hdelivers with hdone | ⟨f, hundelivered, -⟩
  · rw [← hcarry] at hdone
    exact ⟨hdone.1, result_of_delivered hdone.2⟩
  · cases hundelivered with
    | unprinted htarget houtput =>
      -- to begin with the output is in order
      cases houtput
    | unwritten htarget hwrite =>
      -- there is room, so writing is not refused
      obtain ⟨after, hafter⟩ :=
        FileTree.write_of_hasRoom (conversion.room _ htarget) (c.encode conversion.target)
      have hrefused : conversion.tree.write _ (c.encode conversion.target) = .error _ := hwrite
      rw [hafter] at hrefused
      cases hrefused

/-- A conversion that succeeds has read a form of a certificate. -/
theorem exists_isForm (hinput : conversion.input = .ok content)
    (hdone : conversion.ending = .done) : ∃ c : Certificate, c.IsForm content := by
  have hcarry := conversion.reaches.performOn_eq
  have hsome : ∀ signer, Command.convert conversion.source conversion.format conversion.output
      ≠ .verify signer none := by
    intro signer h
    cases h
  have hanswer : (∃ f, Refused conversion.settings conversion.before.tree _ f)
      ∨ ∃ delivery, Delivers conversion.settings conversion.before.tree _ delivery :=
    refused_or_delivers hsome
  rcases hanswer with ⟨f, hrefused⟩ | ⟨delivery, hdelivers⟩
  · -- a refused conversion has a failure to report
    have hcode := (reports_of_refused hrefused).1.code
    rw [← hcarry] at hcode
    have hcode : conversion.ending.code = some 1 := hcode
    rw [hdone] at hcode
    cases hcode
  · cases hdelivers with
    | convert hloaded =>
      have hbytes := certificateOf_ok_iff.mpr hloaded
      have hread : conversion.before.tree.read conversion.source = .ok content := hinput
      rw [certificateOf_of_read hread] at hbytes
      exact ⟨_, Certificate.isForm_of_fromBytes hbytes⟩

/-! ### Chains -/

/-- **A chain of conversions** that begins with some content: the first one reads this content,
and each of the others reads what the one before it has put out. -/
structure Chain (content : Bytes) (chain : List Conversion) : Prop where
  begins : ∀ first, chain.head? = some first → first.input = .ok content
  goesOn : chain.IsChain fun before after => after.input = before.result

/-- **All along a chain** it is one certificate that is read. -/
theorem Chain.reads {chain : List Conversion} (h : Chain content chain) (hform : c.IsForm content) :
    ∀ conversion ∈ chain, ∃ held, conversion.input = .ok held ∧ c.IsForm held := by
  -- the content that is read is a form of the certificate, at the beginning and then from one to
  -- the next
  refine List.IsChain.induction (fun conversion => ∃ held, conversion.input = .ok held
    ∧ c.IsForm held) chain h.goesOn ?_ ?_
  · -- what one conversion puts out is a form of the certificate, and the next one reads it
    intro before after hlink hbefore
    obtain ⟨held, hinput, hheld⟩ := hbefore
    have hresult := (converts hinput hheld).2
    refine ⟨c.encode before.target, ?_, hheld.encode before.target⟩
    rw [hlink, hresult]
  · intro hne
    exact ⟨content, h.begins _ (List.head?_eq_some_head hne), hform⟩

/-- All along a chain the conversions succeed and put out the same certificate. -/
theorem Chain.converts {chain : List Conversion} (h : Chain content chain)
    (hform : c.IsForm content) :
    ∀ conversion ∈ chain, conversion.ending = .done
      ∧ conversion.result = .ok (c.encode conversion.target) := by
  intro conversion hmem
  obtain ⟨held, hinput, hheld⟩ := h.reads hform conversion hmem
  exact Conversion.converts hinput hheld

end Conversion

/-! ### Reports -/

/-- **An inspection**: a run that gets as far as a report on a file. -/
structure Inspection extends Run where
  path : Path
  settings : Settings
  reaches : toRun.Reaches (.info path) settings

namespace Inspection

variable {inspection : Inspection} {c : Certificate} {content : Bytes}

/-- What is in the file that is looked at. -/
def input (inspection : Inspection) : Except FileRefusal Bytes :=
  inspection.tree.read inspection.path

/-- **A report** on a file that holds a form of a certificate. -/
theorem reports (hinput : inspection.input = .ok content) (hform : c.IsForm content) :
    inspection.ending = .done ∧ ∃ format : Format, inspection.after.printed
      = (Delivery.ofLines ["subject: " ++ c.subject, "issuer: " ++ c.issuer,
          "format: " ++ format.name, "sha256: " ++ c.fingerprint]).content := by
  have hloaded : Loaded inspection.settings.strictDer inspection.tree inspection.path c := by
    rw [← certificateOf_ok_iff, certificateOf_of_read hinput]
    exact hform inspection.settings.strictDer
  obtain ⟨held, format, hread, hformat, -⟩ := id hloaded
  have hdelivers : Delivers inspection.settings inspection.before.tree (.info inspection.path) _ :=
    .info ⟨held, hread, hformat⟩ hloaded
  have hcarry := inspection.reaches.performOn_eq
  rcases carry_of_delivers hdelivers with hdone | ⟨f, hundelivered, -⟩
  · rw [← hcarry] at hdone
    have hprinted : inspection.after.printed = inspection.before.printed ++ _ := hdone.2.1
    refine ⟨hdone.1, format, ?_⟩
    rw [hprinted]
    exact List.nil_append _
  · -- a report is printed, and the output is in order
    exact absurd hundelivered (Delivery.not_undelivered_ofLines rfl)

end Inspection

/-! ### Path independence -/

/-- **Conversion is path independent.** Take a file that some conversion accepts, and any chain of
conversions that begins with its content. Every run of the chain succeeds, and the last one puts
out what any single conversion of the file to the same format does. Octets of a certificate are
not changed when they are converted to octets. Reports on the file, and on all that is put out
along the way, name the same subject, the same issuer and the same fingerprint. -/
theorem path_independent {accepting : Conversion} {content : Bytes}
    (hinput : accepting.input = .ok content) (hdone : accepting.ending = .done) :
    (∀ chain, Conversion.Chain content chain →
      (∀ conversion ∈ chain, conversion.ending = .done)
      ∧ ∀ last direct : Conversion, chain.getLast? = some last → direct.input = .ok content →
        direct.target = last.target →
          direct.ending = .done
          ∧ ∃ octets, last.result = .ok octets ∧ direct.result = .ok octets)
    ∧ (∀ c, Certificate.fromDer content = .ok c →
      ∀ conversion : Conversion, conversion.input = .ok content → conversion.target = .der →
        conversion.ending = .done ∧ conversion.result = .ok content)
    ∧ ∃ subject issuer fingerprint, ∀ inspection : Inspection,
      (inspection.input = .ok content
        ∨ ∃ chain, Conversion.Chain content chain
          ∧ ∃ conversion ∈ chain, inspection.input = conversion.result) →
        inspection.ending = .done ∧ ∃ format : Format, inspection.after.printed
          = (Delivery.ofLines ["subject: " ++ subject, "issuer: " ++ issuer,
              "format: " ++ format.name, "sha256: " ++ fingerprint]).content := by
  obtain ⟨c, hform⟩ := Conversion.exists_isForm hinput hdone
  refine ⟨?_, ?_, c.subject, c.issuer, c.fingerprint, ?_⟩
  · intro chain hchain
    refine ⟨fun conversion hmem => (hchain.converts hform conversion hmem).1, ?_⟩
    intro last direct hlast hdirect htarget
    -- the last of the chain and the direct one put out the same certificate in one format
    have hend := (hchain.converts hform last (List.mem_of_getLast? hlast)).2
    have honce := Conversion.converts hdirect hform
    rw [htarget] at honce
    exact ⟨honce.1, _, hend, honce.2⟩
  · intro other hother conversion hconversion htarget
    have honce := Conversion.converts hconversion hform
    have hsame : c.encode .der = content := hform.toDer_eq hother
    rw [htarget, hsame] at honce
    exact honce
  · intro inspection hlook
    -- whatever is looked at is a form of the one certificate
    rcases hlook with hlook | ⟨chain, hchain, conversion, hmem, hlook⟩
    · exact Inspection.reports hlook hform
    · rw [(hchain.converts hform conversion hmem).2] at hlook
      exact Inspection.reports hlook (hform.encode conversion.target)

/-! ### A chain of two -/

/-- A tree with one file. -/
def oneFile (content : Bytes) : FileTree :=
  ⟨[(⟨.above 0, ["x"]⟩, .file content)]⟩

/-- The one file is read with its content. -/
theorem read_oneFile (content : Bytes) : (oneFile content).read (.ofText "x") = .ok content := by
  have hpath : Path.ofText "x" = ⟨.here, ["x"]⟩ := by cbv
  rw [hpath]
  rfl

/-- Beside the one file there is room for another one. -/
theorem hasRoom_oneFile (content : Bytes) : (oneFile content).HasRoom (.ofText "y") := by
  have hpath : Path.ofText "y" = ⟨.here, ["y"]⟩ := by cbv
  rw [hpath]
  refine ⟨⟨.above 0, ["y"]⟩, rfl, ?_⟩
  intro hnode
  cases hnode

/-- There is no file with settings beside the one file. -/
theorem settingsOn_oneFile (invocation : CommandLine.Invocation) (content : Bytes) :
    settingsOn invocation (.fresh (oneFile content) [])
      = Settings.load invocation.choices [] none := by
  have hpath : settingsPath = ⟨.here, [".env"]⟩ := by cbv
  have hread : (oneFile content).read settingsPath = .error .noEntry := by
    rw [hpath]
    rfl
  exact settingsOn_of_unread hread invocation

/-- A line that is understood reaches its command, if its settings can be loaded. -/
theorem reaches_oneFile {line : List String} {content : Bytes} {invocation : CommandLine.Invocation}
    {settings : Settings} (hread : CommandLine.Invocation.read line = .ok invocation)
    (hload : Settings.load invocation.choices [] none = .ok settings) :
    Run.Reaches ⟨line, oneFile content, []⟩ invocation.command settings :=
  ⟨invocation, hread, rfl, (settingsOn_oneFile invocation content).trans hload⟩

/-- The line that asks for a conversion and says nothing more. -/
theorem read_convert : CommandLine.Invocation.read ["convert", "x"]
    = .ok ⟨none, false, .convert (.ofText "x") none none⟩ := by
  cbv

/-- The line that asks for a strict conversion to octets in a second file. -/
theorem read_convert_strictly :
    CommandLine.Invocation.read ["--strict-der", "convert", "x", "--to", "der", "-o", "y"]
      = .ok ⟨none, true, .convert (.ofText "x") (some .der) (some (.ofText "y"))⟩ := by
  cbv

/-- The content of the file is printed as text. -/
def toText (content : Bytes) : Conversion where
  line := ["convert", "x"]
  tree := oneFile content
  environment := []
  source := .ofText "x"
  format := none
  output := none
  settings := ⟨"INFO", false, .pem⟩
  reaches := reaches_oneFile read_convert (by cbv)
  room := nofun

/-- A strict conversion writes octets to a second file. -/
def toOctets (content : Bytes) : Conversion where
  line := ["--strict-der", "convert", "x", "--to", "der", "-o", "y"]
  tree := oneFile content
  environment := []
  source := .ofText "x"
  format := some .der
  output := some (.ofText "y")
  settings := ⟨"INFO", true, .pem⟩
  reaches := reaches_oneFile read_convert_strictly (by cbv)
  room := by
    rintro path ⟨⟩
    exact hasRoom_oneFile _

/-- The octets of a certificate come back when the text that is made of them is converted. -/
theorem path_independent_sample :
    let c := Certificate.sample Algorithm.ed25519
    let chain := [toText c.toDer, toOctets c.toPem]
    (toText c.toDer).input = .ok c.toDer ∧ (toText c.toDer).ending = .done
      ∧ Conversion.Chain c.toDer chain ∧ (∀ conversion ∈ chain, conversion.ending = .done)
      ∧ (toOctets c.toPem).result = .ok c.toDer := by
  intro c chain
  have hform : c.IsForm c.toDer := fun strict => Certificate.decoded_sample.fromBytes_eq .der strict
  have hinput : (toText c.toDer).input = .ok c.toDer := read_oneFile c.toDer
  obtain ⟨hdone, hresult⟩ := Conversion.converts hinput hform
  -- the text that was printed is what the second one reads
  have hlink : (toOctets c.toPem).input = (toText c.toDer).result := by
    rw [hresult]
    exact read_oneFile c.toPem
  have hchain : Conversion.Chain c.toDer chain := by
    refine ⟨?_, by simpa [chain] using hlink⟩
    rintro first ⟨⟩
    exact hinput
  obtain ⟨halong, hoctets, -⟩ := path_independent hinput hdone
  obtain ⟨hall, honce⟩ := halong chain hchain
  have hdirect : (toOctets c.toDer).input = .ok c.toDer := read_oneFile c.toDer
  obtain ⟨-, octets, hlast, hsame⟩ := honce _ (toOctets c.toDer) rfl hdirect rfl
  have hder : Certificate.fromDer c.toDer = .ok c :=
    Certificate.fromDer_toDer Certificate.decoded_sample.readDer_toDer
  rw [(hoctets c hder _ hdirect rfl).2] at hsame
  cases hsame
  exact ⟨hinput, hdone, hchain, hall, hlast⟩

end Program
end CertChain
