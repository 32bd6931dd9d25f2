import CertChain.Algorithm
import CertChain.Algorithm.Known
import CertChain.Algorithm.Parameters
import CertChain.Bundle
import CertChain.Bytes
import CertChain.Certificate
import CertChain.Certificate.Detection
import CertChain.Certificate.Document
import CertChain.Certificate.Loader
import CertChain.Command
import CertChain.CommandLine.Grammar
import CertChain.CommandLine.Invocation
import CertChain.Curve.Edwards
import CertChain.Curve.Named
import CertChain.Curve.Weierstrass
import CertChain.Datum
import CertChain.Der.Element
import CertChain.Der.Primitive
import CertChain.Digest.Blocks
import CertChain.Digest.HashFunction
import CertChain.Digest.Keccak
import CertChain.Digest.Md5
import CertChain.Digest.Sha1
import CertChain.Digest.Sha2
import CertChain.Failure
import CertChain.Fault
import CertChain.Fault.Arguments
import CertChain.Fault.Passage
import CertChain.Fault.Trace
import CertChain.FileTree
import CertChain.Format
import CertChain.Host
import CertChain.Log
import CertChain.Main
import CertChain.Modular
import CertChain.Name
import CertChain.Oid
import CertChain.Outcome
import CertChain.Pair
import CertChain.Path
import CertChain.Pem
import CertChain.Program
import CertChain.Proofs.Acceptance
import CertChain.Proofs.Agreement
import CertChain.Proofs.Atomicity
import CertChain.Proofs.Bundle
import CertChain.Proofs.Bytes
import CertChain.Proofs.Certificate
import CertChain.Proofs.Certificate.Armour
import CertChain.Proofs.Certificate.Canonical
import CertChain.Proofs.Certificate.Decoder
import CertChain.Proofs.Certificate.InHand
import CertChain.Proofs.Certificate.Sameness
import CertChain.Proofs.Certificate.Truncation
import CertChain.Proofs.Command
import CertChain.Proofs.Command.Stages
import CertChain.Proofs.CommandLine
import CertChain.Proofs.CommandLine.Given
import CertChain.Proofs.CommandLine.Insertion
import CertChain.Proofs.CommandLine.Target
import CertChain.Proofs.Confusion
import CertChain.Proofs.Conversion
import CertChain.Proofs.Datum
import CertChain.Proofs.Der.Element
import CertChain.Proofs.Der.Extent
import CertChain.Proofs.Der.Primitive
import CertChain.Proofs.Detection
import CertChain.Proofs.Diagnostic
import CertChain.Proofs.Document
import CertChain.Proofs.Failure.Story
import CertChain.Proofs.Fault
import CertChain.Proofs.Fault.Kind
import CertChain.Proofs.Fault.Passage
import CertChain.Proofs.Fault.Words
import CertChain.Proofs.FileTree
import CertChain.Proofs.Format
import CertChain.Proofs.Level
import CertChain.Proofs.Logging
import CertChain.Proofs.Machine
import CertChain.Proofs.Name
import CertChain.Proofs.Outcome
import CertChain.Proofs.Outcome.Boundary
import CertChain.Proofs.Outcome.Combination
import CertChain.Proofs.Outcome.Tracks
import CertChain.Proofs.Pem
import CertChain.Proofs.Pem.Decoding
import CertChain.Proofs.Pem.Extent
import CertChain.Proofs.Pem.Label
import CertChain.Proofs.Pipeline
import CertChain.Proofs.Pipeline.Order
import CertChain.Proofs.Pipeline.Regrouping
import CertChain.Proofs.Program
import CertChain.Proofs.Report
import CertChain.Proofs.Settings
import CertChain.Proofs.Settings.DotEnv
import CertChain.Proofs.Settings.Precedence
import CertChain.Proofs.Settings.Reference
import CertChain.Proofs.Signature
import CertChain.Proofs.Strictness
import CertChain.Proofs.Text.Base64
import CertChain.Proofs.Text.Lines
import CertChain.Proofs.Text.OneLine
import CertChain.Proofs.Text.Quoted
import CertChain.Proofs.Text.Utf
import CertChain.Proofs.Threshold
import CertChain.Proofs.Timestamp
import CertChain.Proofs.Unsettled
import CertChain.Proofs.Value
import CertChain.Proofs.Value.Comparison
import CertChain.Proofs.Value.Text
import CertChain.Proofs.Verification
import CertChain.Proofs.Verification.Evidence
import CertChain.Proofs.Verification.Hashes
import CertChain.Proofs.Watched
import CertChain.PublicKey
import CertChain.Settings
import CertChain.Settings.DotEnv
import CertChain.Signature.Check
import CertChain.Signature.Dsa
import CertChain.Signature.Eddsa
import CertChain.Signature.Rsa
import CertChain.Text.Base64
import CertChain.Text.Blank
import CertChain.Text.Digit
import CertChain.Text.Printable
import CertChain.Text.Quoted
import CertChain.Text.Utf
import CertChain.Timestamp
import CertChain.Timestamp.Reader
import CertChain.Value
