import CircuitAbi.Command.Run
import CircuitAbi.Main
import CircuitAbi.Program
import CircuitAbi.Proofs.Canonical
import CircuitAbi.Proofs.Derivation
import CircuitAbi.Proofs.Diagnosis
import CircuitAbi.Proofs.FirstFault
import CircuitAbi.Proofs.Inhabitant
import CircuitAbi.Proofs.IntegerSetting
import CircuitAbi.Proofs.KeyOrder
import CircuitAbi.Proofs.Modulus
import CircuitAbi.Proofs.OutFile
import CircuitAbi.Proofs.Refusals
import CircuitAbi.Proofs.Showing
import CircuitAbi.Proofs.SignatureText
import CircuitAbi.Proofs.Snapshot
import CircuitAbi.Proofs.Spelling
import CircuitAbi.Proofs.Strictness
import CircuitAbi.Proofs.TextEquality
import CircuitAbi.Proofs.Utf8
import CircuitAbi.Proofs.Verdict
import CircuitAbi.Settings.Session
import CircuitAbi.Value.Equality
