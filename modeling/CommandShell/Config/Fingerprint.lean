import CommandShell.Digest.Sha256
import CommandShell.Json.Canonical

/-! # Fingerprints of configurations

The fingerprint of a configuration is the digest of its canonical text, so configurations that differ
only in the order of their keys have the same one. -/

namespace CommandShell.Config

inductive FingerprintFault where
  | root (typeName : String)
  | unwritable (fault : Json.WriteFault)
deriving DecidableEq, Repr

/-- The name of the kind of a fault. -/
def FingerprintFault.kind : FingerprintFault → String
  | .root _ => "TypeError"
  | .unwritable fault => fault.kind

def FingerprintFault.message : FingerprintFault → String
  | .root typeName => s!"Config para hashing deve ser dict, recebido: {typeName}"
  | .unwritable fault => fault.message

/-- The fingerprint of a configuration, which has to be a mapping with a canonical text. -/
def fingerprint (config : Value) : Except FingerprintFault String :=
  match config with
  | .map _ =>
    match Json.write config with
    | .ok text => .ok (Sha256.ofString text)
    | .error fault => .error (.unwritable fault)
  | config => .error (.root config.typeName)

end CommandShell.Config
