import TlsIdentity.Files.Directory
import TlsIdentity.Files.Pem

/-!
# Sources of files

What is loaded from files depends on a file system and on a reader of sections. Neither is part of the library,
so both are taken as they come: a source answers what stands in the file at a path, and what the contents of a
file hold. A directory whose files are read by `Pem` is one source.
-/

namespace TlsIdentity

/-- Where files are read, and by whom. -/
structure FileSource where
  /-- The contents of the file at a path. -/
  read : String → Except ReadError (List UInt8)
  /-- The certificates in the contents of a file, in their order. -/
  certificates : List UInt8 → Except PemError (List Certificate)
  /-- The first private key in the contents of a file, if there is one. -/
  privateKey : List UInt8 → Except PemError (Option PrivateKey)

/-- The files of a directory. -/
def Directory.source (files : Directory) : FileSource where
  read := files.read
  certificates := Pem.certificates
  privateKey := Pem.privateKey

instance : Coe Directory FileSource := ⟨Directory.source⟩

end TlsIdentity
