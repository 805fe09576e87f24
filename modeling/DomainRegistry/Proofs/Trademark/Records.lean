import DomainRegistry.Proofs.Bytes.Base64
import DomainRegistry.Proofs.Json.Records
import DomainRegistry.Trademark.Mark

/-!
The JSON forms of marks, certificates and revocation lists there and back. Main statements: each of
them is read back from its form, and its form is a document that is read back from its text.
-/

namespace DomainRegistry

open Json

theorem bytes_hasForm : HasForm bytes? ofBytes where
  back bytes := by
    change (Base64.decodeText .absent (Base64.encodeText .absent bytes)).toOption = some bytes
    rw [Base64.decodeText_encodeText]
    rfl
  writable bytes := .scalar (.str _)

namespace RevocationReason

theorem word?_word (r : RevocationReason) : word? words (str r.word) = some r := by
  cases r <;> decide

end RevocationReason

theorem CertificateData.hasForm : HasForm CertificateData.ofJson? CertificateData.toJson where
  back c := by
    have distinct : ["serial", "subject", "publicKey", "notBefore", "notAfter"].Nodup := by decide
    simp only [ofJson?, toJson, Option.bind_eq_bind, Option.bind_eq_some_iff]
    exact ⟨_, exactFields?_obj (by rfl) distinct,
      _, required_of_mem (by rfl) distinct (by simp) (word64_hasForm.back c.serial),
      _, required_of_mem (by rfl) distinct (by simp) (str_hasForm.back c.subject),
      _, required_of_mem (by rfl) distinct (by simp) (bytes_hasForm.back c.publicKey),
      _, required_of_mem (by rfl) distinct (by simp) (instant_hasForm.back c.notBefore),
      _, required_of_mem (by rfl) distinct (by simp) (instant_hasForm.back c.notAfter), rfl⟩
  writable c := .obj <| by
    simp [word64_hasForm.writable, str_hasForm.writable, bytes_hasForm.writable,
      instant_hasForm.writable]

theorem Certificate.hasForm : HasForm Certificate.ofJson? Certificate.toJson where
  back c := by
    have distinct : ["data", "signature"].Nodup := by decide
    simp only [ofJson?, toJson, Option.bind_eq_bind, Option.bind_eq_some_iff]
    exact ⟨_, fields?_obj (by rfl) distinct,
      _, required_of_mem (by rfl) distinct (by simp) (CertificateData.hasForm.back c.data),
      _, required_of_mem (by rfl) distinct (by simp) (bytes_hasForm.back c.signature), rfl⟩
  writable c := .obj <| by
    simp [CertificateData.hasForm.writable, bytes_hasForm.writable]

theorem MarkData.hasForm : HasForm MarkData.ofJson? MarkData.toJson where
  back m := by
    have distinct : ["id", "markName", "holder", "labels", "notBefore", "notAfter"].Nodup := by
      decide
    simp only [ofJson?, toJson, Option.bind_eq_bind, Option.bind_eq_some_iff]
    exact ⟨_, exactFields?_obj (by rfl) distinct,
      _, required_of_mem (by rfl) distinct (by simp) (str_hasForm.back m.id),
      _, required_of_mem (by rfl) distinct (by simp) (str_hasForm.back m.markName),
      _, required_of_mem (by rfl) distinct (by simp) (str_hasForm.back m.holder),
      _, required_of_mem (by rfl) distinct (by simp) (strings_hasForm.back m.labels),
      _, required_of_mem (by rfl) distinct (by simp) (instant_hasForm.back m.notBefore),
      _, required_of_mem (by rfl) distinct (by simp) (instant_hasForm.back m.notAfter), rfl⟩
  writable m := .obj <| by
    simp [str_hasForm.writable, strings_hasForm.writable, instant_hasForm.writable]

theorem SignedMark.hasForm : HasForm SignedMark.ofJson? SignedMark.toJson where
  back m := by
    have distinct : ["data", "signature", "certificate"].Nodup := by decide
    simp only [ofJson?, toJson, Option.bind_eq_bind, Option.bind_eq_some_iff]
    exact ⟨_, fields?_obj (by rfl) distinct,
      _, required_of_mem (by rfl) distinct (by simp) (MarkData.hasForm.back m.data),
      _, required_of_mem (by rfl) distinct (by simp) (bytes_hasForm.back m.signature),
      _, required_of_mem (by rfl) distinct (by simp) (Certificate.hasForm.back m.certificate), rfl⟩
  writable m := .obj <| by
    simp [MarkData.hasForm.writable, bytes_hasForm.writable, Certificate.hasForm.writable]

theorem RevokedCertificate.hasForm :
    HasForm RevokedCertificate.ofJson? RevokedCertificate.toJson where
  back r := by
    have distinct : ["serial", "revokedAt", "reason"].Nodup := by decide
    simp only [ofJson?, toJson, Option.bind_eq_bind, Option.bind_eq_some_iff]
    exact ⟨_, fields?_obj (by rfl) distinct,
      _, required_of_mem (by rfl) distinct (by simp) (word64_hasForm.back r.serial),
      _, required_of_mem (by rfl) distinct (by simp) (instant_hasForm.back r.revokedAt),
      _, required_of_mem (by rfl) distinct (by simp) r.reason.word?_word, rfl⟩
  writable r := .obj <| by
    simp [word64_hasForm.writable, instant_hasForm.writable, str_hasForm.writable]

theorem RevocationData.hasForm : HasForm RevocationData.ofJson? RevocationData.toJson where
  back d := by
    have distinct : ["thisUpdate", "revoked"].Nodup := by decide
    have rows := (list_hasForm RevokedCertificate.hasForm).back d.revoked
    simp only [ofJson?, toJson, Option.bind_eq_bind, Option.bind_eq_some_iff]
    exact ⟨_, exactFields?_obj (by rfl) distinct,
      _, required_of_mem (by rfl) distinct (by simp) (instant_hasForm.back d.thisUpdate),
      _, required_of_mem (by rfl) distinct (by simp) rows, rfl⟩
  writable d := .obj <| by
    simp [instant_hasForm.writable, (list_hasForm RevokedCertificate.hasForm).writable]

theorem SignedRevocations.hasForm :
    HasForm SignedRevocations.ofJson? SignedRevocations.toJson where
  back s := by
    have distinct : ["data", "signature"].Nodup := by decide
    simp only [ofJson?, toJson, Option.bind_eq_bind, Option.bind_eq_some_iff]
    exact ⟨_, fields?_obj (by rfl) distinct,
      _, required_of_mem (by rfl) distinct (by simp) (RevocationData.hasForm.back s.data),
      _, required_of_mem (by rfl) distinct (by simp) (bytes_hasForm.back s.signature), rfl⟩
  writable s := .obj <| by
    simp [RevocationData.hasForm.writable, bytes_hasForm.writable]

end DomainRegistry
