import DomainRegistry.Proofs.Json.Records
import DomainRegistry.Proofs.Money.Written
import DomainRegistry.Record.Command

/-!
Create commands in JSON, there and back. Main statement: a command that was read once is read again
from its written form. Of its parts only the fee asks for the first reading, as the least of the
amounts of 64 bits is written but not read.
-/

namespace DomainRegistry

open Json

theorem ContactRole.hasForm : HasForm (word? ContactRole.words) fun r => str r.word :=
  word_hasForm fun r => by cases r <;> decide

theorem PeriodUnit.hasForm : HasForm (word? PeriodUnit.words) fun u => str u.word :=
  word_hasForm fun u => by cases u <;> decide

theorem LaunchPhase.hasForm : HasForm (word? LaunchPhase.words) fun p => str p.word :=
  word_hasForm fun p => by cases p <;> decide

theorem ContactLink.hasForm : HasForm ContactLink.ofJson? ContactLink.toJson where
  back c := by
    have distinct : ["type", "contactId"].Nodup := by decide
    have role := (optional_hasForm ContactRole.hasForm rfl).back c.role
    refine bind_of_some (fields?_obj (by rfl) distinct) ?_
    refine bind_of_some (optional_of_mem (by rfl) distinct (by simp) role) ?_
    refine bind_of_some (required_of_mem (by rfl) distinct (by simp)
      (str_hasForm.back c.contactId)) ?_
    rfl
  writable c := .obj <| by
    simp [(optional_hasForm ContactRole.hasForm rfl).writable, str_hasForm.writable]

theorem Period.hasForm : HasForm Period.ofJson? Period.toJson where
  back p := by
    have distinct : ["unit", "value"].Nodup := by decide
    refine bind_of_some (fields?_obj (by rfl) distinct) ?_
    refine bind_of_some (required_of_mem (by rfl) distinct (by simp)
      (PeriodUnit.hasForm.back p.unit)) ?_
    refine bind_of_some (required_of_mem (by rfl) distinct (by simp)
      (word32_hasForm.back p.value)) ?_
    rfl
  writable p := .obj <| by
    simp [PeriodUnit.hasForm.writable, word32_hasForm.writable]

theorem DsData.hasForm : HasForm DsData.ofJson? DsData.toJson where
  back d := by
    have distinct : ["keyTag", "algorithm", "digestType", "digest"].Nodup := by decide
    refine bind_of_some (fields?_obj (by rfl) distinct) ?_
    refine bind_of_some (required_of_mem (by rfl) distinct (by simp)
      (word16_hasForm.back d.keyTag)) ?_
    refine bind_of_some (required_of_mem (by rfl) distinct (by simp)
      (byte_hasForm.back d.algorithm)) ?_
    refine bind_of_some (required_of_mem (by rfl) distinct (by simp)
      (byte_hasForm.back d.digestType)) ?_
    refine bind_of_some (required_of_mem (by rfl) distinct (by simp) (str_hasForm.back d.digest)) ?_
    rfl
  writable d := .obj <| by
    simp [word16_hasForm.writable, byte_hasForm.writable, str_hasForm.writable]

theorem SecDns.hasForm : HasForm SecDns.ofJson? SecDns.toJson where
  back s := by
    have distinct : ["dsData", "maxSigLife"].Nodup := by decide
    have records := (list_hasForm DsData.hasForm).back s.dsData
    have life := (optional_hasForm word64_hasForm rfl).back s.maxSigLife
    refine bind_of_some (fields?_obj (by rfl) distinct) ?_
    refine bind_of_some (orElse_of_mem (by rfl) distinct (by simp) records) ?_
    refine bind_of_some (orElse_of_mem (by rfl) distinct (by simp) life) ?_
    rfl
  writable s := .obj <| by
    simp [(list_hasForm DsData.hasForm).writable, (optional_hasForm word64_hasForm rfl).writable]

theorem MarkEvidence.hasForm : HasForm MarkEvidence.ofJson? MarkEvidence.toJson where
  back m := by
    cases m with
    | encoded encoding data =>
      have distinct : ["encoding", "data"].Nodup := by decide
      have readable : (some (toJson (encoded encoding data))).filter (isReadable maxDepth)
          = some (toJson (encoded encoding data)) := by rfl
      have form : formOf? (toJson (encoded encoding data))
          = some ("encoded", obj [("encoding", str encoding), ("data", str data)]) := by rfl
      rw [ofJson?, readable, Option.bind_some, form]
      simp only [Option.bind_eq_bind, Option.bind_some, reduceIte]
      refine bind_of_some (fields?_obj (by rfl) distinct) ?_
      refine bind_of_some (required_of_mem (by rfl) distinct (by simp)
        (str_hasForm.back encoding)) ?_
      refine bind_of_some (required_of_mem (by rfl) distinct (by simp) (str_hasForm.back data)) ?_
      rfl
    | unencoded id =>
      have distinct : ["id"].Nodup := by decide
      have readable : (some (toJson (unencoded id))).filter (isReadable maxDepth)
          = some (toJson (unencoded id)) := by rfl
      have form : formOf? (toJson (unencoded id)) = some ("unencoded", obj [("id", str id)]) := by
        rfl
      have other : "unencoded" ≠ "encoded" := by decide
      rw [ofJson?, readable, Option.bind_some, form]
      simp only [Option.bind_eq_bind, Option.bind_some, if_neg other, reduceIte]
      refine bind_of_some (fields?_obj (by rfl) distinct) ?_
      refine bind_of_some (required_of_mem (by rfl) distinct (by simp) (str_hasForm.back id)) ?_
      rfl
  writable m := by
    cases m with
    | encoded => exact .obj (by simp [str_hasForm.writable])
    | unencoded => exact .obj (by simp [str_hasForm.writable])

theorem ClaimsNotice.hasForm : HasForm ClaimsNotice.ofJson? ClaimsNotice.toJson where
  back n := by
    have distinct : ["tcnId", "validatorId", "expirationTime", "acceptedTime"].Nodup := by decide
    refine bind_of_some (fields?_obj (by rfl) distinct) ?_
    refine bind_of_some (required_of_mem (by rfl) distinct (by simp) (str_hasForm.back n.tcnId)) ?_
    refine bind_of_some (required_of_mem (by rfl) distinct (by simp)
      (str_hasForm.back n.validatorId)) ?_
    refine bind_of_some (required_of_mem (by rfl) distinct (by simp)
      (instant_hasForm.back n.expirationTime)) ?_
    refine bind_of_some (required_of_mem (by rfl) distinct (by simp)
      (instant_hasForm.back n.acceptedTime)) ?_
    rfl
  writable n := .obj <| by
    simp [str_hasForm.writable, instant_hasForm.writable]

theorem codeMark_hasForm : HasForm codeMark? codeMarkToJson where
  back code := by
    have distinct : ["code"].Nodup := by decide
    refine bind_of_some (fields?_obj (by rfl) distinct) ?_
    exact required_of_mem (by rfl) distinct (by simp) (str_hasForm.back code)
  writable code := .obj <| by
    simp [str_hasForm.writable]

theorem Launch.hasForm : HasForm Launch.ofJson? Launch.toJson where
  back l := by
    have distinct : ["phase", "signedMarks", "codeMarks", "notice"].Nodup := by decide
    have marks := (list_hasForm MarkEvidence.hasForm).back l.signedMarks
    have codes := (list_hasForm codeMark_hasForm).back l.codeMarks
    have notice := (optional_hasForm ClaimsNotice.hasForm rfl).back l.notice
    refine bind_of_some (fields?_obj (by rfl) distinct) ?_
    refine bind_of_some (required_of_mem (by rfl) distinct (by simp)
      (LaunchPhase.hasForm.back l.phase)) ?_
    refine bind_of_some (orElse_of_mem (by rfl) distinct (by simp) marks) ?_
    refine bind_of_some (orElse_of_mem (by rfl) distinct (by simp) codes) ?_
    refine bind_of_some (orElse_of_mem (by rfl) distinct (by simp) notice) ?_
    rfl
  writable l := .obj <| by
    simp [LaunchPhase.hasForm.writable, (list_hasForm MarkEvidence.hasForm).writable,
      (list_hasForm codeMark_hasForm).writable,
      (optional_hasForm ClaimsNotice.hasForm rfl).writable]

theorem money_rereads : Rereads ZonePolicy.money? fun m => str m.render where
  again j m once := by
    obtain ⟨text, _, read⟩ := Option.bind_eq_some_iff.mp once
    rw [ZonePolicy.money?, string?, Option.bind_some]
    exact Money.parse?_render_of_parse? read
  writable m := .scalar (.str m.render)

theorem fee_rereads : Rereads fee? feeToJson where
  again j m once := by
    have distinct : ["fee"].Nodup := by decide
    obtain ⟨f, _, found⟩ := Option.bind_eq_some_iff.mp once
    refine bind_of_some (fields?_obj (by rfl) distinct) ?_
    exact required_of_mem (by rfl) distinct (by simp) (money_rereads.of_required found)
  writable m := .obj <| by
    simp [money_rereads.writable]

namespace CreateCommand

theorem ofJson?_toJson {c : CreateCommand}
    (fee : optional? fee? (ofOption feeToJson c.fee) = some c.fee) :
    ofJson? c.toJson = some c := by
  have distinct : fieldNames.Nodup := by decide
  have contacts := (list_hasForm ContactLink.hasForm).back c.contacts
  have secDns := (optional_hasForm SecDns.hasForm rfl).back c.secDns
  have launch := (optional_hasForm Launch.hasForm rfl).back c.launch
  refine bind_of_some (fields?_obj (by rfl) distinct) ?_
  refine bind_of_some (required_of_mem (by rfl) distinct (by simp) (str_hasForm.back c.name)) ?_
  refine bind_of_some (orElse_of_mem (by rfl) distinct (by simp) (Period.hasForm.back c.period)) ?_
  refine bind_of_some (optional_of_mem (by rfl) distinct (by simp)
    (optionalStr_hasForm.back c.registrant)) ?_
  refine bind_of_some (orElse_of_mem (by rfl) distinct (by simp) contacts) ?_
  refine bind_of_some (orElse_of_mem (by rfl) distinct (by simp)
    (strings_hasForm.back c.nameservers)) ?_
  refine bind_of_some (orElse_of_mem (by rfl) distinct (by simp)
    (str_hasForm.back c.authPassword)) ?_
  refine bind_of_some (orElse_of_mem (by rfl) distinct (by simp) secDns) ?_
  refine bind_of_some (orElse_of_mem (by rfl) distinct (by simp) launch) ?_
  refine bind_of_some (orElse_of_mem (by rfl) distinct (by simp) fee) ?_
  rfl

theorem exists_fee {j : Json} {c : CreateCommand} (once : ofJson? j = some c) :
    ∃ f : Fields, f.orElse "fee" (optional? fee?) none = some c.fee := by
  simp only [ofJson?, Option.bind_eq_bind, Option.bind_eq_some_iff] at once
  -- One field after another has been found, and their values make the command.
  repeat obtain ⟨_, _, once⟩ : ∃ _, _ ∧ _ := once
  cases once
  exact ⟨_, ‹_›⟩

theorem rereads : Rereads ofJson? toJson where
  again j c once := by
    obtain ⟨f, found⟩ := exists_fee once
    have fees := optional_rereads fee_rereads rfl
    exact ofJson?_toJson (fees.of_orElse rfl found)
  writable c := .obj <| by
    simp [str_hasForm.writable, Period.hasForm.writable, optionalStr_hasForm.writable,
      (list_hasForm ContactLink.hasForm).writable, strings_hasForm.writable,
      (optional_hasForm SecDns.hasForm rfl).writable,
      (optional_hasForm Launch.hasForm rfl).writable, (optional_rereads fee_rereads rfl).writable]

end CreateCommand

end DomainRegistry
