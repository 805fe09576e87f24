import DomainRegistry.Proofs.Record.Commands
import DomainRegistry.Proofs.Record.Flags
import DomainRegistry.Proofs.Record.IpAddresses
import DomainRegistry.Record.ResourceJson

/-!
Stored resources in JSON, there and back. Main statement: what was read from a text as a domain, a
host, a contact or a create command is read again from the text that is written for it.
-/

namespace DomainRegistry

open Json

theorem GraceKinds.hasForm : HasForm GraceKinds.ofJson? fun k => str k.render where
  back k := by
    rw [ofJson?, string?, Option.bind_some, parse?_render]
  writable k := .scalar (.str k.render)

theorem Status.hasForm : HasForm Status.ofJson? Status.toJson where
  back s := by
    rw [ofJson?, toJson, string?, Option.bind_some, parse?_render]
  writable s := .scalar (.str s.render)

theorem IpAddress.hasForm : HasForm IpAddress.ofJson? IpAddress.toJson where
  back a := by
    rw [ofJson?, toJson, string?, Option.bind_some, parse?_render]
  writable a := .scalar (.str a.render)

theorem GracePeriod.hasForm : HasForm GracePeriod.ofJson? GracePeriod.toJson where
  back g := by
    have distinct : ["kind", "expiration_time", "client_id"].Nodup := by decide
    refine bind_of_some (fields?_obj (by rfl) distinct) ?_
    refine bind_of_some (required_of_mem (by rfl) distinct (by simp)
      (GraceKinds.hasForm.back g.kind)) ?_
    refine bind_of_some (required_of_mem (by rfl) distinct (by simp)
      (instant_hasForm.back g.expirationTime)) ?_
    refine bind_of_some (required_of_mem (by rfl) distinct (by simp)
      (str_hasForm.back g.clientId)) ?_
    rfl
  writable g := .obj <| by
    simp [GraceKinds.hasForm.writable, instant_hasForm.writable, str_hasForm.writable]

theorem Domain.hasForm : HasForm Domain.ofJson? Domain.toJson where
  back d := by
    have distinct : fieldNames.Nodup := by decide
    have contacts := (list_hasForm ContactLink.hasForm).back d.contacts
    have dsData := (list_hasForm DsData.hasForm).back d.dsData
    have notice := (optional_hasForm ClaimsNotice.hasForm rfl).back d.claimsNotice
    have periods := (list_hasForm GracePeriod.hasForm).back d.gracePeriods
    refine bind_of_some (fields?_obj (by rfl) distinct) ?_
    refine bind_of_some (required_of_mem (by rfl) distinct (by simp) (str_hasForm.back d.repoId)) ?_
    refine bind_of_some (required_of_mem (by rfl) distinct (by simp) (str_hasForm.back d.name)) ?_
    refine bind_of_some (required_of_mem (by rfl) distinct (by simp) (str_hasForm.back d.zone)) ?_
    refine bind_of_some (required_of_mem (by rfl) distinct (by simp)
      (str_hasForm.back d.sponsor)) ?_
    refine bind_of_some (required_of_mem (by rfl) distinct (by simp)
      (instant_hasForm.back d.creationTime)) ?_
    refine bind_of_some (optional_of_mem (by rfl) distinct (by simp)
      (optionalInstant_hasForm.back d.deletionTime)) ?_
    refine bind_of_some (required_of_mem (by rfl) distinct (by simp)
      (instant_hasForm.back d.expirationTime)) ?_
    refine bind_of_some (optional_of_mem (by rfl) distinct (by simp)
      (optionalStr_hasForm.back d.registrant)) ?_
    refine bind_of_some (required_of_mem (by rfl) distinct (by simp) contacts) ?_
    refine bind_of_some (required_of_mem (by rfl) distinct (by simp)
      (stringSet_hasForm.back d.nameservers)) ?_
    refine bind_of_some (required_of_mem (by rfl) distinct (by simp)
      (stringSet_hasForm.back d.subordinateHosts)) ?_
    refine bind_of_some (required_of_mem (by rfl) distinct (by simp) dsData) ?_
    refine bind_of_some (optional_of_mem (by rfl) distinct (by simp) notice) ?_
    refine bind_of_some (optional_of_mem (by rfl) distinct (by simp)
      (optionalStr_hasForm.back d.smdId)) ?_
    refine bind_of_some (optional_of_mem (by rfl) distinct (by simp)
      (optionalStr_hasForm.back d.idnTable)) ?_
    refine bind_of_some (required_of_mem (by rfl) distinct (by simp) periods) ?_
    refine bind_of_some (required_of_mem (by rfl) distinct (by simp)
      (Status.hasForm.back d.status)) ?_
    rfl
  writable d := .obj <| by
    simp [str_hasForm.writable, instant_hasForm.writable, optionalStr_hasForm.writable,
      optionalInstant_hasForm.writable, (list_hasForm ContactLink.hasForm).writable,
      stringSet_hasForm.writable, (list_hasForm DsData.hasForm).writable,
      (optional_hasForm ClaimsNotice.hasForm rfl).writable,
      (list_hasForm GracePeriod.hasForm).writable, Status.hasForm.writable]

theorem Host.hasForm : HasForm Host.ofJson? Host.toJson where
  back h := by
    have distinct : fieldNames.Nodup := by decide
    have addresses := (list_hasForm IpAddress.hasForm).back h.addresses
    have deletion := optionalInstant_hasForm.back h.deletionTime
    refine bind_of_some (fields?_obj (by rfl) distinct) ?_
    refine bind_of_some (required_of_mem (by rfl) distinct (by simp) (str_hasForm.back h.repoId)) ?_
    refine bind_of_some (required_of_mem (by rfl) distinct (by simp) (str_hasForm.back h.name)) ?_
    refine bind_of_some (required_of_mem (by rfl) distinct (by simp)
      (str_hasForm.back h.sponsor)) ?_
    refine bind_of_some (orElse_of_mem (by rfl) distinct (by simp) addresses) ?_
    refine bind_of_some (orElse_of_mem (by rfl) distinct (by simp)
      (optionalStr_hasForm.back h.superordinate)) ?_
    refine bind_of_some (orElse_of_mem (by rfl) distinct (by simp) deletion) ?_
    refine bind_of_some (orElse_of_mem (by rfl) distinct (by simp)
      (Status.hasForm.back h.status)) ?_
    rfl
  writable h := .obj <| by
    simp [str_hasForm.writable, (list_hasForm IpAddress.hasForm).writable,
      optionalStr_hasForm.writable, optionalInstant_hasForm.writable, Status.hasForm.writable]

theorem Contact.hasForm : HasForm Contact.ofJson? Contact.toJson where
  back c := by
    have distinct : ["repoId", "contactId", "currentSponsor", "deletionTime", "status"].Nodup := by
      decide
    have deletion := optionalInstant_hasForm.back c.deletionTime
    refine bind_of_some (fields?_obj (by rfl) distinct) ?_
    refine bind_of_some (required_of_mem (by rfl) distinct (by simp) (str_hasForm.back c.repoId)) ?_
    refine bind_of_some (required_of_mem (by rfl) distinct (by simp)
      (str_hasForm.back c.contactId)) ?_
    refine bind_of_some (required_of_mem (by rfl) distinct (by simp)
      (str_hasForm.back c.sponsor)) ?_
    refine bind_of_some (orElse_of_mem (by rfl) distinct (by simp) deletion) ?_
    refine bind_of_some (orElse_of_mem (by rfl) distinct (by simp)
      (Status.hasForm.back c.status)) ?_
    rfl
  writable c := .obj <| by
    simp [str_hasForm.writable, optionalInstant_hasForm.writable, Status.hasForm.writable]

theorem records_survive_rewrite :
    Survives Domain.ofJson? Domain.toJson ∧ Survives Host.ofJson? Host.toJson
      ∧ Survives Contact.ofJson? Contact.toJson
      ∧ Survives CreateCommand.ofJson? CreateCommand.toJson :=
  ⟨Domain.hasForm.rereads.survives, Host.hasForm.rereads.survives,
    Contact.hasForm.rereads.survives, CreateCommand.rereads.survives⟩

namespace RecordSamples

/-- Fields by place, among them grace bits without a name and a leap second away from UTC. -/
def domain : String :=
  "[\"1-TLD\",\"a.tld\",\"tld\",\"r1\",\"2017-01-01T00:59:60.5+01:00\",null,"
    ++ "\"2018-01-01T00:00:00Z\",null,[[null,\"c1\"]],[\"H-2\",\"H-1\"],[],[],null,null,null,"
    ++ "[[\"0xe0|ADD\",\"2017-01-06T00:00:00Z\",\"r1\"]],\"\"]"

/-- A field of no record, and one that may be absent. -/
def host : String :=
  "\x7b\"status\":\"0x80|INACTIVE\",\"repoId\":\"H-1\",\"fullyQualifiedHostName\":\"ns1.a.tld\","
    ++ "\"currentSponsor\":\"r1\",\"inetAddresses\":[\"0:0::1\"],\"note\":[\x7b\x7d]\x7d"

def contact : String := "[\"C-1\",\"c1\",\"r1\"]"

/-- The least amount that is read. -/
def command : String :=
  "\x7b\"fullyQualifiedDomainName\":\"a.tld\",\"fee\":[\"usd -92233720368547758.07\"]\x7d"

end RecordSamples

open RecordSamples in
theorem sample_records_survive :
    (∃ d, (parse? domain).bind Domain.ofJson? = some d
        ∧ (parse? d.toJson.render).bind Domain.ofJson? = some d)
      ∧ (∃ h, (parse? host).bind Host.ofJson? = some h
        ∧ (parse? h.toJson.render).bind Host.ofJson? = some h)
      ∧ (∃ c, (parse? contact).bind Contact.ofJson? = some c
        ∧ (parse? c.toJson.render).bind Contact.ofJson? = some c)
      ∧ ∃ c, (parse? command).bind CreateCommand.ofJson? = some c ∧ c.fee.isSome = true
        ∧ (parse? c.toJson.render).bind CreateCommand.ofJson? = some c := by
  obtain ⟨domains, hosts, contacts, commands⟩ := records_survive_rewrite
  have priced : ((parse? command).bind CreateCommand.ofJson?).bind CreateCommand.fee
      = some ⟨"USD", -0x7fffffffffffffff⟩ := by decide +kernel
  have domainRead : ((parse? domain).bind Domain.ofJson?).isSome = true := by decide +kernel
  have hostRead : ((parse? host).bind Host.ofJson?).isSome = true := by decide +kernel
  have contactRead : ((parse? contact).bind Contact.ofJson?).isSome = true := by decide +kernel
  obtain ⟨d, d_read⟩ := Option.isSome_iff_exists.mp domainRead
  obtain ⟨h, h_read⟩ := Option.isSome_iff_exists.mp hostRead
  obtain ⟨c, c_read⟩ := Option.isSome_iff_exists.mp contactRead
  obtain ⟨e, e_read, fee⟩ := Option.bind_eq_some_iff.mp priced
  exact ⟨⟨d, d_read, (domains domain d d_read).1⟩, ⟨h, h_read, (hosts host h h_read).1⟩,
    ⟨c, c_read, (contacts contact c c_read).1⟩,
    e, e_read, Option.isSome_of_eq_some fee, (commands command e e_read).1⟩

end DomainRegistry
