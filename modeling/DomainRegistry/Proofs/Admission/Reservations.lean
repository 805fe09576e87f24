import DomainRegistry.Proofs.Admission.Evidence
import DomainRegistry.Proofs.Lists.Reservations

/-!
Reservations of accepted labels. Main statement: no list of the zone has a type for the label that
blocks the request, unless another list masks it with a more severe type that is open in sunrise.
-/

namespace DomainRegistry

namespace Admission

variable {a : Admission} {reader : Reader} {q : CreateRequest} {plan : CreatePlan}

/-- Whether a type stands in the way of a command, which carries signed marks or does not. -/
def blocks (sunrise : Bool) (type : Reservation) : Bool :=
  type != .unreserved && !(sunrise && openInSunrise type)

/-- Whether a type that is open in sunrise outranks one that is not. -/
def masks (above below : Reservation) : Bool :=
  openInSunrise above && blocks true below && decide (below < above)

theorem masks_of_lt {sunrise : Bool} {above below : Reservation} (strict : below < above)
    (effective : blocks sunrise above = false) (blocking : blocks sunrise below = true) :
    sunrise = true ∧ masks above below = true := by
  have reserved : above ≠ .unreserved := by
    rintro rfl
    exact Nat.not_lt_zero _ strict
  have exempt : sunrise = true ∧ openInSunrise above = true := by
    simpa [blocks, reserved] using effective
  obtain ⟨rfl, free⟩ := exempt
  simp [masks, free, blocking, strict]

theorem checkReservation_eq_ok_iff {label : String} {type : Reservation} {anchor : Bool} :
    checkReservation q label type anchor = .ok () ↔
      anchor = true ∨ blocks q.command.isSunrise type = false := by
  simp only [checkReservation, ite_error_eq_ok, and_true, blocks]
  cases anchor <;> simp

def Unblocked (a : Admission) (q : CreateRequest) (name : DomainName) : Prop :=
  ∀ e, a.catalog.reservations.Lists name.label name.zone e →
    blocks q.command.isSunrise e.type = false

def Masked (a : Admission) (q : CreateRequest) (name : DomainName) : Prop :=
  q.command.isSunrise = true ∧
    ∃ e f, a.catalog.reservations.Lists name.label name.zone e
      ∧ a.catalog.reservations.Lists name.label name.zone f ∧ masks e.type f.type = true

def IsAnchored (a : Admission) (q : CreateRequest) (name : DomainName) : Prop :=
  ∃ e, a.catalog.reservations.Lists name.label name.zone e ∧ e.type = .anchorTenant
    ∧ e.authCode = some q.command.authPassword

theorem masked_of_blocking {name : DomainName} {f : ReservedEntry}
    (effective : blocks q.command.isSunrise (a.reservationOf name) = false)
    (listed : a.catalog.reservations.Lists name.label name.zone f)
    (blocking : blocks q.command.isSunrise f.type = true) : Masked a q name := by
  have differ : f.type ≠ a.reservationOf name := by
    intro same
    rw [same, effective] at blocking
    cases blocking
  have strict : f.type < a.reservationOf name :=
    Nat.lt_of_le_of_ne (ReservationPolicy.listed_le_typeOf listed)
      (differ ∘ Reservation.severity_injective)
  have held : ∃ e, a.catalog.reservations.Lists name.label name.zone e
      ∧ e.type = a.reservationOf name := by
    refine (ReservationPolicy.typeOf_of_listed _ _ _).resolve_left fun free => ?_
    change a.reservationOf name = _ at free
    rw [free] at strict
    exact Nat.not_lt_zero _ strict
  obtain ⟨e, held, top⟩ := held
  rw [← top] at effective strict
  obtain ⟨sunrise, masking⟩ := masks_of_lt strict effective blocking
  exact ⟨sunrise, e, f, held, listed, masking⟩

namespace Passage

theorem effective_open (p : Passage a reader q) (ordinary : q.superuser = false)
    (unanchored : ¬IsAnchored a q p.name) :
    blocks q.command.isSunrise (a.reservationOf p.name) = false := by
  have gated := p.gated.resolve_left (by simp [ordinary])
  obtain ⟨_, free, _⟩ := bind_eq_ok.mp gated
  refine (checkReservation_eq_ok_iff.mp free).resolve_left fun unlocked => unanchored ?_
  exact (ReservationPolicy.unlocks_eq_true_iff.mp unlocked).2

end Passage

/-- No reservation is passed over, but for those that one open in sunrise masks. -/
theorem accepted_unreserved_iff (accepted : (a.assess reader q).result = .ok plan)
    (ordinary : q.superuser = false) :
    ∃ name, DomainName.check a.config q.command.name = .ok name ∧ plan.label = name.label
      ∧ (¬IsAnchored a q name → (Unblocked a q name ↔ ¬Masked a q name)) := by
  obtain ⟨p, rfl⟩ := accepted_iff.mp accepted
  refine ⟨p.name, p.named, rfl, fun unanchored => ?_⟩
  constructor
  · rintro unblocked ⟨sunrise, _, f, _, listed, masking⟩
    have blocking : blocks true f.type = true := by
      simp only [masks, Bool.and_eq_true] at masking
      exact masking.1.2
    have passing := unblocked f listed
    rw [sunrise, blocking] at passing
    cases passing
  · intro unmasked e listed
    rw [← Bool.not_eq_true]
    intro blocking
    exact unmasked (masked_of_blocking (p.effective_open ordinary unanchored) listed blocking)

def listsOf (first second : Reservation) : ReservationPolicy :=
  .ofLists [⟨"first", .ofList [("a", ⟨"a", first, none, none⟩)]⟩,
    ⟨"second", .ofList [("a", ⟨"a", second, none, none⟩)]⟩]

theorem listsOf_entries (first second : Reservation) :
    ((listsOf first second).entries "a" sunriseZone).map Prod.snd
      = [⟨"a", first, none, none⟩, ⟨"a", second, none, none⟩] := by
  cases first <;> cases second <;> decide +kernel

theorem listsOf_lists {first second : Reservation} {e : ReservedEntry} :
    (listsOf first second).Lists "a" sunriseZone e ↔
      e = ⟨"a", first, none, none⟩ ∨ e = ⟨"a", second, none, none⟩ := by
  have member : (∃ list, (list, e) ∈ (listsOf first second).entries "a" sunriseZone)
      ↔ e ∈ ((listsOf first second).entries "a" sunriseZone).map Prod.snd := by simp
  rw [ReservationPolicy.lists_iff_mem_entries, member, listsOf_entries]
  simp

theorem listsOf_unanchored {first second : Reservation} :
    ¬IsAnchored (sunriseRegistry (listsOf first second)) markedRequest markedName := by
  rintro ⟨e, listed, _, code⟩
  rcases listsOf_lists.mp listed with rfl | rfl <;> cases code

theorem listsOf_accepted (first second : Reservation)
    (effective : blocks true (Reservation.mostSevere [first, second]) = false) :
    ∃ plan, ((sunriseRegistry (listsOf first second)).assess oneContact markedRequest).result
      = .ok plan := by
  have type : (listsOf first second).typeOf "a" sunriseZone = .mostSevere [first, second] := by
    rw [ReservationPolicy.typeOf, ReservationPolicy.listings, List.map_map]
    change Reservation.mostSevere (List.map (ReservedEntry.type ∘ Prod.snd) _) = _
    rw [← List.map_map, listsOf_entries]
    rfl
  obtain ⟨p, _⟩ := markedRequest_passage (listsOf first second)
    (checkReservation_eq_ok_iff.mpr (Or.inr (by rw [type]; exact effective)))
  exact ⟨p.plan, accepted_iff.mpr ⟨p, rfl⟩⟩

theorem collision_and_sunrise_unblocked :
    Unblocked (sunriseRegistry (listsOf .nameCollision .allowedInSunrise)) markedRequest
      markedName := by
  obtain ⟨plan, accepted⟩ := listsOf_accepted .nameCollision .allowedInSunrise rfl
  obtain ⟨name, named, _, unmasked⟩ := accepted_unreserved_iff accepted rfl
  obtain rfl : name = markedName := Except.ok.inj (named.symm.trans markedName_checked)
  refine (unmasked listsOf_unanchored).mpr ?_
  rintro ⟨_, e, f, above, below, masking⟩
  rcases listsOf_lists.mp above with rfl | rfl <;>
    rcases listsOf_lists.mp below with rfl | rfl <;> cases masking

/-- A label that is reserved for its price alone, registered because it also collides. -/
theorem premium_masked_by_collision :
    ¬∀ (a : Admission) (reader : Reader) (q : CreateRequest) (plan : CreatePlan)
        (name : DomainName),
      (a.assess reader q).result = .ok plan → q.superuser = false →
      DomainName.check a.config q.command.name = .ok name → ¬IsAnchored a q name →
      Unblocked a q name := by
  intro unmasked
  obtain ⟨plan, accepted⟩ := listsOf_accepted .nameCollision .mistakenPremium rfl
  have unblocked := unmasked _ _ _ plan markedName accepted rfl markedName_checked
    listsOf_unanchored ⟨"a", .mistakenPremium, none, none⟩ (listsOf_lists.mpr (Or.inr rfl))
  cases unblocked

end Admission

end DomainRegistry
