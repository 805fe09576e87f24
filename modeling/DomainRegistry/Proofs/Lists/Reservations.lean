import DomainRegistry.Lists.ReservationPolicy
import DomainRegistry.Proofs.Lists.Reserved
import Mathlib.Data.List.Forall2

/-!
Labels on the reserved lists of a zone. Main statement: each binding comes to a listing if the last
text of its name has a line for the label, and the most severe type of all listings counts. It is
the one that is recorded; it does not depend on the order of lines or bindings, and further bindings
only make it more severe.
-/

namespace DomainRegistry

namespace Reservation

theorem severity_injective {a b : Reservation} (same : a.severity = b.severity) : a = b := by
  cases a <;> cases b <;> first | rfl | cases same

theorem foldl_max_mem (types : List Reservation) (init : Reservation) :
    types.foldl max init = init ∨ types.foldl max init ∈ types := by
  induction types generalizing init with
  | nil => exact Or.inl rfl
  | cons t types ih =>
    rw [List.foldl_cons]
    rcases ih (max init t) with first | later
    · rw [first, max]
      split
      · exact Or.inr List.mem_cons_self
      · exact Or.inl rfl
    · exact Or.inr (List.mem_cons_of_mem _ later)

theorem le_max_left (a b : Reservation) : a.severity ≤ (max a b).severity := by
  rw [max]
  split <;> omega

theorem le_max_right (a b : Reservation) : b.severity ≤ (max a b).severity := by
  rw [max]
  split <;> omega

theorem init_le_foldl_max (types : List Reservation) (init : Reservation) :
    init.severity ≤ (types.foldl max init).severity := by
  induction types generalizing init with
  | nil => exact Nat.le_refl _
  | cons t types ih => exact Nat.le_trans (le_max_left init t) (ih _)

theorem le_foldl_max {types : List Reservation} {t : Reservation} (member : t ∈ types)
    (init : Reservation) : t.severity ≤ (types.foldl max init).severity := by
  induction types generalizing init with
  | nil => cases member
  | cons u types ih =>
    cases member with
    | head => exact Nat.le_trans (le_max_right init t) (init_le_foldl_max types _)
    | tail _ later => exact ih later _

theorem mostSevere_mem {types : List Reservation} (any : types ≠ []) :
    mostSevere types ∈ types := by
  rcases foldl_max_mem types unreserved with init | member
  · obtain ⟨t, listed⟩ := List.exists_mem_of_ne_nil types any
    have below := le_foldl_max listed unreserved
    rw [init] at below
    have mild : t = unreserved := severity_injective (Nat.le_antisymm below (Nat.zero_le _))
    rw [mostSevere, init, ← mild]
    exact listed
  · exact member

theorem mostSevere_le_of_subset {types more : List Reservation} (within : types ⊆ more) :
    mostSevere types ≤ mostSevere more := by
  rcases foldl_max_mem types unreserved with init | member
  · change (types.foldl max unreserved).severity ≤ _
    rw [init]
    exact Nat.zero_le _
  · exact le_foldl_max (within member) unreserved

end Reservation

namespace ReservationPolicy

variable {p : ReservationPolicy} {label : String} {zone : ZonePolicy}

def Lists (p : ReservationPolicy) (label : String) (zone : ZonePolicy) (e : ReservedEntry) : Prop :=
  ∃ name ∈ zone.reservedLists, ∃ list, p.lists.get? name = some list ∧ list.get? label = some e

theorem lists_iff_mem_entries {e : ReservedEntry} :
    p.Lists label zone e ↔ ∃ list, (list, e) ∈ p.entries label zone := by
  simp only [Lists, entries, List.mem_filterMap, Option.map_eq_some_iff, Prod.mk.injEq]
  constructor
  · rintro ⟨name, bound, list, loaded, listed⟩
    exact ⟨list, list, ⟨name, bound, loaded⟩, e, listed, rfl, rfl⟩
  · rintro ⟨_, list, ⟨name, bound, loaded⟩, _, listed, _, rfl⟩
    exact ⟨name, bound, list, loaded, listed⟩

theorem mem_types {t : Reservation} :
    t ∈ (p.listings label zone).map Listing.type ↔ ∃ e, p.Lists label zone e ∧ e.type = t := by
  simp only [lists_iff_mem_entries, listings, List.map_map, List.mem_map]
  constructor
  · rintro ⟨⟨list, e⟩, member, same⟩; exact ⟨e, ⟨list, member⟩, same⟩
  · rintro ⟨e, ⟨list, member⟩, same⟩; exact ⟨(list, e), member, same⟩

theorem typeOf_of_listed (p : ReservationPolicy) (label : String) (zone : ZonePolicy) :
    p.typeOf label zone = .unreserved
      ∨ ∃ e, p.Lists label zone e ∧ e.type = p.typeOf label zone :=
  (Reservation.foldl_max_mem _ _).imp_right mem_types.mp

theorem listed_le_typeOf {e : ReservedEntry} (listed : p.Lists label zone e) :
    e.type.severity ≤ (p.typeOf label zone).severity :=
  Reservation.le_foldl_max (mem_types.mpr ⟨e, listed, rfl⟩) _

theorem unlocks_eq_true_iff {code : String} :
    p.unlocks label zone code = true ↔
      code ≠ "" ∧ ∃ e, p.Lists label zone e ∧ e.type = .anchorTenant ∧ e.authCode = some code := by
  simp only [unlocks, lists_iff_mem_entries, Bool.and_eq_true, bne_iff_ne, List.any_eq_true,
    beq_iff_eq]
  refine and_congr_right fun _ => ?_
  constructor
  · rintro ⟨⟨list, e⟩, member, tenant, code⟩; exact ⟨e, ⟨list, member⟩, tenant, code⟩
  · rintro ⟨e, ⟨list, member⟩, tenant, code⟩; exact ⟨(list, e), member, tenant, code⟩

def listing? (p : ReservationPolicy) (label name : String) : Option Listing :=
  (p.lists.get? name).bind fun list => (list.get? label).map fun e => ⟨list.name, e.type⟩

theorem listings_eq (p : ReservationPolicy) (label : String) (zone : ZonePolicy) :
    p.listings label zone = zone.reservedLists.filterMap (p.listing? label) := by
  rw [listings, entries, List.filterMap_filterMap, List.map_filterMap]
  refine List.filterMap_congr fun name _ => ?_
  unfold listing?
  cases p.lists.get? name with
  | none => rfl
  | some list => cases listed : list.get? label <;> simp [listed]

theorem types_subset {zone' : ZonePolicy} (within : zone.reservedLists ⊆ zone'.reservedLists) :
    (p.listings label zone).map Listing.type ⊆ (p.listings label zone').map Listing.type := by
  rw [listings_eq, listings_eq]
  refine List.map_subset _ fun l member => ?_
  obtain ⟨name, bound, found⟩ := List.mem_filterMap.mp member
  exact List.mem_filterMap.mpr ⟨name, within bound, found⟩

theorem typeOf_le_of_subset {zone' : ZonePolicy}
    (within : zone.reservedLists ⊆ zone'.reservedLists) :
    p.typeOf label zone ≤ p.typeOf label zone' :=
  Reservation.mostSevere_le_of_subset (types_subset within)

theorem typeOf_eq_of_perm {zone' : ZonePolicy}
    (reordered : zone'.reservedLists.Perm zone.reservedLists) :
    p.typeOf label zone' = p.typeOf label zone :=
  Reservation.severity_injective (Nat.le_antisymm (typeOf_le_of_subset reordered.subset)
    (typeOf_le_of_subset reordered.symm.subset))

section Recorded

def later (best : Option Listing) (l : Listing) : Option Listing :=
  match best with
  | none => some l
  | some b => if b.type ≤ l.type then some l else some b

theorem foldl_later (ls : List Listing) (b : Listing) :
    ∃ m, ls.foldl later (some b) = some m ∧ (m = b ∨ m ∈ ls)
      ∧ m.type = (ls.map Listing.type).foldl Reservation.max b.type := by
  induction ls generalizing b with
  | nil => exact ⟨b, rfl, Or.inl rfl, rfl⟩
  | cons l ls ih =>
    rw [List.foldl_cons, List.map_cons, List.foldl_cons, Reservation.max]
    change ∃ m, ls.foldl later (if b.type.severity ≤ l.type.severity then some l else some b)
      = some m ∧ _
    split
    · obtain ⟨m, found, among, type⟩ := ih l
      exact ⟨m, found, Or.inr (List.mem_cons.mpr among), type⟩
    · obtain ⟨m, found, among, type⟩ := ih b
      exact ⟨m, found, among.imp_right (List.mem_cons_of_mem l), type⟩

theorem lastMostSevere_eq (ls : List Listing) :
    ls = [] ∧ lastMostSevere ls = none
      ∨ ∃ m ∈ ls, lastMostSevere ls = some m ∧ m.type = .mostSevere (ls.map Listing.type) := by
  cases ls with
  | nil => exact Or.inl ⟨rfl, rfl⟩
  | cons l ls =>
    obtain ⟨m, found, among, type⟩ := foldl_later ls l
    have least : Reservation.unreserved.severity ≤ l.type.severity := Nat.zero_le _
    refine Or.inr ⟨m, List.mem_cons.mpr among, found, ?_⟩
    rw [type, Reservation.mostSevere, List.map_cons, List.foldl_cons, Reservation.max, if_pos least]

theorem check_type (p : ReservationPolicy) (label : String) (zone : ZonePolicy) :
    (p.check label zone).type = p.typeOf label zone := by
  unfold check typeOf
  rcases lastMostSevere_eq (p.listings label zone) with ⟨none, found⟩ | ⟨m, _, found, type⟩
  · rw [none]
    rfl
  · dsimp only
    rw [found]
    exact type

theorem check_list {name : String} (named : (p.check label zone).list = some name) :
    ⟨name, p.typeOf label zone⟩ ∈ p.listings label zone := by
  unfold check at named
  dsimp only at named
  rcases lastMostSevere_eq (p.listings label zone) with ⟨_, found⟩ | ⟨m, member, found, type⟩
  · rw [found] at named
    cases named
  · rw [found] at named
    cases named
    rw [typeOf, ← type]
    exact member

end Recorded

section Texts

open Text

def readLists (texts : List (String × String)) : Except ListError (List ReservedList) :=
  texts.mapM fun t => ReservedList.parse t.1 t.2

def LastText (texts : List (String × String)) (name text : String) : Prop :=
  ∃ before after, texts = before ++ (name, text) :: after ∧ ∀ t ∈ after, t.1 ≠ name

/-- The listings of a label that the bindings of a zone come to, one binding after the other. -/
inductive ListedBy (texts : List (String × String)) (label : String) :
    List String → List Listing → Prop
  | nil : ListedBy texts label [] []
  | unlisted (name : String) (bound : List String) (listings : List Listing)
      (absent : ∀ text type, LastText texts name text → ¬ReservedList.Gives text label type)
      (rest : ListedBy texts label bound listings) :
      ListedBy texts label (name :: bound) listings
  | listed (name text : String) (type : Reservation) (bound : List String)
      (listings : List Listing) (last : LastText texts name text)
      (gives : ReservedList.Gives text label type) (rest : ListedBy texts label bound listings) :
      ListedBy texts label (name :: bound) (⟨name, type⟩ :: listings)

/-- That texts have the same names and, up to their order, the same lines. -/
def Reordered (texts others : List (String × String)) : Prop :=
  List.Forall₂ (fun t u => u.1 = t.1 ∧ (lines u.2.toList).Perm (lines t.2.toList)) texts others

variable {texts others : List (String × String)} {ls : List ReservedList}

theorem readLists_eq_ok_iff :
    readLists texts = .ok ls ↔
      List.Forall₂ (fun t l => ReservedList.parse t.1 t.2 = .ok l) texts ls := by
  unfold readLists
  induction texts generalizing ls with
  | nil =>
    rw [List.forall₂_nil_left_iff]
    exact ⟨fun made => (Except.ok.inj made).symm, fun empty => empty ▸ rfl⟩
  | cons t texts ih =>
    rw [List.mapM_cons, List.forall₂_cons_left_iff, bind_eq_ok]
    constructor
    · rintro ⟨l, parsed, rest⟩
      obtain ⟨more, read, made⟩ := bind_eq_ok.mp rest
      cases made
      exact ⟨l, more, parsed, ih.mp read, rfl⟩
    · rintro ⟨l, more, parsed, read, rfl⟩
      exact ⟨l, parsed, bind_eq_ok.mpr ⟨more, ih.mpr read, rfl⟩⟩

theorem readLists_of_reordered (read : readLists texts = .ok ls)
    (reordered : Reordered texts others) : readLists others = .ok ls := by
  rw [readLists_eq_ok_iff] at read ⊢
  induction reordered generalizing ls with
  | nil => exact read
  | cons same _ ih =>
    obtain ⟨l, more, parsed, rest, rfl⟩ := List.forall₂_cons_left_iff.mp read
    refine .cons ?_ (ih rest)
    rw [same.1]
    exact ReservedList.parse_of_perm parsed same.2

theorem find_parsed
    (parsed : List.Forall₂ (fun t l => ReservedList.parse t.1 t.2 = .ok l) texts ls)
    (name : String) :
    SortedMap.find name texts = none ∧ SortedMap.find name (ls.map fun l => (l.name, l)) = none
      ∨ ∃ text list, SortedMap.find name texts = some text
          ∧ SortedMap.find name (ls.map fun l => (l.name, l)) = some list
          ∧ ReservedList.parse name text = .ok list := by
  induction parsed with
  | nil => exact Or.inl ⟨rfl, rfl⟩
  | @cons t l texts ls first _ ih =>
    obtain ⟨key, text⟩ := t
    have named : l.name = key := (ReservedList.parse_eq_ok_iff.mp first).1
    rw [List.map_cons, SortedMap.find, SortedMap.find, named]
    by_cases here : name = key
    · subst here
      rw [if_pos rfl, if_pos rfl]
      exact Or.inr ⟨text, l, rfl, rfl, first⟩
    · rw [if_neg here, if_neg here]
      exact ih

/-- The policy has a list for a name exactly if a text has the name, and it is that of the last. -/
theorem get?_ofLists (read : readLists texts = .ok ls) (name : String) :
    (∀ text, ¬LastText texts name text) ∧ (ofLists ls).lists.get? name = none
      ∨ ∃ text list, LastText texts name text ∧ (ofLists ls).lists.get? name = some list
          ∧ ReservedList.parse name text = .ok list := by
  have turned := List.forall₂_reverse_iff.mpr (readLists_eq_ok_iff.mp read)
  rw [ofLists, SortedMap.get?_ofList, ← List.map_reverse]
  rcases find_parsed turned name with ⟨absent, unloaded⟩ | ⟨text, list, last, loaded, parsed⟩
  · refine Or.inl ⟨fun text last => ?_, unloaded⟩
    rw [SortedMap.find_reverse_eq_some_iff.mpr last] at absent
    cases absent
  · exact Or.inr ⟨text, list, SortedMap.find_reverse_eq_some_iff.mp last, loaded, parsed⟩

theorem LastText.unique {name text other : String} (last : LastText texts name text)
    (also : LastText texts name other) : text = other := by
  have found := SortedMap.find_reverse_eq_some_iff.mpr last
  rw [SortedMap.find_reverse_eq_some_iff.mpr also] at found
  exact (Option.some.inj found).symm

theorem listedBy_listings (read : readLists texts = .ok ls) (small : lower label = label)
    (bound : List String) :
    ListedBy texts label bound (bound.filterMap ((ofLists ls).listing? label)) := by
  induction bound with
  | nil => exact .nil
  | cons name bound ih =>
    rcases get?_ofLists read name with ⟨absent, unloaded⟩ | ⟨text, list, last, loaded, parsed⟩
    · have none : (ofLists ls).listing? label name = none := by
        rw [listing?, unloaded]
        rfl
      rw [List.filterMap_cons_none none]
      exact .unlisted name bound _ (fun text _ last => absurd last (absent text)) ih
    · have found : (ofLists ls).listing? label name
          = (list.get? label).map fun e => ⟨list.name, e.type⟩ := by
        rw [listing?, loaded]
        rfl
      cases entry : list.get? label with
      | none =>
        rw [entry] at found
        rw [List.filterMap_cons_none found]
        refine .unlisted name bound _ (fun other type also gives => ?_) ih
        rw [also.unique last] at gives
        obtain ⟨e, listed, _⟩ := (ReservedList.get?_type_iff parsed small).mpr gives
        rw [entry] at listed
        cases listed
      | some e =>
        rw [entry, (ReservedList.parse_eq_ok_iff.mp parsed).1] at found
        rw [List.filterMap_cons_some found]
        exact .listed name text e.type bound _ last
          ((ReservedList.get?_type_iff parsed small).mp ⟨e, entry, rfl⟩) ih

theorem gives_unique (read : readLists texts = .ok ls) (small : lower label = label)
    {name text : String} {type other : Reservation} (last : LastText texts name text)
    (gives : ReservedList.Gives text label type) (also : ReservedList.Gives text label other) :
    type = other := by
  rcases get?_ofLists read name with ⟨absent, _⟩ | ⟨same, list, held, _, parsed⟩
  · exact absurd last (absent text)
  · rw [last.unique held] at gives also
    obtain ⟨e, listed, rfl⟩ := (ReservedList.get?_type_iff parsed small).mpr gives
    obtain ⟨f, again, rfl⟩ := (ReservedList.get?_type_iff parsed small).mpr also
    rw [listed] at again
    cases again
    rfl

structure TakesMostSevere (texts : List (String × String)) (p : ReservationPolicy) (label : String)
    (zone : ZonePolicy) : Prop where
  listed : ListedBy texts label zone.reservedLists (p.listings label zone)
  single : ∀ name text type other, LastText texts name text → ReservedList.Gives text label type →
    ReservedList.Gives text label other → type = other
  free : p.listings label zone = [] → p.typeOf label zone = .unreserved
  greatest : p.listings label zone ≠ [] →
    (∃ l ∈ p.listings label zone, l.type = p.typeOf label zone)
      ∧ ∀ l ∈ p.listings label zone, l.type ≤ p.typeOf label zone
  /-- Neither the order of lines nor that of bindings counts. -/
  unordered : ∀ others zone', Reordered texts others →
    zone'.reservedLists.Perm zone.reservedLists →
    ∃ ls, readLists others = .ok ls ∧ (ofLists ls).typeOf label zone' = p.typeOf label zone
  growing : ∀ zone', zone.reservedLists ⊆ zone'.reservedLists →
    p.typeOf label zone ≤ p.typeOf label zone'
  recorded : (p.check label zone).count = (p.listings label zone).length
    ∧ (p.check label zone).type = p.typeOf label zone
  named : ∀ name, (p.check label zone).list = some name →
    ⟨name, p.typeOf label zone⟩ ∈ p.listings label zone

theorem takes_most_severe (read : readLists texts = .ok ls)
    (small : ∀ c ∈ label.toList, isUpperAscii c = false) (zone : ZonePolicy) :
    TakesMostSevere texts (ofLists ls) label zone where
  listed := by
    rw [listings_eq]
    exact listedBy_listings read (lower_of_not_upper small) zone.reservedLists
  single _ _ _ _ last gives also := gives_unique read (lower_of_not_upper small) last gives also
  free none := by
    rw [typeOf, none]
    rfl
  greatest any := by
    have among : (ofLists ls).typeOf label zone
        ∈ ((ofLists ls).listings label zone).map Listing.type :=
      Reservation.mostSevere_mem (List.map_eq_nil_iff.not.mpr any)
    obtain ⟨l, member, same⟩ := List.mem_map.mp among
    refine ⟨⟨l, member, same⟩, fun m listed => ?_⟩
    exact Reservation.le_foldl_max (List.mem_map_of_mem listed) _
  unordered _ _ reordered bindings :=
    ⟨ls, readLists_of_reordered read reordered, typeOf_eq_of_perm bindings⟩
  growing _ within := typeOf_le_of_subset within
  recorded := ⟨rfl, check_type _ label zone⟩
  named _ found := check_list found

/-- Two lists under one name, of which the second counts, and one more. -/
def threeTexts : List (String × String) :=
  [("common", "label,FULLY_BLOCKED"),
    ("sunrise", "# open early\nother,NAME_COLLISION\nlabel,allowed_in_sunrise\n"),
    ("common", "other,FULLY_BLOCKED\n LABEL , mistaken_premium # ask first\n")]

def boundZone : ZonePolicy where
  name := "zone"
  reservedLists := ["sunrise", "missing", "common", "sunrise"]

theorem threeTexts_take_most_severe :
    ∃ ls, readLists threeTexts = .ok ls ∧ (∀ c ∈ "label".toList, isUpperAscii c = false)
      ∧ (ofLists ls).listings "label" boundZone
          = [⟨"sunrise", .allowedInSunrise⟩, ⟨"common", .mistakenPremium⟩,
              ⟨"sunrise", .allowedInSunrise⟩]
      ∧ (ofLists ls).typeOf "label" boundZone = .mistakenPremium
      ∧ TakesMostSevere threeTexts (ofLists ls) "label" boundZone := by
  have small : ∀ c ∈ "label".toList, isUpperAscii c = false := by
    have all : "label".toList.all (fun c => !isUpperAscii c) = true := by decide
    simpa using all
  have found : ((readLists threeTexts).toOption.map fun ls =>
      ((ofLists ls).listings "label" boundZone, (ofLists ls).typeOf "label" boundZone))
        = some ([⟨"sunrise", .allowedInSunrise⟩, ⟨"common", .mistakenPremium⟩,
            ⟨"sunrise", .allowedInSunrise⟩], .mistakenPremium) := by
    decide +kernel
  obtain ⟨ls, read, answers⟩ := Option.map_eq_some_iff.mp found
  obtain ⟨listings, type⟩ := Prod.mk.inj answers
  have read := eq_ok_of_toOption read
  exact ⟨ls, read, small, listings, type, takes_most_severe read small boundZone⟩

end Texts

end ReservationPolicy

end DomainRegistry
