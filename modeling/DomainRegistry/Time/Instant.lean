import DomainRegistry.Time.Calendar

/-!
Instants in UTC with nanoseconds. A leap second is the second before it with a billion or more
nanoseconds, so that it sorts between its neighbours.
-/

namespace DomainRegistry

namespace Instant

/-- -262143-01-01T00:00:00 in seconds since the epoch. -/
def minSecond : Int := -8334601228800

/-- +262142-12-31T23:59:59 in seconds since the epoch. -/
def maxSecond : Int := 8210266876799

def billion : Nat := 1000000000

def InRange (second : Int) : Prop := minSecond ≤ second ∧ second ≤ maxSecond

instance (second : Int) : Decidable (InRange second) :=
  inferInstanceAs (Decidable (_ ∧ _))

def NanoFits (second : Int) (nano : Nat) : Prop :=
  nano < billion ∨ (nano < 2 * billion ∧ second % 60 = 59)

instance (second : Int) (nano : Nat) : Decidable (NanoFits second nano) :=
  inferInstanceAs (Decidable (_ ∨ _))

end Instant

structure Instant where
  second : Int
  nano : Nat
  inRange : Instant.InRange second
  nanoFits : Instant.NanoFits second nano
  deriving DecidableEq

namespace Instant

theorem ext {a b : Instant} (seconds : a.second = b.second) (nanos : a.nano = b.nano) : a = b := by
  cases a; cases b; simp_all

def ofParts? (second : Int) (nano : Nat) : Option Instant :=
  if range : InRange second then
    if fits : NanoFits second nano then some ⟨second, nano, range, fits⟩ else none
  else none

theorem ofParts?_parts (t : Instant) : ofParts? t.second t.nano = some t := by
  simp [ofParts?, t.inRange, t.nanoFits]

def epoch : Instant := ⟨0, 0, by decide, by decide⟩

def latest : Instant := ⟨maxSecond, billion - 1, by decide, by decide⟩

instance : Inhabited Instant := ⟨epoch⟩

instance : Ord Instant := ⟨compareLex (compareOn second) (compareOn nano)⟩

theorem compare_def (a b : Instant) :
    compare a b = (compare a.second b.second).then (compare a.nano b.nano) := rfl

instance : Std.TransOrd Instant :=
  inferInstanceAs (Std.TransCmp (compareLex (compareOn second) (compareOn nano)))

instance : Std.LawfulEqOrd Instant where
  compare_self := Std.ReflOrd.compare_self
  eq_of_compare := by
    intro a b h
    rw [compare_def, Ordering.then_eq_eq] at h
    exact ext (Std.LawfulEqOrd.eq_of_compare h.1) (Std.LawfulEqOrd.eq_of_compare h.2)

instance : LT Instant := ⟨fun a b => a.second < b.second ∨ (a.second = b.second ∧ a.nano < b.nano)⟩

instance : LE Instant := ⟨fun a b => a.second < b.second ∨ (a.second = b.second ∧ a.nano ≤ b.nano)⟩

theorem lt_def {a b : Instant} :
    a < b ↔ a.second < b.second ∨ (a.second = b.second ∧ a.nano < b.nano) := Iff.rfl

theorem le_def {a b : Instant} :
    a ≤ b ↔ a.second < b.second ∨ (a.second = b.second ∧ a.nano ≤ b.nano) := Iff.rfl

instance (a b : Instant) : Decidable (a < b) := inferInstanceAs (Decidable (_ ∨ _))

instance (a b : Instant) : Decidable (a ≤ b) := inferInstanceAs (Decidable (_ ∨ _))

theorem le_refl (a : Instant) : a ≤ a := by
  rw [le_def]; omega

theorem le_trans {a b c : Instant} (ab : a ≤ b) (bc : b ≤ c) : a ≤ c := by
  rw [le_def] at *; omega

theorem lt_of_le_of_lt {a b c : Instant} (ab : a ≤ b) (bc : b < c) : a < c := by
  rw [lt_def] at *; rw [le_def] at ab; omega

theorem not_lt {a b : Instant} : ¬a < b ↔ b ≤ a := by
  rw [lt_def, le_def]; omega

theorem not_le {a b : Instant} : ¬a ≤ b ↔ b < a := by
  rw [lt_def, le_def]; omega

/--
So many seconds later, or earlier if negative. Leaving a leap second forwards starts from the
second before it, leaving it backwards from the second after it.
-/
def addSeconds? (t : Instant) (seconds : Int) : Option Instant :=
  if billion ≤ t.nano ∧ 0 < seconds then ofParts? (t.second + seconds) (t.nano - billion)
  else if billion ≤ t.nano ∧ seconds < 0 then
    ofParts? (t.second + 1 + seconds) (t.nano - billion)
  else ofParts? (t.second + seconds) t.nano

def addDays? (t : Instant) (days : Nat) : Option Instant := t.addSeconds? (86400 * days)

def subHours? (t : Instant) (hours : Nat) : Option Instant := t.addSeconds? (-(3600 * hours))

def date (t : Instant) : Date := Date.ofDays (t.second / 86400)

def secondOfDay (t : Instant) : Nat := (t.second % 86400).toNat

/-- The same time of day so many months later; nothing if that day is past the last year. -/
def addMonths? (t : Instant) (months : Nat) : Option Instant :=
  let moved := t.date.addMonths months
  if moved.valid then ofParts? (moved.toDays * 86400 + t.secondOfDay) t.nano else none

end Instant

end DomainRegistry
