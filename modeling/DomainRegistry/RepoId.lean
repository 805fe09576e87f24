import DomainRegistry.Text.Basic

/-!
Repository identifiers: a number in upper-case hexadecimal, a hyphen, and a suffix that names the
zone. An allocator hands out consecutive numbers and wraps after 64 bits.
-/

namespace DomainRegistry.RepoId

open Text

/-- What a zone contributes: its name in upper case, outer dots dropped, inner dots underlined. -/
def suffixChars (zone : List Char) : List Char :=
  let inner := ((zone.dropWhile (· == '.')).reverse.dropWhile (· == '.')).reverse
  inner.map fun c => if c = '.' then '_' else c.toUpper

def suffix (zone : String) : String := String.ofList (suffixChars zone.toList)

def render (id : UInt64) (suffix : String) : String :=
  String.ofList (hexUpper id.toNat ++ '-' :: suffix.toList)

/-- The number and the suffix, divided at the first hyphen; the suffix may not be empty. -/
def parse? (s : String) : Option (UInt64 × String) := do
  let (number, suffix) ← splitOnce '-' s.toList
  if suffix.isEmpty then none
  else
    let n ← boundedHex? UInt64.size number
    some (UInt64.ofNat n, String.ofList suffix)

structure Allocator where
  next : UInt64 := 1
  deriving DecidableEq, Inhabited

namespace Allocator

def allocate (a : Allocator) : UInt64 × Allocator := (a.next, ⟨a.next + 1⟩)

def repoId (a : Allocator) (zone : String) : String × Allocator :=
  (render a.next (suffix zone), ⟨a.next + 1⟩)

def repoIds (a : Allocator) : List String → List String × Allocator
  | [] => ([], a)
  | zone :: zones =>
    let (id, a) := a.repoId zone
    let (ids, a) := a.repoIds zones
    (id :: ids, a)

end Allocator

end DomainRegistry.RepoId
