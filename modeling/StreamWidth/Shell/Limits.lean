/-!
What processes may use at most. Each limit can be moved up to a bound that moves with it or stays.
-/

namespace StreamWidth.Shell

/-- A limit with its bound, in bytes or other things of which a unit has several. None is no limit. -/
structure Limit where
  letter : Char
  title : String
  unit : Nat
  soft : Option Nat
  hard : Option Nat

namespace Limit

def unlimited (letter : Char) (title : String) (unit : Nat) : Limit :=
  ⟨letter, title, unit, none, none⟩

def usual : List Limit :=
  [unlimited 't' "time(seconds)" 1, unlimited 'f' "file(blocks)" 512,
    unlimited 'd' "data(kbytes)" 1024, ⟨'s', "stack(kbytes)", 1024, some (8192 * 1024), none⟩,
    ⟨'c', "coredump(blocks)", 512, some 0, none⟩, unlimited 'm' "memory(kbytes)" 1024,
    ⟨'l', "locked memory(kbytes)", 1024, some (8192 * 1024), some (8192 * 1024)⟩,
    ⟨'p', "process", 1, some 128620, some 128620⟩, ⟨'n', "nofiles", 1, some 20000, some 20000⟩,
    unlimited 'v' "vmemory(kbytes)" 1024, unlimited 'w' "locks" 1,
    ⟨'r', "rtprio", 1, some 0, some 0⟩]

def text (limit : Limit) (isHard : Bool) : String :=
  match if isHard then limit.hard else limit.soft with
  | some value => toString (value / limit.unit)
  | none => "unlimited"

def isWithin (value bound : Option Nat) : Bool :=
  match value, bound with
  | _, none => true
  | none, some _ => false
  | some value, some bound => value ≤ bound

/-- The limit with a value for it, for its bound or for both, if the bound is then still one. -/
def moved? (limit : Limit) (isSoft isHard : Bool) (value : Option Nat) : Option Limit :=
  let moved := { limit with
    soft := if isSoft then value else limit.soft
    hard := if isHard then value else limit.hard }
  if isWithin moved.soft moved.hard then some moved else none

end Limit

end StreamWidth.Shell
