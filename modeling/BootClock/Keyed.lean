/-!
# Lists with keys

A map that keeps its keys in the order they came. Setting a key that is there changes its value and
leaves its place (`get?_set`).
-/

namespace BootClock

/-- Values under text keys, in the order the keys came. -/
abbrev Keyed (α : Type) : Type := List (String × α)

namespace Keyed

variable {α : Type}

def get? (t : Keyed α) (key : String) : Option α := (t.find? fun e => e.1 == key).map Prod.snd

/-- Another value under a key, in the key's place or at the end. -/
def set (t : Keyed α) (key : String) (v : α) : Keyed α :=
  match t with
  | [] => [(key, v)]
  | e :: t => if e.1 = key then (key, v) :: t else e :: set t key v

/-- Without a key. -/
def erase (t : Keyed α) (key : String) : Keyed α := t.filter fun e => e.1 != key

theorem get?_set (t : Keyed α) (key other : String) (v : α) :
    get? (set t key v) other = if key = other then some v else get? t other := by
  induction t with
  | nil => by_cases h : key = other <;> simp [set, get?, h]
  | cons e t ih =>
    unfold set
    by_cases he : e.1 = key
    · by_cases h : key = other <;> simp [he, get?, h]
    · by_cases h : key = other
      · have he' : e.1 ≠ other := h ▸ he
        simpa [he, get?, h, he'] using ih
      · by_cases hc : e.1 = other
        · have hk : other ≠ key := fun e => h e.symm
          simp [get?, hc, hk, h]
        · simpa [get?, he, h, hc] using ih

end Keyed

end BootClock
