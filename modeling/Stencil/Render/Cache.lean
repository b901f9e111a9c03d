import Stencil.Text.Basic

/-!
# Caches

A cache keeps entries in an order of age, the oldest first.  An unbounded cache keeps them all in
the order in which they were added.  A bounded cache counts every use of an entry as a renewal, and
gives up its oldest entries when there are too many.  Writing over an entry leaves it in its place.
-/

namespace Stencil.Render

/-- How many entries a cache keeps. -/
inductive Policy where
  /-- All of them. -/
  | keepAll
  /-- At most so many, of which the least recently used one is given up first. -/
  | keepRecent (limit : Nat)
deriving DecidableEq, Repr, Inhabited

/-- The policy for a size, which must be positive where there is one. -/
def Policy.ofSize? : Option Int → Option Policy
  | none => some .keepAll
  | some n => if n < 1 then none else some (.keepRecent n.toNat)

/-- Entries by key, the oldest first. -/
structure Cache (κ ν : Type) where
  policy : Policy
  entries : List (κ × ν)
deriving Repr, Inhabited

namespace Cache

variable {κ ν : Type}

/-- A cache without entries. -/
def empty (policy : Policy) : Cache κ ν := ⟨policy, []⟩

/-- The number of entries. -/
def size (c : Cache κ ν) : Nat := c.entries.length

/-- The cache without its entries. -/
def clear (c : Cache κ ν) : Cache κ ν := ⟨c.policy, []⟩

/-- The entries that a policy keeps: the most recent ones. -/
def kept (policy : Policy) (entries : List (κ × ν)) : List (κ × ν) :=
  match policy with
  | .keepAll => entries
  | .keepRecent limit => entries.drop (entries.length - limit)

variable [BEq κ]

/-- The value under a key.  Looking does not count as a use. -/
def find? (key : κ) (c : Cache κ ν) : Option ν := c.entries.lookup key

/-- Whether there is an entry under a key. -/
def holds (key : κ) (c : Cache κ ν) : Bool := (c.find? key).isSome

/-- The entries with the one under a key at the end. -/
def moveToEnd (key : κ) : List (κ × ν) → List (κ × ν)
  | [] => []
  | (k, v) :: rest => if key == k then rest ++ [(k, v)] else (k, v) :: moveToEnd key rest

/-- The cache after a use of the entry under a key. -/
def touch (key : κ) (c : Cache κ ν) : Cache κ ν :=
  match c.policy with
  | .keepAll => c
  | .keepRecent _ => ⟨c.policy, moveToEnd key c.entries⟩

/-- The entries with a value under a key: in the place of the old value, otherwise at the end. -/
def overwrite (key : κ) (value : ν) : List (κ × ν) → List (κ × ν)
  | [] => [(key, value)]
  | (k, v) :: rest => if key == k then (k, value) :: rest else (k, v) :: overwrite key value rest

/-- Writes a value under a key. -/
def write (key : κ) (value : ν) (c : Cache κ ν) : Cache κ ν :=
  ⟨c.policy, kept c.policy (overwrite key value c.entries)⟩

/-- The value under a key, and the cache after the use of it. -/
def get (key : κ) (c : Cache κ ν) : Option ν × Cache κ ν :=
  match c.find? key with
  | some v => (some v, c.touch key)
  | none => (none, c)

/-- The value under a key, which is made when there is none.  A failure to make it leaves the cache
as it was. -/
def getOrCreate {ε : Type} (key : κ) (make : Unit → Except ε ν) (c : Cache κ ν) :
    Except ε ν × Cache κ ν :=
  match c.find? key with
  | some v => (.ok v, c.touch key)
  | none => match make () with
    | .ok v => (.ok v, c.write key v)
    | .error e => (.error e, c)

@[simp]
theorem get_of_missing {key : κ} {c : Cache κ ν} (h : c.find? key = none) :
    c.get key = (none, c) := by
  simp [get, h]

@[simp]
theorem policy_touch (key : κ) (c : Cache κ ν) : (c.touch key).policy = c.policy := by
  unfold touch
  split <;> rfl

@[simp]
theorem policy_write (key : κ) (value : ν) (c : Cache κ ν) :
    (c.write key value).policy = c.policy := rfl

end Cache
end Stencil.Render
