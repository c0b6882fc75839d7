/-
How many bytes the reads of a stream ask for.

As long as nothing goes wrong, it does not show in what is read.  A read that fails gives none
of its bytes, though, and compressed content that fits into one read is decoded at once.
-/
namespace TickStream

/-- How many bytes the next read asks for, and the ones after it. -/
inductive Demand where
  /-- Every read asks for as many. -/
  | steady (n : Nat)
  /-- All that there is, into a buffer that grows: it holds `held` bytes, has room for
  `capacity`, and no read asks for more than `most`. -/
  | growing (held capacity most : Nat)
  deriving DecidableEq, Repr

namespace Demand

def all : Demand := .growing 0 0 8192

/-- The size of the first read into an empty buffer, and the least that is made room for. -/
def step : Nat := 32

/-- The room in a buffer before a read: a full one grows to twice its size or by a step. -/
def grown (held capacity : Nat) : Nat :=
  if held = capacity then max (2 * capacity) (held + step) else capacity

def next : Demand → Nat
  | .steady n => n
  | .growing 0 _ _ => step
  | .growing held capacity most => min (grown held capacity - held) most

/-- What is asked for after a read that gave `n` bytes.  The first ones get a buffer of their
size, eight at least.  A read that was as large as allowed and was answered in full allows
larger ones. -/
def after (n : Nat) : Demand → Demand
  | .steady m => .steady m
  | .growing 0 _ most => .growing n (max n 8) most
  | .growing held capacity most =>
    let asked := next (.growing held capacity most)
    .growing (held + n) (grown held capacity)
      (if most ≤ asked ∧ n = asked then 2 * most else most)

/-- What is asked for after `n` bytes, in reads that are all answered in full but the last
one. -/
def afterAll (d : Demand) (n : Nat) : Demand := go n n d
where
  go : (fuel n : Nat) → Demand → Demand
    | 0, _, d => d
    | fuel + 1, n, d =>
      if n = 0 then d
      else
        let given := min n d.next
        go fuel (n - given) (d.after given)

end Demand
end TickStream
