/-
**Readers, one buffer after another.**

A reader is asked to fill buffers of given sizes. Each time it gives some items and goes on to its
next state; no items at all are the end of the stream.

* `state`, `piece` and `output` are the reader before a read, what the read gives, and what the reads
  before it have given.
* `exists_end`: a reader that cannot give more than a bound comes to an end.
-/

import Mathlib.Data.List.Basic

namespace Reader

variable {ρ α : Type}

section Runs

variable (read : ρ → Nat → List α × ρ) (sizes : Nat → Nat) (reader : ρ)

/-- The reader before a read. -/
def state : Nat → ρ
  | 0 => reader
  | round + 1 => (read (state round) (sizes round)).2

/-- What a read gives. -/
def piece (round : Nat) : List α := (read (state read sizes reader round) (sizes round)).1

/-- What the reads before a round have given. -/
def output : Nat → List α
  | 0 => []
  | round + 1 => output round ++ piece read sizes reader round

end Runs

variable {read : ρ → Nat → List α × ρ} {sizes : Nat → Nat} {reader : ρ}

@[simp] theorem output_succ (round : Nat) :
    output read sizes reader (round + 1) =
      output read sizes reader round ++ piece read sizes reader round := rfl

/-- As long as no read has come to the end, each of them gives something. -/
theorem le_length_output {rounds : Nat}
    (goesOn : ∀ round < rounds, piece read sizes reader round ≠ []) :
    rounds ≤ (output read sizes reader rounds).length := by
  induction rounds with
  | zero => exact Nat.zero_le _
  | succ rounds ih =>
    have before := ih fun round sooner => goesOn round (Nat.lt_succ_of_lt sooner)
    have positive := List.length_pos_iff.mpr (goesOn rounds (Nat.lt_succ_self _))
    rw [output_succ, List.length_append]
    omega

/-- **A bounded reader comes to an end.** -/
theorem exists_end {bound : Nat}
    (bounded : ∀ round, (output read sizes reader round).length ≤ bound) :
    ∃ round, piece read sizes reader round = [] := by
  by_contra never
  have more := le_length_output fun (round : Nat) (_ : round < bound + 1) empty =>
    never ⟨round, empty⟩
  have most := bounded (bound + 1)
  omega

end Reader
