/-
# `CodexOfPower.Lib.Escrow` — things handed in under a key

Someone holds things of several kinds and may hand one in under a key, or take back
what was handed in under it.  A thing handed in is not lost: over any such trades, what
is held and what is handed in adds up to the same (`total_deposit`, `total_withdraw`).
-/
import CodexOfPower.Lib.UnorderedMap

namespace CodexOfPower

universe u

/-- How many things of each kind are held, and the kind of the thing under each key. -/
structure Escrow (κ ι : Type u) [DecidableEq κ] where
  held : ι → Int
  deposited : UnorderedMap κ ι

namespace Escrow

variable {κ ι : Type u} [DecidableEq κ] [DecidableEq ι] {escrow : Escrow κ ι} {k : κ} {i : ι}

def count (deposited : UnorderedMap κ ι) (i : ι) : Nat :=
  deposited.sum fun _ kind => if kind = i then 1 else 0

def total (escrow : Escrow κ ι) (i : ι) : Int := escrow.held i + count escrow.deposited i

def deposit (escrow : Escrow κ ι) (k : κ) (i : ι) : Escrow κ ι where
  held j := if j = i then escrow.held j - 1 else escrow.held j
  deposited := escrow.deposited.insert k i

/-- Takes back a thing of kind `i` from under the key. -/
def withdraw (escrow : Escrow κ ι) (k : κ) (i : ι) : Escrow κ ι where
  held j := if j = i then escrow.held j + 1 else escrow.held j
  deposited := escrow.deposited.erase k

/-- As long as nothing is handed in, all is held. -/
theorem total_of_empty (held : ι → Int) (i : ι) :
    total (⟨held, ∅⟩ : Escrow κ ι) i = held i := Int.add_zero _

theorem total_deposit (h : k ∉ escrow.deposited) (j : ι) :
    (escrow.deposit k i).total j = escrow.total j := by
  have hsum : count (escrow.deposit k i).deposited j =
      (if i = j then 1 else 0) + count escrow.deposited j := UnorderedMap.sum_insert h i _
  unfold total
  rw [hsum]
  unfold deposit
  by_cases hij : j = i
  · simp [hij]
    omega
  · simp [hij, Ne.symm hij]

theorem total_withdraw (h : escrow.deposited.lookup k = some i) (j : ι) :
    (escrow.withdraw k i).total j = escrow.total j := by
  have hsum : count escrow.deposited j =
      (if i = j then 1 else 0) + count (escrow.withdraw k i).deposited j :=
    UnorderedMap.sum_erase h _
  unfold total
  rw [hsum]
  unfold withdraw
  by_cases hij : j = i
  · simp [hij]
    omega
  · simp [hij, Ne.symm hij]

end Escrow

end CodexOfPower
