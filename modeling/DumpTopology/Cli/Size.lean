/-!
# Sizes in words

A size under 1 KB is written in bytes; a larger one in KB, MB or GB (powers of 1024) with
one decimal. The count of bytes is first rounded to the nearest double-precision number,
ties to even, which changes counts past 2^53; the quotient by the unit is then exact, and
its decimal is rounded to the nearest tenth, ties to even.
-/
namespace DumpTopology

/-- The number of bits of a natural number. -/
def bitLength (n : Nat) : Nat := n.log2 + 1

/-- Rounds `n / 2^k` to the nearest integer, ties to even. -/
def roundShift (n k : Nat) : Nat :=
  let q := n / Nat.pow 2 k
  let r := n % Nat.pow 2 k
  let half := Nat.pow 2 k / 2
  if k == 0 then n
  else if r > half || (r == half && q % 2 == 1) then q + 1 else q

/-- A count rounded to the nearest double, ties to even. -/
def toDoubleCount (n : Nat) : Nat :=
  if n < Nat.pow 2 53 then n
  else
    let drop := bitLength n - 53
    roundShift n drop * Nat.pow 2 drop

/-- Rounds `num / den` to the nearest integer, ties to even. -/
def roundDiv (num den : Nat) : Nat :=
  let q := num / den
  let r := num % den
  if 2 * r > den || (2 * r == den && q % 2 == 1) then q + 1 else q

/-- A count of tenths written with one decimal. -/
def tenths (t : Nat) : String := s!"{t / 10}.{t % 10}"

/-- A size in words. -/
def formatSize (bytes : Nat) : String :=
  let kb := 1024
  let unit (den : Nat) (name : String) := s!"{tenths (roundDiv (10 * toDoubleCount bytes) den)} {name}"
  if bytes ≥ Nat.pow kb 3 then unit (Nat.pow kb 3) "GB"
  else if bytes ≥ Nat.pow kb 2 then unit (Nat.pow kb 2) "MB"
  else if bytes ≥ kb then unit kb "KB"
  else s!"{bytes} B"

example : formatSize 500 = "500 B" ∧ formatSize 1536 = "1.5 KB" ∧ formatSize 1280 = "1.2 KB" ∧
    formatSize 1792 = "1.8 KB" ∧ formatSize (3 * 1024 * 1024) = "3.0 MB" := by decide

end DumpTopology
