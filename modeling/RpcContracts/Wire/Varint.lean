/-!
# Base-128 numbers

A number is written as groups of seven bits, lowest first, every byte but the last with its high bit
set. Reading accepts at most ten bytes and refuses a number that does not fit in 64 bits.
-/

namespace RpcContracts
namespace Wire

/-- Write a number in groups of seven bits. -/
def writeVarint (number : Nat) : List UInt8 :=
  if number < 128 then [UInt8.ofNat number]
  else UInt8.ofNat (number % 128 + 128) :: writeVarint (number / 128)
termination_by number
decreasing_by omega

/-- Read a number of which `position` bytes have been read already, and the bytes after it. -/
def readVarintFrom (position : Nat) : List UInt8 → Option (Nat × List UInt8)
  | [] => none
  | byte :: rest =>
      if 10 ≤ position then none
      else if byte.toNat < 128 then
        if position = 9 ∧ 2 ≤ byte.toNat then none else some (byte.toNat, rest)
      else
        match readVarintFrom (position + 1) rest with
        | some (high, rest) => some (byte.toNat - 128 + 128 * high, rest)
        | none => none

/-- The number at the start of the bytes, and the bytes after it. -/
def readVarint (bytes : List UInt8) : Option (Nat × List UInt8) :=
  readVarintFrom 0 bytes

theorem length_of_readVarintFrom {position number : Nat} {bytes rest : List UInt8}
    (read : readVarintFrom position bytes = some (number, rest)) : rest.length < bytes.length := by
  induction bytes generalizing position number rest with
  | nil => simp [readVarintFrom] at read
  | cons byte tail ih =>
      unfold readVarintFrom at read
      split at read
      · cases read
      · split at read
        · split at read
          · cases read
          · cases read
            simp
        · split at read
          · next high after inner =>
              cases read
              have shorter := ih inner
              simp only [List.length_cons]
              omega
          · cases read

theorem length_of_readVarint {number : Nat} {bytes rest : List UInt8}
    (read : readVarint bytes = some (number, rest)) : rest.length < bytes.length :=
  length_of_readVarintFrom read

end Wire
end RpcContracts
