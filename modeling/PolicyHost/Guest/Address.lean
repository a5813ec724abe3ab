import PolicyHost.Fault

namespace PolicyHost

/-!
# Guest addresses

A guest has one linear memory, and an address is an offset into it.  Offsets
have 32 bits; arithmetic that leaves that range is a fault, never a wrapped
address.
-/

structure Address where
  offset : Nat
  inRange : offset < 2 ^ 32 := by omega
deriving DecidableEq, Repr

namespace Address

instance : Inhabited Address := ⟨⟨0, by decide⟩⟩

def ofInt (offset : Int) : Except Fault Address :=
  if h : 0 ≤ offset ∧ offset.toNat < 2 ^ 32 then
    .ok ⟨offset.toNat, h.2⟩
  else .error (.badAddress offset)

def ofWord (word : UInt32) : Address :=
  ⟨word.toNat, word.toNat_lt⟩

def toWord (address : Address) : UInt32 :=
  .ofNat address.offset

def advance (address : Address) (length : Int) : Except Fault Address :=
  ofInt (address.offset + length)

def literal (address : Address) : String :=
  "Addr(offset=" ++ toString address.offset ++ ")"

end Address
end PolicyHost
