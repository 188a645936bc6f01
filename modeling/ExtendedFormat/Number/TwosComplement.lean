/-
# ExtendedFormat.Number.TwosComplement -- integers cut to a width

An integer of any size is read at a width of `bits` bits: `unsigned` is its
residue in `[0, 2 ^ bits)`, `signed` the residue in
`[-2 ^ (bits - 1), 2 ^ (bits - 1))`.  Both depend on the low `bits` bits only.
-/

namespace ExtendedFormat.TwosComplement

set_option autoImplicit false

def unsigned (bits : Nat) (n : Int) : Int := n % Nat.pow 2 bits

def signed (bits : Nat) (n : Int) : Int := n.bmod (Nat.pow 2 bits)

/-- The low bits as a natural number. -/
def low (bits : Nat) (n : Int) : Nat := (n % Nat.pow 2 bits).toNat

end ExtendedFormat.TwosComplement
