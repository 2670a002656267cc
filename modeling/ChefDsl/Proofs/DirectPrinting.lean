import ChefDsl.Proofs.ValueLayout

/-! The formatter is the only direct printer. A direct printer knows the depth at which a value stands and never looks
at a text again once it is printed: rules for each kind of value say what stands at a depth in terms of what the
members are one level in. -/

namespace ChefDsl.Proofs.DirectPrinting
open ValueLayout

def spaces (count : Nat) : Text := List.replicate count ' '

end ChefDsl.Proofs.DirectPrinting
