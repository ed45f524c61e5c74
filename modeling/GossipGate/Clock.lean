namespace GossipGate

/-- A clock that is moved by hand, in milliseconds. -/
structure Clock where
  now : Nat
  deriving DecidableEq, Repr

namespace Clock

/-- The reading is a 64-bit word, so it starts again from zero past its end. -/
def advance (c : Clock) (millis : Nat) : Clock := ⟨(c.now + millis) % UInt64.size⟩

def set (_ : Clock) (now : Nat) : Clock := ⟨now⟩

theorem now_advance {c : Clock} {millis : Nat} (fits : c.now + millis < UInt64.size) :
    (c.advance millis).now = c.now + millis := Nat.mod_eq_of_lt fits

end Clock

end GossipGate
