namespace GossipGate

/-- The whole number nearest to `num / den`; halfway between two, the even one. -/
def roundHalfEven (num den : Nat) : Nat :=
  let quotient := num / den
  let remainder := num % den
  if 2 * remainder < den then quotient
  else if den < 2 * remainder then quotient + 1
  else if quotient % 2 = 0 then quotient
  else quotient + 1

end GossipGate
