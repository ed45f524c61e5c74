namespace GossipGate

/-- The characters with the Unicode property White_Space. -/
def isBlank (c : Char) : Bool :=
  let n := c.val
  (0x09 ≤ n && n ≤ 0x0D) || n == 0x20 || n == 0x85 || n == 0xA0 || n == 0x1680 ||
    (0x2000 ≤ n && n ≤ 0x200A) || n == 0x2028 || n == 0x2029 || n == 0x202F || n == 0x205F ||
    n == 0x3000

/-- A text without the blanks at its two ends. -/
def trimBlank (s : String) : String :=
  let rest := s.toList.dropWhile isBlank
  String.ofList (rest.reverse.dropWhile isBlank).reverse

/-- Letters of the ASCII range in upper case; all other characters stay. -/
def upperAscii (s : String) : String := String.ofList (s.toList.map Char.toUpper)

/-- Letters of the ASCII range in lower case; all other characters stay. -/
def lowerAscii (s : String) : String := String.ofList (s.toList.map Char.toLower)

theorem isBlank_of_isWhitespace (c : Char) (white : c.isWhitespace = true) : isBlank c = true := by
  simp only [Char.isWhitespace, Bool.or_eq_true, decide_eq_true_eq] at white
  rcases white with ((rfl | rfl) | rfl) | rfl <;> rfl

end GossipGate
