/-!
# White space and blank texts

An identifier that consists of white space alone names nothing: lookups treat it as absent and it is
never hashed. White space is the Unicode property White_Space, so the no-break space and the
ideographic space count, while the zero-width space does not.

## Main definitions

* `Text.isSpace` - the characters with the property White_Space
* `Text.isBlank` - a text without any other character
* `Text.trim` - a text without the white space at its ends
-/

namespace SignOn.Text

/-- The characters of the Unicode property White_Space. -/
def isSpace (c : Char) : Bool :=
  let n := c.toNat
  (9 ≤ n && n ≤ 13) || n == 0x20 || n == 0x85 || n == 0xA0 || n == 0x1680 ||
    (0x2000 ≤ n && n ≤ 0x200A) || n == 0x2028 || n == 0x2029 || n == 0x202F || n == 0x205F ||
    n == 0x3000

/-- A text is blank when it holds nothing but white space; the empty text is blank. -/
def isBlank (s : String) : Bool := s.toList.all isSpace

theorem isBlank_iff {s : String} : isBlank s = true ↔ ∀ c ∈ s.toList, isSpace c = true := by
  simp [isBlank]

/-- The characters without the white space at the front and at the back. -/
def trimChars (cs : List Char) : List Char :=
  ((cs.dropWhile isSpace).reverse.dropWhile isSpace).reverse

/-- The text without the white space at its ends. -/
def trim (s : String) : String := String.ofList (trimChars s.toList)

private theorem dropWhile_isSpace {cs : List Char} (h : ∀ c ∈ cs, isSpace c = false) :
    cs.dropWhile isSpace = cs := by
  cases cs with
  | nil => rfl
  | cons c rest => rw [List.dropWhile_cons, h c List.mem_cons_self, if_neg Bool.false_ne_true]

/-- Where there is no white space, there is nothing to remove. -/
theorem trim_eq_self {s : String} (h : ∀ c ∈ s.toList, isSpace c = false) : trim s = s := by
  have hreverse : ∀ c ∈ s.toList.reverse, isSpace c = false :=
    fun c hc => h c (List.mem_reverse.1 hc)
  rw [trim, trimChars, dropWhile_isSpace h, dropWhile_isSpace hreverse, List.reverse_reverse,
    String.ofList_toList]

end SignOn.Text
