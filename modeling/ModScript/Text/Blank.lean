/-!
# White space

The characters of the Unicode property White_Space, and the text without them at either end.
`trim_eq_empty_iff` says that nothing is left exactly of a text of blanks; `trimChars_eq` and
`trimChars_between` say what is left of any other.
-/

namespace ModScript.Text

/-- Whether the character has the property White_Space. -/
def isBlank (c : Char) : Bool :=
  let n := c.toNat
  (0x09 ≤ n && n ≤ 0x0D) || n == 0x20 || n == 0x85 || n == 0xA0 || n == 0x1680 ||
    (0x2000 ≤ n && n ≤ 0x200A) || n == 0x2028 || n == 0x2029 || n == 0x202F || n == 0x205F ||
    n == 0x3000

/-- The characters without the blanks at the end. -/
def dropBlanksRight (cs : List Char) : List Char := (cs.reverse.dropWhile isBlank).reverse

/-- The characters without the blanks at both ends. -/
def trimChars (cs : List Char) : List Char := dropBlanksRight (cs.dropWhile isBlank)

/-- The text without the blanks at both ends. -/
def trim (s : String) : String := String.ofList (trimChars s.toList)

/-- Whether the text holds nothing but blanks. -/
def isBlankText (s : String) : Bool := s.toList.all isBlank

theorem dropWhile_isBlank_eq_nil_iff (cs : List Char) :
    cs.dropWhile isBlank = [] ↔ ∀ c ∈ cs, isBlank c = true := by
  induction cs with
  | nil => simp
  | cons c rest ih => by_cases h : isBlank c = true <;> simp [List.dropWhile, h, ih]

theorem trimChars_eq_nil_iff (cs : List Char) : trimChars cs = [] ↔ cs.all isBlank = true := by
  simp only [trimChars, dropBlanksRight, List.reverse_eq_nil_iff, dropWhile_isBlank_eq_nil_iff,
    List.mem_reverse, List.all_eq_true]
  constructor
  · intro h c hc
    rw [← List.takeWhile_append_dropWhile (p := isBlank) (l := cs)] at hc
    rcases List.mem_append.1 hc with ht | hd
    · exact List.all_eq_true.1 List.all_takeWhile c ht
    · exact h c hd
  · intro h c hc
    exact h c ((List.dropWhile_sublist isBlank).subset hc)

theorem trim_eq_empty_iff (s : String) : trim s = "" ↔ isBlankText s = true := by
  rw [isBlankText, ← trimChars_eq_nil_iff, trim]
  constructor
  · intro h
    simpa using congrArg String.toList h
  · intro h
    simp [h]

/-! ## What is left -/

/-- Only blanks are taken away, from either end. -/
theorem trimChars_eq (chars : List Char) :
    ∃ front back, chars = front ++ trimChars chars ++ back ∧
      (∀ c ∈ front, isBlank c = true) ∧ ∀ c ∈ back, isBlank c = true := by
  let inner := chars.dropWhile isBlank
  refine ⟨chars.takeWhile isBlank, (inner.reverse.takeWhile isBlank).reverse, ?_, ?_, ?_⟩
  · have right : inner = dropBlanksRight inner ++ (inner.reverse.takeWhile isBlank).reverse := by
      rw [dropBlanksRight, ← List.reverse_append, List.takeWhile_append_dropWhile, List.reverse_reverse]
    rw [List.append_assoc]
    calc chars = chars.takeWhile isBlank ++ inner := List.takeWhile_append_dropWhile.symm
      _ = _ := congrArg _ right
  · exact fun c present => List.all_eq_true.1 List.all_takeWhile c present
  · exact fun c present => List.all_eq_true.1 List.all_takeWhile c (List.mem_reverse.1 present)

theorem dropWhile_isBlank_of_shown {cs : List Char}
    (shown : ∀ c, cs.head? = some c → isBlank c = false) : cs.dropWhile isBlank = cs := by
  cases cs with
  | nil => rfl
  | cons c rest =>
    have first : isBlank c = false := shown c rfl
    rw [List.dropWhile_cons, first]
    rfl

/-- What has no blanks is left of the blanks around it. -/
theorem trimChars_between {front core back : List Char} (blankFront : ∀ c ∈ front, isBlank c = true)
    (shown : ∀ c ∈ core, isBlank c = false) (blankBack : ∀ c ∈ back, isBlank c = true) :
    trimChars (front ++ (core ++ back)) = core := by
  cases core with
  | nil =>
    rw [List.nil_append, trimChars_eq_nil_iff, List.all_append, Bool.and_eq_true]
    exact ⟨List.all_eq_true.2 blankFront, List.all_eq_true.2 blankBack⟩
  | cons first rest =>
    have atFront : (first :: rest ++ back).dropWhile isBlank = first :: rest ++ back := by
      refine dropWhile_isBlank_of_shown fun c begins => ?_
      cases begins
      exact shown first List.mem_cons_self
    have blankReverse : ∀ c ∈ back.reverse, isBlank c = true :=
      fun c present => blankBack c (List.mem_reverse.1 present)
    have atBack : (first :: rest).reverse.dropWhile isBlank = (first :: rest).reverse := by
      refine dropWhile_isBlank_of_shown fun c begins => shown c ?_
      exact List.mem_reverse.1 (List.mem_of_head? begins)
    rw [trimChars, List.dropWhile_append_of_pos blankFront, atFront, dropBlanksRight, List.reverse_append,
      List.dropWhile_append_of_pos blankReverse, atBack, List.reverse_reverse]

/-- A text without blanks is left as it is. -/
theorem trimChars_of_shown {cs : List Char} (shown : ∀ c ∈ cs, isBlank c = false) : trimChars cs = cs := by
  have nothing : ∀ c ∈ ([] : List Char), isBlank c = true := fun _ none => absurd none List.not_mem_nil
  have between := trimChars_between nothing shown nothing
  rwa [List.nil_append, List.append_nil] at between

end ModScript.Text
