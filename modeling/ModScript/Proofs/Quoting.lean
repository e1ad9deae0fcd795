import ModScript.Json.Text

/-!
# Quoted strings

A quoted string shows where it ends. Whatever stands behind it, the text determines the string: no
character is written like the beginning of another one, and none like the quote at the end.

Results:
1. `Json.le_of_mem_escapedChar`: no control character stands in a quoted string.
2. `Json.escapedChar_begins`: the characters of a quoted string are a prefix-free code.
3. `Json.quote_append_inj`: a text that begins with a quoted string begins with no other.
-/

namespace ModScript.Json

/-- The characters that are not written as they are. -/
def escapes : List Char := ['"', '\\'] ++ (List.range 32).map Char.ofNat

theorem mem_escapes_of_low {c : Char} (low : c.toNat < 0x20) : c ∈ escapes :=
  List.mem_append_right _ (List.mem_map.2 ⟨c.toNat, List.mem_range.2 low, Char.ofNat_toNat c⟩)

theorem escapedChar_of_notMem {c : Char} (plain : c ∉ escapes) : escapedChar c = [c] := by
  unfold escapedChar
  split
  case h_8 =>
    split
    next low => exact absurd (mem_escapes_of_low low) plain
    next => rfl
  all_goals exact absurd (by decide) plain

/-- No control character is written as it is, and none is used to write another one. -/
theorem le_of_mem_escapedChar {c d : Char} (present : d ∈ escapedChar c) : 0x20 ≤ d.toNat := by
  by_cases escaped : c ∈ escapes
  · have each : (escapes.all fun c => (escapedChar c).all fun d => decide (0x20 ≤ d.toNat)) = true := by
      decide +kernel
    exact of_decide_eq_true (List.all_eq_true.1 (List.all_eq_true.1 each c escaped) d present)
  · rw [escapedChar_of_notMem escaped, List.mem_singleton] at present
    exact Nat.le_of_not_lt fun low => escaped (mem_escapes_of_low (present ▸ low))

theorem head?_escapedChar {c : Char} (escaped : c ∈ escapes) : (escapedChar c).head? = some '\\' := by
  have each : (escapes.all fun c => (escapedChar c).head? == some '\\') = true := by decide +kernel
  exact eq_of_beq (List.all_eq_true.1 each c escaped)

theorem escapes_begins {c c' : Char} (escaped : c ∈ escapes) (escaped' : c' ∈ escapes)
    (begins : escapedChar c <+: escapedChar c') : c = c' := by
  have each : (escapes.all fun c => escapes.all fun c' =>
      !(escapedChar c).isPrefixOf (escapedChar c') || c == c') = true := by decide +kernel
  have either := List.all_eq_true.1 (List.all_eq_true.1 each c escaped) c' escaped'
  rw [List.isPrefixOf_iff_prefix.2 begins, Bool.not_true, Bool.false_or] at either
  exact eq_of_beq either

theorem escapedChar_ne_nil (c : Char) : escapedChar c ≠ [] := by
  by_cases escaped : c ∈ escapes
  · intro empty
    simpa [empty] using head?_escapedChar escaped
  · simp [escapedChar_of_notMem escaped]

theorem head?_escapedChar_append (c : Char) (rest : List Char) :
    (escapedChar c ++ rest).head? = (escapedChar c).head? := by
  obtain ⟨first, more, written⟩ := List.exists_cons_of_ne_nil (escapedChar_ne_nil c)
  rw [written]
  rfl

/-- No character is written like the beginning of another one. -/
theorem escapedChar_begins {c c' : Char} (begins : escapedChar c <+: escapedChar c') : c = c' := by
  obtain ⟨rest, begins⟩ := id begins
  have heads : (escapedChar c).head? = (escapedChar c').head? := by
    rw [← begins, head?_escapedChar_append]
  have slash : '\\' ∈ escapes := by decide
  by_cases escaped : c ∈ escapes <;> by_cases escaped' : c' ∈ escapes
  · exact escapes_begins escaped escaped' ⟨rest, begins⟩
  · rw [head?_escapedChar escaped, escapedChar_of_notMem escaped'] at heads
    cases heads
    exact absurd slash escaped'
  · rw [head?_escapedChar escaped', escapedChar_of_notMem escaped] at heads
    cases heads
    exact absurd slash escaped
  · rw [escapedChar_of_notMem escaped, escapedChar_of_notMem escaped'] at heads
    cases heads
    rfl

theorem head?_escapedChar_ne (c : Char) : (escapedChar c).head? ≠ some '"' := by
  by_cases escaped : c ∈ escapes
  · simp [head?_escapedChar escaped]
  · rw [escapedChar_of_notMem escaped]
    rintro ⟨⟩
    exact escaped (by decide)

/-- What stands between quotes ends at the first quote that is not escaped. -/
theorem flatMap_escapedChar_inj {s s' rest rest' : List Char}
    (same : s.flatMap escapedChar ++ '"' :: rest = s'.flatMap escapedChar ++ '"' :: rest') :
    s = s' ∧ rest = rest' := by
  -- Both strings end at once, since the quote at the end of one is no character of the other.
  induction s generalizing s' with
  | nil =>
    cases s' with
    | nil => exact ⟨rfl, by simpa using same⟩
    | cons c' s' =>
      have heads := congrArg List.head? same
      rw [List.flatMap_cons, List.append_assoc, head?_escapedChar_append] at heads
      exact absurd heads.symm (head?_escapedChar_ne c')
  | cons c s ih =>
    cases s' with
    | nil =>
      have heads := congrArg List.head? same
      rw [List.flatMap_cons, List.append_assoc, head?_escapedChar_append] at heads
      exact absurd heads (head?_escapedChar_ne c)
    | cons c' s' =>
      rw [List.flatMap_cons, List.flatMap_cons, List.append_assoc, List.append_assoc] at same
      have begins := List.prefix_append (escapedChar c) (s.flatMap escapedChar ++ '"' :: rest)
      have begins' := List.prefix_append (escapedChar c') (s'.flatMap escapedChar ++ '"' :: rest')
      obtain rfl : c = c' := by
        rcases List.prefix_or_prefix_of_prefix begins (same ▸ begins') with shorter | shorter
        · exact escapedChar_begins shorter
        · exact (escapedChar_begins shorter).symm
      obtain ⟨rfl, rfl⟩ := ih (List.append_cancel_left same)
      exact ⟨rfl, rfl⟩

/-- A text that begins with a quoted string begins with no other. -/
theorem quote_append_inj {s s' rest rest' : String} (same : quote s ++ rest = quote s' ++ rest') :
    s = s' ∧ rest = rest' := by
  have chars := congrArg String.toList same
  simp only [quote, quoteChars, String.toList_append, String.toList_ofList, List.cons_append,
    List.append_assoc, List.cons.injEq, true_and] at chars
  obtain ⟨name, behind⟩ := flatMap_escapedChar_inj chars
  exact ⟨String.toList_inj.1 name, String.toList_inj.1 behind⟩

end ModScript.Json
