import ModScript.Text.Blank

/-!
# Literals and brackets

A lexer for scripts that knows literals, with backslashes in them, and pairs of brackets, and takes
everything else as it comes. A text is balanced if the lexer begins and ends outside all literals and
brackets; what a lexer does with a text is the same inside more brackets.

`Reads` takes the texts of some sources as they are, wherever code may stand, and wants every other
literal to close on its line. `surface` is what a text has outside all brackets, with the brackets and
quotes that open and close there.

Results:
1. `Lexer.run_under`: what is read outside all brackets is read alike inside of them.
2. `Reads.run`: if the sources are balanced, what is read is what the lexer does.
3. `balanced_trim`: a balanced text stays so without the blanks at its ends.
4. `Lexer.surface_append`, `Lexer.surface_under`: the surface of a text, part by part.
-/

namespace ModScript

/-! ## The lexer -/

/-- The signs around a literal. -/
inductive QuoteSign
  | single | double
deriving DecidableEq

def QuoteSign.char : QuoteSign → Char
  | single => '\x27'
  | double => '"'

inductive Bracket
  | round | square | curly
deriving DecidableEq

/-- What a character is in code. -/
inductive Sign
  | quote (quote : QuoteSign)
  | opening (bracket : Bracket)
  | closing (bracket : Bracket)
  | plain
deriving DecidableEq

def signOf : Char → Sign
  | '\x27' => .quote .single
  | '"' => .quote .double
  | '(' => .opening .round
  | '[' => .opening .square
  | '\x7b' => .opening .curly
  | ')' => .closing .round
  | ']' => .closing .square
  | '\x7d' => .closing .curly
  | _ => .plain

def isLineBreak (c : Char) : Bool := c == '\n' || c == '\r'

/-- Where a lexer stands: in code, in a literal, or behind a backslash in a literal. -/
inductive LexerMode
  | code
  | literal (quote : QuoteSign)
  | escape (quote : QuoteSign)
deriving DecidableEq

/-- A lexer with the brackets that are still to be closed, the innermost first. -/
structure Lexer where
  mode : LexerMode
  awaited : List Bracket
deriving DecidableEq

namespace Lexer

/-- Outside all literals and brackets. -/
def ground : Lexer := ⟨.code, []⟩

/-- The brackets after one was closed, if it was the innermost. -/
def close (bracket : Bracket) : List Bracket → Option (List Bracket)
  | [] => none
  | innermost :: outer => if innermost = bracket then some outer else none

/-- The lexer behind a character; a bracket that closes nothing, or something else, has no place. -/
def step (lexer : Lexer) (c : Char) : Option Lexer :=
  match lexer.mode with
  | .escape quote => some ⟨.literal quote, lexer.awaited⟩
  | .literal quote =>
    if c = '\\' then some ⟨.escape quote, lexer.awaited⟩
    else if c = quote.char then some ⟨.code, lexer.awaited⟩
    else some lexer
  | .code =>
    match signOf c with
    | .quote quote => some ⟨.literal quote, lexer.awaited⟩
    | .opening bracket => some ⟨.code, bracket :: lexer.awaited⟩
    | .closing bracket => (close bracket lexer.awaited).map fun outer => ⟨.code, outer⟩
    | .plain => some lexer

/-- The lexer behind some characters. -/
def run (lexer : Lexer) : List Char → Option Lexer
  | [] => some lexer
  | c :: rest => (lexer.step c).bind fun lexer' => lexer'.run rest

/-- The lexer behind some characters, if every literal closes on its line. -/
def read (lexer : Lexer) : List Char → Option Lexer
  | [] => some lexer
  | c :: rest =>
    if isLineBreak c && lexer.mode != .code then none
    else (lexer.step c).bind fun lexer' => lexer'.read rest

/-- What stands outside all brackets and literals, and the signs that lead into them and out of them. -/
def surface (lexer : Lexer) : List Char → List Char
  | [] => []
  | c :: rest =>
    match lexer.step c with
    | none => []
    | some lexer' =>
      if lexer = ground ∨ lexer' = ground then c :: lexer'.surface rest else lexer'.surface rest

/-- The lexer inside more brackets. -/
def under (lexer : Lexer) (outer : List Bracket) : Lexer := ⟨lexer.mode, lexer.awaited ++ outer⟩

end Lexer

/-- All literals and brackets of the text are closed at its end, and nothing else is. -/
def Balanced (text : String) : Prop := Lexer.ground.run text.toList = some .ground

instance (text : String) : Decidable (Balanced text) := inferInstanceAs (Decidable (_ = _))

/-- The lexer gets from one place to another over the characters. Sources may stand wherever it is in
code; outside of them, every literal closes on its line. -/
inductive Reads (sources : List String) : Lexer → List Char → Lexer → Prop
  | nil (lexer : Lexer) : Reads sources lexer [] lexer
  | char {lexer lexer' lexer'' : Lexer} {c : Char} {rest : List Char} :
    lexer.step c = some lexer' → (isLineBreak c = true → lexer.mode = .code) →
    Reads sources lexer' rest lexer'' → Reads sources lexer (c :: rest) lexer''
  | source {awaited : List Bracket} {lexer : Lexer} {text : String} {rest : List Char} : text ∈ sources →
    Reads sources ⟨.code, awaited⟩ rest lexer →
    Reads sources ⟨.code, awaited⟩ (text.toList ++ rest) lexer

namespace Lexer

variable {lexer lexer' lexer'' : Lexer} {c : Char} {chars chars' : List Char}

/-! ### Texts one after another -/

theorem run_append (lexer : Lexer) (chars chars' : List Char) :
    lexer.run (chars ++ chars') = (lexer.run chars).bind fun lexer' => lexer'.run chars' := by
  induction chars generalizing lexer with
  | nil => rfl
  | cons c rest ih =>
    cases stepped : lexer.step c with
    | none => simp [run, stepped]
    | some lexer' => simp [run, stepped, ih]

theorem read_append (lexer : Lexer) (chars chars' : List Char) :
    lexer.read (chars ++ chars') = (lexer.read chars).bind fun lexer' => lexer'.read chars' := by
  induction chars generalizing lexer with
  | nil => rfl
  | cons c rest ih =>
    simp only [read, List.cons_append]
    split
    · rfl
    · cases stepped : lexer.step c with
      | none => rfl
      | some lexer' => simpa using ih lexer'

theorem surface_append (passes : lexer.run chars = some lexer') (chars' : List Char) :
    lexer.surface (chars ++ chars') = lexer.surface chars ++ lexer'.surface chars' := by
  induction chars generalizing lexer with
  | nil =>
    cases passes
    rfl
  | cons c rest ih =>
    obtain ⟨next, stepped, passes⟩ := Option.bind_eq_some_iff.1 passes
    simp only [surface, List.cons_append, stepped, ih passes]
    split <;> rfl

/-! ### Inside more brackets -/

theorem close_append {bracket : Bracket} {awaited rest : List Bracket}
    (closed : close bracket awaited = some rest) (outer : List Bracket) :
    close bracket (awaited ++ outer) = some (rest ++ outer) := by
  cases awaited with
  | nil => cases closed
  | cons innermost more =>
    simp only [close, List.cons_append] at closed ⊢
    split at closed
    next same =>
      cases closed
      simp [same]
    next => cases closed

theorem step_under (stepped : lexer.step c = some lexer') (outer : List Bracket) :
    (lexer.under outer).step c = some (lexer'.under outer) := by
  obtain ⟨mode, awaited⟩ := lexer
  cases mode with
  | escape quote =>
    cases stepped
    rfl
  | literal quote =>
    simp only [step, under] at stepped ⊢
    split at stepped
    next backslash =>
      cases stepped
      exact if_pos backslash
    next plain =>
      split at stepped
      next closes =>
        cases stepped
        exact (if_neg plain).trans (if_pos closes)
      next stays =>
        cases stepped
        exact (if_neg plain).trans (if_neg stays)
  | code =>
    simp only [step, under] at stepped ⊢
    cases sign : signOf c with
    | quote quote =>
      rw [sign] at stepped
      cases stepped
      rfl
    | opening bracket =>
      rw [sign] at stepped
      cases stepped
      rfl
    | closing bracket =>
      rw [sign] at stepped
      obtain ⟨rest, closed, rfl⟩ := Option.map_eq_some_iff.1 stepped
      simp [close_append closed]
    | plain =>
      rw [sign] at stepped
      cases stepped
      rfl

theorem run_under (passes : lexer.run chars = some lexer') (outer : List Bracket) :
    (lexer.under outer).run chars = some (lexer'.under outer) := by
  induction chars generalizing lexer with
  | nil =>
    cases passes
    rfl
  | cons c rest ih =>
    obtain ⟨next, stepped, passes⟩ := Option.bind_eq_some_iff.1 passes
    simp only [run, step_under stepped outer, Option.bind_some, ih passes]

theorem under_ne_ground {outer : List Bracket} (inside : outer ≠ []) : lexer.under outer ≠ ground := by
  intro same
  have none : lexer.awaited ++ outer = [] := congrArg awaited same
  exact inside (List.append_eq_nil_iff.1 none).2

/-- Nothing inside brackets is on the surface. -/
theorem surface_under (passes : lexer.run chars = some lexer') {outer : List Bracket}
    (inside : outer ≠ []) : (lexer.under outer).surface chars = [] := by
  induction chars generalizing lexer with
  | nil => rfl
  | cons c rest ih =>
    obtain ⟨next, stepped, passes⟩ := Option.bind_eq_some_iff.1 passes
    simp [surface, step_under stepped outer, under_ne_ground inside, ih passes]

/-- Whatever stands outside all brackets is on the surface. -/
theorem surface_ground (passes : ground.run (c :: chars) = some lexer) :
    ∃ next, ground.surface (c :: chars) = c :: next.surface chars ∧ ground.step c = some next ∧
      next.run chars = some lexer := by
  obtain ⟨next, stepped, passes⟩ := Option.bind_eq_some_iff.1 passes
  exact ⟨next, by simp [surface, stepped], stepped, passes⟩

end Lexer

/-! ## Reading -/

section

variable {sources : List String} {lexer lexer' lexer'' : Lexer} {chars chars' : List Char}

theorem Reads.append (reads : Reads sources lexer chars lexer')
    (reads' : Reads sources lexer' chars' lexer'') : Reads sources lexer (chars ++ chars') lexer'' := by
  induction reads with
  | nil => exact reads'
  | char stepped unbroken _ ih => exact .char stepped unbroken (ih reads')
  | source known _ ih => exact List.append_assoc _ _ _ ▸ .source known (ih reads')

/-- What is read without sources is read. -/
theorem Reads.of_read (reads : lexer.read chars = some lexer') : Reads sources lexer chars lexer' := by
  induction chars generalizing lexer with
  | nil =>
    cases reads
    exact .nil _
  | cons c rest ih =>
    simp only [Lexer.read] at reads
    split at reads
    · cases reads
    next unbroken =>
      obtain ⟨next, stepped, reads⟩ := Option.bind_eq_some_iff.1 reads
      refine .char stepped (fun breaks => ?_) (ih reads)
      simpa [breaks] using unbroken

/-- If the sources are balanced, what is read is what the lexer does. -/
theorem Reads.run (balanced : ∀ text ∈ sources, Balanced text)
    (reads : Reads sources lexer chars lexer') : lexer.run chars = some lexer' := by
  induction reads with
  | nil => rfl
  | char stepped _ _ ih => simp only [Lexer.run, stepped, Option.bind_some, ih]
  | @source awaited lexer text rest known _ ih =>
    have passed : Lexer.run ⟨.code, awaited⟩ text.toList = some ⟨.code, awaited⟩ := by
      simpa [Lexer.under, Lexer.ground] using Lexer.run_under (balanced text known) awaited
    rw [Lexer.run_append, passed]
    exact ih

end

/-! ## Blanks at the ends -/

theorem ne_of_blank {c d : Char} (blank : Text.isBlank c = true) (shown : Text.isBlank d = false) :
    c ≠ d := by
  rintro rfl
  simp [blank] at shown

theorem signOf_of_blank {c : Char} (blank : Text.isBlank c = true) : signOf c = .plain := by
  unfold signOf
  split
  all_goals first
    | rfl
    | exact absurd blank (by decide)

/-- Blanks change nothing in code and close no literal. -/
theorem step_of_blank {c : Char} (blank : Text.isBlank c = true) (lexer : Lexer) :
    ∃ lexer', lexer.step c = some lexer' ∧ (lexer.mode = .code → lexer' = lexer) ∧
      (lexer.mode ≠ .code → lexer'.mode ≠ .code) := by
  obtain ⟨mode, awaited⟩ := lexer
  cases mode with
  | code =>
    have stays : Lexer.step ⟨.code, awaited⟩ c = some ⟨.code, awaited⟩ := by
      simp only [Lexer.step, signOf_of_blank blank]
    exact ⟨_, stays, fun _ => rfl, fun notCode => absurd rfl notCode⟩
  | literal quote =>
    have backslash : c ≠ '\\' := ne_of_blank blank (by decide)
    have sign : c ≠ quote.char := by cases quote <;> exact ne_of_blank blank (by decide)
    have stays : Lexer.step ⟨.literal quote, awaited⟩ c = some ⟨.literal quote, awaited⟩ :=
      (if_neg backslash).trans (if_neg sign)
    exact ⟨_, stays, nofun, fun _ => nofun⟩
  | escape quote => exact ⟨_, rfl, nofun, fun _ => nofun⟩

theorem run_blanks {blanks : List Char} (blank : ∀ c ∈ blanks, Text.isBlank c = true) (lexer : Lexer) :
    lexer.run blanks = some .ground ↔ lexer = .ground := by
  induction blanks generalizing lexer with
  | nil => simp [Lexer.run]
  | cons c rest ih =>
    obtain ⟨next, stepped, inCode, inLiteral⟩ := step_of_blank (blank c List.mem_cons_self) lexer
    rw [Lexer.run, stepped, Option.bind_some, ih fun c present => blank c (List.mem_cons_of_mem _ present)]
    constructor
    · rintro rfl
      by_cases code : lexer.mode = .code
      · exact (inCode code).symm
      · exact absurd rfl (inLiteral code)
    · rintro rfl
      exact inCode rfl

/-- A balanced text stays so without the blanks at its ends. -/
theorem balanced_trim {text : String} (balanced : Balanced text) : Balanced (Text.trim text) := by
  obtain ⟨front, back, split, blankFront, blankBack⟩ := Text.trimChars_eq text.toList
  unfold Balanced at balanced ⊢
  rw [split, List.append_assoc, Lexer.run_append, (run_blanks blankFront _).2 rfl, Option.bind_some,
    Lexer.run_append] at balanced
  obtain ⟨lexer, passes, atEnd⟩ := Option.bind_eq_some_iff.1 balanced
  rw [(run_blanks blankBack lexer).1 atEnd] at passes
  simpa [Text.trim] using passes

end ModScript
