import ModScript.Proofs.Json.Numerals
import ModScript.Proofs.Script.Templates

/-!
# Surfaces of texts

What a text has outside all brackets and literals does not depend on what stands inside of them. So the surface of
a template is known, whatever is put into its brackets, and even where the sources that are called back are no code
at all: a source may stand inside brackets only, and nothing of it is shown.

Results:
1. `Shows.under`: what is read inside brackets shows nothing.
2. `Shows.run`: if the sources are balanced, what is shown is the surface.
3. `Shown.append`, `shown_enclosed`, `shown_body`: the surface of a text, part by part.
4. `shown_compact`, `shown_indented`: the surfaces of data values.
-/

namespace ModScript

variable {sources : List String}

/-- The lexer gets from one place to another over the characters, as it reads, and some of them are shown: those
outside all brackets and literals, and the signs that lead into them and out of them. Sources stand inside brackets. -/
inductive Shows (sources : List String) : Lexer → List Char → Lexer → List Char → Prop
  | nil (lexer : Lexer) : Shows sources lexer [] lexer []
  | char {lexer lexer' lexer'' : Lexer} {c : Char} {rest shown : List Char} :
    lexer.step c = some lexer' → (isLineBreak c = true → lexer.mode = .code) →
    Shows sources lexer' rest lexer'' shown →
    Shows sources lexer (c :: rest) lexer'' (if lexer = .ground ∨ lexer' = .ground then c :: shown else shown)
  | source {awaited : List Bracket} {lexer : Lexer} {text : String} {rest shown : List Char} : text ∈ sources →
    awaited ≠ [] → Shows sources ⟨.code, awaited⟩ rest lexer shown →
    Shows sources ⟨.code, awaited⟩ (text.toList ++ rest) lexer shown

section

variable {lexer lexer' lexer'' : Lexer} {chars chars' shown shown' : List Char}

theorem Shows.append (shows : Shows sources lexer chars lexer' shown)
    (shows' : Shows sources lexer' chars' lexer'' shown') :
    Shows sources lexer (chars ++ chars') lexer'' (shown ++ shown') := by
  induction shows with
  | nil => exact shows'
  | char stepped unbroken _ ih =>
    have longer := Shows.char stepped unbroken (ih shows')
    split at longer
    next atGround =>
      rw [if_pos atGround]
      exact longer
    next inside =>
      rw [if_neg inside]
      exact longer
  | source known inside _ ih => exact List.append_assoc _ _ _ ▸ .source known inside (ih shows')

/-- What is read without sources shows its surface. -/
theorem Shows.of_read (reads : lexer.read chars = some lexer') :
    Shows sources lexer chars lexer' (lexer.surface chars) := by
  induction chars generalizing lexer with
  | nil =>
    cases reads
    exact .nil _
  | cons c rest ih =>
    simp only [Lexer.read] at reads
    split at reads
    · cases reads
    next unbroken =>
      obtain ⟨next, stepped, reads⟩ := Option.bind_eq_some_iff.1 reads
      have shows : Shows sources lexer (c :: rest) lexer' _ :=
        .char stepped (fun breaks => by simpa [breaks] using unbroken) (ih reads)
      simpa only [Lexer.surface, stepped] using shows

/-- What is read inside brackets shows nothing. -/
theorem Shows.under (reads : Reads sources lexer chars lexer') {outer : List Bracket} (inside : outer ≠ []) :
    Shows sources (lexer.under outer) chars (lexer'.under outer) [] := by
  induction reads with
  | nil => exact .nil _
  | char stepped unbroken _ ih =>
    have shows := Shows.char (Lexer.step_under stepped outer) unbroken ih
    rwa [if_neg (not_or.2 ⟨Lexer.under_ne_ground inside, Lexer.under_ne_ground inside⟩)] at shows
  | @source awaited _ _ _ known _ ih =>
    have more : awaited ++ outer ≠ [] := fun none => inside (List.append_eq_nil_iff.1 none).2
    exact .source known more ih

theorem Shows.reads (shows : Shows sources lexer chars lexer' shown) : Reads sources lexer chars lexer' := by
  induction shows with
  | nil => exact .nil _
  | char stepped unbroken _ ih => exact .char stepped unbroken ih
  | source known _ _ ih => exact .source known ih

/-- Outside all brackets no source stands in an empty text. -/
theorem Shows.eq_nil (shows : Shows sources lexer [] lexer' shown) (outside : lexer.awaited = []) : shown = [] := by
  generalize none : ([] : List Char) = chars at shows
  cases shows with
  | nil => rfl
  | char => cases none
  | source _ inside => exact absurd outside inside

/-- If the sources are balanced, what is shown is the surface. -/
theorem Shows.run (balanced : ∀ text ∈ sources, Balanced text) (shows : Shows sources lexer chars lexer' shown) :
    lexer.run chars = some lexer' ∧ lexer.surface chars = shown := by
  refine ⟨Reads.run balanced shows.reads, ?_⟩
  induction shows with
  | nil => rfl
  | char stepped _ _ ih => simp only [Lexer.surface, stepped, ih]
  | @source awaited _ text _ _ known inside _ ih =>
    have ground := balanced text known
    have passed : Lexer.run ⟨.code, awaited⟩ text.toList = some ⟨.code, awaited⟩ := Lexer.run_under ground awaited
    have hidden : Lexer.surface ⟨.code, awaited⟩ text.toList = [] := Lexer.surface_under ground inside
    rw [Lexer.surface_append passed, hidden, ih, List.nil_append]

end

/-! ## Texts -/

/-- The text begins and ends outside all brackets and literals, and this is its surface. -/
def Shown (sources : List String) (text surface : String) : Prop :=
  Shows sources .ground text.toList .ground surface.toList

variable {text text' outside outside' inner : String}

theorem Shown.append (shown : Shown sources text outside) (shown' : Shown sources text' outside') :
    Shown sources (text ++ text') (outside ++ outside') := by
  rw [Shown, String.toList_append, String.toList_append]
  exact Shows.append shown shown'

/-- Own text of a template. -/
theorem shown_own {chars shown : List Char}
    (own : Lexer.ground.read chars = some .ground ∧ Lexer.ground.surface chars = shown) :
    Shown sources (String.ofList chars) (String.ofList shown) := by
  rw [Shown, String.toList_ofList, String.toList_ofList, ← own.2]
  exact .of_read own.1

theorem Shown.own {chars shown : List Char} (shows : Shown sources text outside)
    (own : Lexer.ground.read chars = some .ground ∧ Lexer.ground.surface chars = shown) :
    Shown sources (text ++ String.ofList chars) (outside ++ String.ofList shown) :=
  shows.append (shown_own own)

/-- Something inside the brackets of a template. -/
theorem shown_enclosed {front back shown : List Char} {awaited : List Bracket}
    (own : Lexer.ground.read front = some ⟨.code, awaited⟩ ∧ Lexer.read ⟨.code, awaited⟩ back = some .ground ∧
      awaited ≠ [] ∧ Lexer.ground.surface front ++ Lexer.surface ⟨.code, awaited⟩ back = shown)
    (keeps : Keeps sources inner) :
    Shown sources (String.ofList front ++ (inner ++ String.ofList back)) (String.ofList shown) := by
  obtain ⟨opens, closes, inside, rfl⟩ := own
  have hidden : Shows sources ⟨.code, awaited⟩ inner.toList ⟨.code, awaited⟩ [] := Shows.under (keeps []) inside
  have shows := Shows.append (.of_read opens) (hidden.append (.of_read closes))
  rw [Shown]
  simpa using shows

/-- Lines inside the brackets of a template. -/
theorem shown_body {header tail shown : List Char} {awaited : List Bracket} {lines : List String}
    (own : Lexer.ground.read header = some ⟨.code, awaited⟩ ∧ Lexer.read ⟨.code, awaited⟩ tail = some .ground ∧
      awaited ≠ [] ∧ Lexer.ground.surface header ++ Lexer.surface ⟨.code, awaited⟩ tail = shown)
    (keeps : KeepsLines sources lines) :
    Shown sources (joinLines (String.ofList header :: lines ++ [String.ofList tail])) (String.ofList shown) := by
  obtain ⟨inner, keepsInner, text⟩ := exists_inner (String.ofList header) (String.ofList tail) keeps
  rw [text]
  exact shown_enclosed own keepsInner

/-! ## Data values -/

/-- A text without quotes and brackets is its own surface. -/
theorem shown_plain {chars : List Char} (plain : ∀ c ∈ chars, signOf c = .plain) :
    Shown sources (String.ofList chars) (String.ofList chars) := by
  refine shown_own ⟨(calm_of_plain plain []).1, ?_⟩
  induction chars with
  | nil => rfl
  | cons c rest ih =>
    obtain ⟨first, others⟩ := List.forall_mem_cons.1 plain
    have stays : Lexer.ground.step c = some .ground := by simp only [Lexer.step, Lexer.ground, first]
    simp [Lexer.surface, stays, ih others]

theorem shown_between {front back : Char} {chars : List Char} {bracket : Bracket} (calm : Calm chars)
    (own : Lexer.ground.read [front] = some ⟨.code, [bracket]⟩ ∧ Lexer.read ⟨.code, [bracket]⟩ [back] = some .ground ∧
      [bracket] ≠ [] ∧ Lexer.ground.surface [front] ++ Lexer.surface ⟨.code, [bracket]⟩ [back] = [front, back]) :
    Shown sources (String.ofList (front :: chars ++ [back])) (String.ofList [front, back]) := by
  have keeps : Keeps sources (String.ofList chars) := Calm.keeps (String.toList_ofList.symm ▸ calm)
  have shown := shown_enclosed own keeps
  rw [← String.ofList_append, ← String.ofList_append] at shown
  exact shown

theorem shown_quoteChars (chars : List Char) :
    Shown sources (String.ofList (Json.quoteChars chars)) (String.ofList ['"', '"']) := by
  have contained : Contained (chars.flatMap Json.escapedChar) := contained_flatMap fun c _ => contained_escapedChar c
  refine shown_own ⟨(calm_quoteChars chars []).1, ?_⟩
  have inside : Lexer.surface ⟨.literal .double, []⟩ (chars.flatMap Json.escapedChar ++ ['"']) = ['"'] := by
    rw [Lexer.surface_append (Lexer.run_of_read (contained []).1), (contained []).2]
    rfl
  have opens : Lexer.ground.step '"' = some ⟨.literal .double, []⟩ := rfl
  show Lexer.ground.surface ('"' :: (chars.flatMap Json.escapedChar ++ ['"'])) = _
  simp [Lexer.surface, opens, inside]

theorem plain_of_isNumeral {c : Char} (numeral : Json.isNumeral c = true) : signOf c = .plain := by
  unfold signOf
  split
  all_goals first
    | rfl
    | exact absurd numeral (by decide)

/-- The surface of a data value. -/
def Json.surface : Json → String
  | .string _ => "\"\""
  | .array _ => "[]"
  | .object _ => r"{}"
  | value => value.compact

theorem shown_compact (value : Json) : Shown sources value.compact value.surface := by
  cases value with
  | null => exact shown_own ⟨rfl, rfl⟩
  | bool value => cases value <;> exact shown_own ⟨rfl, rfl⟩
  | number n =>
    have numeral : ∀ c ∈ Json.numberChars n, signOf c = .plain := fun c present =>
      plain_of_isNumeral (List.all_eq_true.1 (Json.isNumeral_numberChars n) c present)
    exact shown_plain numeral
  | string s => exact shown_quoteChars s.toList
  | array items => exact shown_between (calm_compactItems items) ⟨rfl, rfl, List.cons_ne_nil _ _, rfl⟩
  | object members => exact shown_between (calm_compactMembers members) ⟨rfl, rfl, List.cons_ne_nil _ _, rfl⟩

theorem shown_indented (value : Json) : Shown sources value.indented value.surface := by
  cases value with
  | null => exact shown_compact .null
  | bool value => cases value <;> exact shown_own ⟨rfl, rfl⟩
  | number n => exact shown_compact (.number n)
  | string s => exact shown_compact (.string s)
  | array items =>
    rw [Json.indented, Json.indentedChars]
    split
    · exact shown_own ⟨rfl, rfl⟩
    · exact shown_between ((calm_indentedItems 1 items).append (calm_lineStart 0)) ⟨rfl, rfl, List.cons_ne_nil _ _, rfl⟩
  | object members =>
    rw [Json.indented, Json.indentedChars]
    split
    · exact shown_own ⟨rfl, rfl⟩
    · exact shown_between ((calm_indentedMembers 1 members).append (calm_lineStart 0)) ⟨rfl, rfl, List.cons_ne_nil _ _, rfl⟩

end ModScript
