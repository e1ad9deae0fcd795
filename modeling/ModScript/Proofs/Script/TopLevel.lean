import Mathlib.Data.List.Forall2
import ModScript.Proofs.Json.Tables
import ModScript.Proofs.Script.Layout
import ModScript.Proofs.Script.BlockSurfaces

/-!
# Names at the top level

The surface of a script is a sequence of words and of signs between them. A name is bound where it stands behind a
word that binds: `const` and `function`, and others that no script uses. A text whose surface has anything by which a
name could be bound otherwise is not read at all, such as a comma, which might stand between two names.

Results:
1. `lexemes_append`: words end where a sign or a blank stands.
2. `boundNames?_append`: the names of one part stand before those of the next.
3. `Declares.beside`, `declares_gaps`: the names of texts on lines of their own.
4. `declares_constantLine`: a constant binds its name and nothing else.
5. `Script.Fits.declares_text`: the names of a script.
-/

namespace ModScript

/-! ## Words and signs -/

/-- A part of a surface. -/
inductive Lexeme
  | word (chars : List Char)
  | sign (c : Char)
deriving DecidableEq

/-- The end of a word, if there was one. -/
def endWord (word : List Char) : List Lexeme := if word.isEmpty then [] else [.word word]

/-- The words of a text and the signs between them. The first word goes on from what was read of it. -/
def lexemesFrom (word : List Char) : List Char → List Lexeme
  | [] => endWord word
  | c :: rest =>
    if continuesIdentifier c then lexemesFrom (word ++ [c]) rest
    else endWord word ++ (if Text.isBlank c then [] else [.sign c]) ++ lexemesFrom [] rest

def lexemes (chars : List Char) : List Lexeme := lexemesFrom [] chars

/-- Words behind which a name stands that they bind. -/
def bindingWords : List (List Char) :=
  ["const".toList, "let".toList, "var".toList, "function".toList, "class".toList, "import".toList]

/-- Signs that are read: no name is bound by them, and none of them hides what stands behind it. -/
def readSigns : List Char := ['=', ';', '.', '-', '+', '(', ')', '[', ']', '\x7b', '\x7d', '"', '\x27']

/-- The names that are bound, in their order. A name that is awaited has to be the next word. -/
def boundNames? (awaited : Bool) : List Lexeme → Option (List String)
  | [] => if awaited then none else some []
  | .word chars :: rest =>
    if awaited then (boundNames? false rest).map (String.ofList chars :: ·)
    else boundNames? (decide (chars ∈ bindingWords)) rest
  | .sign c :: rest => if awaited = false ∧ c ∈ readSigns then boundNames? false rest else none

/-- The names that a text binds outside all brackets, if all its brackets and literals are closed. -/
def topLevelNames? (text : String) : Option (List String) :=
  if Balanced text then boundNames? false (lexemes (Lexer.ground.surface text.toList)) else none

section

variable {word chars : List Char} {c : Char} {awaited : Bool} {front : List Lexeme} {names : List String}

theorem lexemesFrom_append (ends : continuesIdentifier c = false) (word front back : List Char) :
    lexemesFrom word (front ++ c :: back) = lexemesFrom word front ++ lexemes (c :: back) := by
  induction front generalizing word with
  | nil => simp [lexemesFrom, lexemes, ends, endWord]
  | cons d rest ih =>
    simp only [List.cons_append, lexemesFrom]
    split
    · exact ih _
    · rw [ih, List.append_assoc, List.append_assoc, List.append_assoc]

/-- Words end where a sign or a blank stands. -/
theorem lexemes_append (ends : continuesIdentifier c = false) (front back : List Char) :
    lexemes (front ++ c :: back) = lexemes front ++ lexemes (c :: back) :=
  lexemesFrom_append ends [] front back

theorem lexemes_blank (ends : continuesIdentifier c = false) (blank : Text.isBlank c = true) (rest : List Char) :
    lexemes (c :: rest) = lexemes rest := by
  simp [lexemes, lexemesFrom, ends, blank, endWord]

theorem lexemes_sign (ends : continuesIdentifier c = false) (shown : Text.isBlank c = false) (rest : List Char) :
    lexemes (c :: rest) = .sign c :: lexemes rest := by
  simp [lexemes, lexemesFrom, ends, shown, endWord]

theorem lexemesFrom_word (continues : ∀ c ∈ chars, continuesIdentifier c = true) (word : List Char) :
    lexemesFrom word chars = endWord (word ++ chars) := by
  induction chars generalizing word with
  | nil => rw [List.append_nil, lexemesFrom]
  | cons c rest ih =>
    obtain ⟨first, others⟩ := List.forall_mem_cons.1 continues
    rw [lexemesFrom, if_pos first, ih others, List.append_assoc, List.singleton_append]

/-- The names of one part stand before those of the next. -/
theorem boundNames?_append (bound : boundNames? awaited front = some names) (back : List Lexeme) :
    boundNames? awaited (front ++ back) = (boundNames? false back).map (names ++ ·) := by
  induction front generalizing awaited names with
  | nil =>
    cases awaited with
    | false =>
      cases bound
      simp
    | true => cases bound
  | cons lexeme rest ih =>
    cases lexeme with
    | word chars =>
      simp only [boundNames?, List.cons_append] at bound ⊢
      split at bound
      next named =>
        obtain ⟨others, found, rfl⟩ := Option.map_eq_some_iff.1 bound
        rw [if_pos named, ih found, Option.map_map]
        rfl
      next unnamed => rw [if_neg unnamed, ih bound]
    | sign c =>
      simp only [boundNames?, List.cons_append] at bound ⊢
      split at bound
      next read => rw [if_pos read, ih bound]
      next => cases bound

end

/-! ## Names of texts -/

variable {sources : List String} {text text' surface : String} {names names' : List String}

/-- The text binds these names outside all brackets, in their order, whatever the sources are. -/
def Declares (sources : List String) (text : String) (names : List String) : Prop :=
  ∃ surface, Shown sources text surface ∧ boundNames? false (lexemes surface.toList) = some names

theorem Shown.declares (shown : Shown sources text surface)
    (bound : boundNames? false (lexemes surface.toList) = some names) : Declares sources text names :=
  ⟨surface, shown, bound⟩

/-- A surface that is known. -/
theorem Shown.declares_own {chars : List Char} (shown : Shown sources text (String.ofList chars))
    (bound : boundNames? false (lexemes chars) = some names) : Declares sources text names :=
  shown.declares (String.toList_ofList.symm ▸ bound)

/-- If the sources are balanced, the names can be read off the text. -/
theorem Declares.topLevelNames? (balanced : ∀ text ∈ sources, Balanced text) (declares : Declares sources text names) :
    topLevelNames? text = some names := by
  obtain ⟨surface, shown, bound⟩ := declares
  obtain ⟨passes, outside⟩ := Shows.run balanced shown
  have closed : Balanced text := passes
  rw [ModScript.topLevelNames?, if_pos closed, outside, bound]

theorem declares_empty : Declares sources "" [] := by
  have shown : Shown sources "" "" := .of_read rfl
  exact shown.declares rfl

/-- Texts on lines of their own. -/
theorem Declares.beside (declares : Declares sources text names) (declares' : Declares sources text' names') :
    Declares sources (text ++ "\n" ++ text') (names ++ names') := by
  obtain ⟨surface, shown, bound⟩ := declares
  obtain ⟨surface', shown', bound'⟩ := declares'
  have gap : Shown sources "\n" "\n" := shown_own ⟨rfl, rfl⟩
  refine ((shown.append gap).append shown').declares ?_
  have split : (surface ++ "\n" ++ surface').toList = surface.toList ++ '\n' :: surface'.toList := by simp
  rw [split, lexemes_append (by decide), lexemes_blank (by decide) (by decide), boundNames?_append bound, bound']
  rfl

theorem Declares.eq_nil (declares : Declares sources "" names) : names = [] := by
  obtain ⟨surface, shown, bound⟩ := declares
  have none : surface.toList = [] := Shows.eq_nil shown rfl
  rw [none] at bound
  exact (Option.some.inj bound).symm

/-- Texts with the same gap between any two of them. -/
theorem declares_intercalate {gap : String} {texts : List String} {parts : List (List String)}
    (beside : ∀ {text text' : String} {names names' : List String}, Declares sources text names →
      Declares sources text' names' → Declares sources (text ++ gap ++ text') (names ++ names'))
    (each : List.Forall₂ (Declares sources) texts parts) : Declares sources (gap.intercalate texts) parts.flatten := by
  induction each with
  | nil => exact declares_empty
  | cons first others ih =>
    cases others with
    | nil =>
      rw [String.intercalate_singleton]
      simpa using first
    | cons second others =>
      rw [String.intercalate_cons_cons]
      exact beside first ih

theorem declares_joinLines {lines : List String} {parts : List (List String)}
    (each : List.Forall₂ (Declares sources) lines parts) : Declares sources (joinLines lines) parts.flatten :=
  declares_intercalate Declares.beside each

/-- Lines that bind nothing. -/
theorem declares_joinLines_nil {lines : List String} (each : ∀ line ∈ lines, Declares sources line []) :
    Declares sources (joinLines lines) [] := by
  have parts : List.Forall₂ (Declares sources) (lines.map id) (lines.map fun _ => []) := by
    rw [List.forall₂_map_left_iff, List.forall₂_map_right_iff]
    exact List.forall₂_same.2 each
  have none : (lines.map fun _ => ([] : List String)).flatten = [] := by simp
  rw [List.map_id] at parts
  exact none ▸ declares_joinLines parts

/-- Texts with an empty line between two of them. -/
theorem declares_gaps {texts : List String} {parts : List (List String)}
    (each : List.Forall₂ (Declares sources) texts parts) :
    Declares sources ("\n\n".intercalate texts) parts.flatten := by
  refine declares_intercalate (fun declares declares' => ?_) each
  simpa [String.append_assoc] using (declares.beside declares_empty).beside declares'

/-- Blocks without text bind nothing. -/
theorem declares_filledBlocks {blocks : List String} {parts : List (List String)}
    (each : List.Forall₂ (Declares sources) blocks parts) :
    Declares sources ("\n\n".intercalate (filledBlocks blocks)) parts.flatten := by
  suffices ∃ parts', List.Forall₂ (Declares sources) (filledBlocks blocks) parts' ∧ parts'.flatten = parts.flatten by
    obtain ⟨parts', filled, same⟩ := this
    exact same ▸ declares_gaps filled
  induction each with
  | nil => exact ⟨[], .nil, rfl⟩
  | @cons block names blocks parts first others ih =>
    obtain ⟨parts', filled, same⟩ := ih
    cases empty : block.isEmpty with
    | true =>
      obtain rfl := String.isEmpty_iff.1 empty
      exact ⟨parts', by simpa [filledBlocks] using filled, by simp [first.eq_nil, same]⟩
    | false =>
      have kept : filledBlocks (block :: blocks) = block :: filledBlocks blocks := by simp [filledBlocks, empty]
      exact ⟨names :: parts', kept ▸ .cons first filled, by simp [same]⟩

/-! ## Constants -/

/-- The characters of numbers in either base. -/
def inNumber (c : Char) : Bool := c.isDigit || "abcdefxE+-.".toList.contains c

theorem inNumber_of_isNumeral {c : Char} (numeral : Json.isNumeral c = true) : inNumber c = true := by
  simp only [Json.isNumeral, Bool.or_eq_true, beq_iff_eq] at numeral
  rcases numeral with ((((digit | rfl) | rfl) | rfl) | rfl) | rfl
  · have known : c.isDigit = true := by simpa [Json.isDigit, Char.isDigit, Char.le_def] using digit
    simp [inNumber, known]
  all_goals decide

/-- Numbers are made of parts of words and of three signs. -/
theorem continues_or_of_inNumber {c : Char} (number : inNumber c = true) :
    continuesIdentifier c = true ∨ c ∈ ['+', '-', '.'] := by
  have signs : ∀ c ∈ "abcdefxE+-.".toList, continuesIdentifier c = true ∨ c ∈ ['+', '-', '.'] :=
    List.forall_iff_forall_mem.1 (by decide)
  rcases Bool.or_eq_true_iff.1 number with digit | sign
  · exact .inl (by simp [continuesIdentifier, Char.isAlphanum, digit])
  · exact signs c (List.contains_iff_mem.1 sign)

/-- A word that binds has a character that no number has. -/
theorem not_mem_bindingWords {word : List Char} (number : ∀ c ∈ word, inNumber c = true) :
    word ∉ bindingWords := by
  have other : ∀ word ∈ bindingWords, word.all inNumber = false := by decide
  exact fun binds => Bool.false_ne_true ((other word binds).symm.trans (List.all_eq_true.2 number))

theorem boundNames?_endWord {word : List Char} (number : ∀ c ∈ word, inNumber c = true) :
    boundNames? false (endWord word) = some [] := by
  unfold endWord
  split
  · rfl
  · simp [boundNames?, not_mem_bindingWords number]

/-- No number binds a name. -/
theorem boundNames?_number {chars : List Char} (number : ∀ c ∈ chars, inNumber c = true) :
    boundNames? false (lexemes chars) = some [] := by
  suffices ∀ word : List Char, (∀ c ∈ word, inNumber c = true) →
      boundNames? false (lexemesFrom word chars) = some [] from this [] fun _ none => absurd none List.not_mem_nil
  induction chars with
  | nil => exact fun word known => boundNames?_endWord known
  | cons c rest ih =>
    intro word known
    obtain ⟨first, others⟩ := List.forall_mem_cons.1 number
    rw [lexemesFrom]
    split
    · exact ih others _ (List.forall_mem_append.2 ⟨known, List.forall_mem_singleton.2 first⟩)
    next ends =>
      have signs : ∀ c ∈ ['+', '-', '.'], Text.isBlank c = false ∧ c ∈ readSigns :=
        List.forall_iff_forall_mem.1 (by decide)
      obtain ⟨shown, read⟩ := signs c ((continues_or_of_inNumber first).resolve_left ends)
      rw [List.append_assoc, boundNames?_append (boundNames?_endWord known), shown]
      simp [boundNames?, read, ih others [] (fun _ none => absurd none List.not_mem_nil)]

/-- No data value binds a name. -/
theorem boundNames?_surface (value : Json) : boundNames? false (lexemes value.surface.toList) = some [] := by
  cases value with
  | null => rfl
  | bool value => cases value <;> rfl
  | number n =>
    have chars : (Json.number n).surface.toList = Json.numberChars n := String.toList_ofList
    rw [chars]
    exact boundNames?_number fun c present =>
      inNumber_of_isNumeral (List.all_eq_true.1 (Json.isNumeral_numberChars n) c present)
  | string s =>
    show boundNames? false (lexemes "\"\"".toList) = some []
    decide
  | array items =>
    show boundNames? false (lexemes "[]".toList) = some []
    decide
  | object members =>
    show boundNames? false (lexemes r"{}".toList) = some []
    decide

theorem inNumber_hexLiteral (n : Int) : ∀ c ∈ (hexLiteral n).toList, inNumber c = true := by
  have digits : ∀ k < 16, inNumber (Nat.digitChar k) = true := by decide
  intro c present
  rw [hexLiteral, String.toList_append, String.toList_ofList] at present
  rcases List.mem_append.1 present with mark | digit
  · have marks : "-0x".toList.all inNumber = true ∧ "0x".toList.all inNumber = true := by decide
    split at mark
    · exact List.all_eq_true.1 marks.1 c mark
    · exact List.all_eq_true.1 marks.2 c mark
  · obtain ⟨k, small, rfl⟩ := Address.mem_toDigits_sixteen digit
    exact digits k small

theorem plain_of_inNumber {c : Char} (number : inNumber c = true) : signOf c = .plain := by
  have signs : ∀ c ∈ ['+', '-', '.'], signOf c = .plain := List.forall_iff_forall_mem.1 (by decide)
  exact (continues_or_of_inNumber number).elim plain_of_continuesIdentifier (signs c)

theorem declares_constantLiteral (value : Json) : Declares sources (constantLiteral value) [] := by
  unfold constantLiteral
  split
  · next n _ =>
    have number := inNumber_hexLiteral n
    have shown : Shown sources (String.ofList (hexLiteral n).toList) (String.ofList (hexLiteral n).toList) :=
      shown_plain fun c present => plain_of_inNumber (number c present)
    rw [String.ofList_toList] at shown
    exact shown.declares (boundNames?_number number)
  · exact (shown_compact value).declares (boundNames?_surface value)

/-- A constant binds its name and nothing else. -/
theorem declares_constantLine {constant : String × Json} (identifier : isIdentifier constant.1 = true) :
    Declares sources (Script.constantLine constant) [constant.1] := by
  obtain ⟨filled, continues⟩ := continues_of_isIdentifier identifier
  have declares : Declares sources (constantLiteral constant.2) [] := declares_constantLiteral constant.2
  obtain ⟨surface, literal, none⟩ := declares
  have name : Shown sources constant.1 constant.1 := by
    have shown : Shown sources (String.ofList constant.1.toList) (String.ofList constant.1.toList) :=
      shown_plain fun c present => plain_of_continuesIdentifier (continues c present)
    rwa [String.ofList_toList] at shown
  have shown : Shown sources (Script.constantLine constant) ("const " ++ constant.1 ++ " = " ++ surface ++ ";") :=
    shown_own ⟨rfl, rfl⟩ |>.append name |>.own ⟨rfl, rfl⟩ |>.append literal |>.own ⟨rfl, rfl⟩
  refine shown.declares ?_
  have split : ("const " ++ constant.1 ++ " = " ++ surface ++ ";").toList =
      ['c', 'o', 'n', 's', 't'] ++ ' ' :: (constant.1.toList ++ ' ' :: '=' :: ' ' :: (surface.toList ++ [';'])) := by simp
  have begins : lexemes ['c', 'o', 'n', 's', 't'] = [.word ['c', 'o', 'n', 's', 't']] := by decide
  have word : lexemes constant.1.toList = [.word constant.1.toList] := by
    rw [lexemes, lexemesFrom_word continues, endWord, List.nil_append, if_neg (by simpa using filled)]
  have ends : boundNames? false (lexemes (surface.toList ++ [';'])) = some [] := by
    rw [lexemes_append (by decide), boundNames?_append none]
    decide
  rw [split, lexemes_append (by decide), begins, lexemes_blank (by decide) (by decide), lexemes_append (by decide), word,
    lexemes_blank (by decide) (by decide), lexemes_sign (by decide) (by decide), lexemes_blank (by decide) (by decide)]
  have binds : ['c', 'o', 'n', 's', 't'] ∈ bindingWords := by decide
  have read : '=' ∈ readSigns := by decide
  simp [boundNames?, binds, read, ends]

/-! ## Blocks -/

/-- The names that the support text binds. -/
def Support.bindings : List String :=
  ["__state", "TYPE_MAP", "__offset", "__createRuntime", "game", "__emitLog", "log", "warn", "error", "__teardown"]

set_option maxRecDepth 10000 in
theorem declares_support : Declares sources Support.text Support.bindings := by
  have state : Declares sources Support.state ["__state"] := shown_state.declares_own (by decide)
  have types : Declares sources Support.typeTable ["TYPE_MAP"] := shown_typeTable.declares_own (by decide)
  have functions : Declares sources Support.functions ["__offset", "__createRuntime", "game",
      "__emitLog", "log", "warn", "error", "__teardown"] := shown_functions.declares_own (by decide +kernel)
  exact declares_gaps (.cons state (.cons types (.cons functions .nil)))

namespace Script

/-- The names that a script binds outside all brackets, in their order. -/
def bindings (script : Script) : List String :=
  Support.bindings ++ ["manifest", "_supportedModules"] ++ script.constants.map Prod.fst ++ ["memoryAddresses"] ++
    ["__init", "__registerFunctions", "__installHooks", "__installLoops", "__installNops"] ++
    (if script.exit.isSome then ["__modExit"] else [])

theorem declares_constants {script : Script}
    (identifiers : ∀ constant ∈ script.constants, isIdentifier constant.1 = true) :
    Declares sources script.constantsBlock (script.constants.map Prod.fst) := by
  have lines : List.Forall₂ (Declares sources) (script.constants.map constantLine)
      (script.constants.map fun constant => [constant.1]) := by
    rw [List.forall₂_map_left_iff, List.forall₂_map_right_iff]
    exact List.forall₂_same.2 fun constant present => declares_constantLine (identifiers constant present)
  have names : (script.constants.map fun constant => [constant.1]).flatten = script.constants.map Prod.fst := by
    rw [← List.flatMap_def, ← List.map_eq_flatMap]
  exact names ▸ declares_joinLines lines

theorem declares_placed (script : Script) : Declares sources script.placedBlock [] := by
  have none : ∀ surface ∈ placedSurfaces, boundNames? false (lexemes surface.toList) = some [] := by decide
  refine declares_joinLines_nil fun line present => ?_
  obtain ⟨placed, -, inLines⟩ := List.mem_flatMap.1 present
  obtain ⟨surface, known, shown⟩ := shown_placedLine placed line inLines
  exact shown.declares (none surface known)

theorem Fits.declares_exit {script : Script} (fits : script.Fits sources) :
    Declares sources script.exitBlock (if script.exit.isSome then ["__modExit"] else []) := by
  cases declared : script.exit with
  | none =>
    rw [exitBlock, declared]
    exact declares_empty
  | some callback =>
    rw [Option.isSome_some, if_pos rfl]
    exact (fits.shown_exitBlock declared).declares_own (by decide)

theorem Fits.declares_receivers {script : Script} (fits : script.Fits sources) :
    Declares sources script.receiversBlock [] := by
  cases empty : script.receivers.isEmpty with
  | true =>
    rw [receiversBlock, empty]
    exact declares_empty
  | false => exact (fits.shown_receiversBlock empty).declares_own (by decide)

/-- What a script binds outside all brackets. -/
theorem Fits.declares_text {script : Script} (fits : script.Fits sources) :
    Declares sources script.text script.bindings := by
  have start : Shown sources "__init();" "__init();" := shown_own ⟨rfl, rfl⟩
  have blocks : List.Forall₂ (Declares sources) script.blocks [Support.bindings, ["manifest", "_supportedModules"],
      script.constants.map Prod.fst, ["memoryAddresses"], [], ["__init"], ["__registerFunctions"], ["__installHooks"],
      ["__installLoops"], ["__installNops"], if script.exit.isSome then ["__modExit"] else [], [], []] :=
    .cons declares_support <|
    .cons ((shown_manifest script).declares_own (by decide)) <|
    .cons (declares_constants fits.constants) <|
    .cons ((shown_addresses script).declares_own (by decide)) <|
    .cons (declares_placed script) <|
    .cons (fits.shown_startBlock.declares_own (by decide)) <|
    .cons ((shown_registrationsBlock script).declares_own (by decide)) <|
    .cons (fits.shown_hooksBlock.declares_own (by decide)) <|
    .cons (fits.shown_loopsBlock.declares_own (by decide)) <|
    .cons ((shown_nopsBlock script).declares_own (by decide)) <|
    .cons fits.declares_exit <|
    .cons fits.declares_receivers <|
    .cons (start.declares_own (by decide)) <|
    .nil
  have text : Declares sources ("\n\n".intercalate (filledBlocks script.blocks) ++ "\n" ++ "") _ :=
    (declares_filledBlocks blocks).beside declares_empty
  simpa [bindings, Script.text, filledBlocks] using text

end Script

end ModScript
