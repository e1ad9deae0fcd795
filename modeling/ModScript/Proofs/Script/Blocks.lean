import Mathlib.Data.List.Infix
import ModScript.Proofs.Script.Surface

/-!
# Blocks of scripts

A script consists of blocks, each of which begins and ends outside all literals and brackets. A block
never starts the script: on its surface there is nothing but the script's own text, the brackets that
close at once, and data without round brackets.

Results:
1. `IsBlock.of_calm`, `IsBlock.of_shown`: the kinds of blocks.
2. `IsBlock.beside`: two blocks on lines of their own are one block.
3. `isBlock_gaps`: any number of blocks with empty lines between them.
4. `split_at_last_line`: where a word can stand in lines of text.
-/

namespace ModScript

/-- The statement that starts a script. -/
def startCall : List Char := ['_', '_', 'i', 'n', 'i', 't', '(', ')', ';']

/-- A text that begins and ends outside all literals and brackets and has no call on its surface that
would start a script. -/
structure IsBlock (sources : List String) (text : String) : Prop where
  passes : Passes sources .ground text .ground
  clear : ¬ startCall <:+: Lexer.ground.surface text.toList

variable {sources : List String}

/-! ## Calm texts -/

theorem calm_literal {chars : List Char} (plain : isPlain chars = true) :
    Calm (String.ofList chars).toList := String.toList_ofList ▸ calm_plain plain

theorem Calm.text {text text' : String} (calm : Calm text.toList) (calm' : Calm text'.toList) :
    Calm (text ++ text').toList := String.toList_append ▸ calm.append calm'

/-! ## Kinds of blocks -/

theorem IsBlock.of_calm {text : String} (calm : Calm text.toList) : IsBlock sources text where
  passes := calm.keeps []
  clear call := (calm []).2 (call.subset (by decide))

/-- A text whose surface has no such call. -/
theorem IsBlock.of_shown (balanced : ∀ text ∈ sources, Balanced text) {text : String} {surface : List Char}
    (shown : Shown sources text (String.ofList surface)) (clear : ¬ startCall <:+: surface) :
    IsBlock sources text where
  passes := shown.reads
  clear := by
    have outside := (Shows.run balanced shown).2
    rw [String.toList_ofList] at outside
    exact outside ▸ clear

/-! ## Blocks one after another -/

/-- A word without line breaks that stands on two lines stands on the first or on the second. -/
theorem split_at_break {word front back before after : List Char} (unbroken : '\n' ∉ word)
    (filled : word ≠ []) (split : front ++ '\n' :: back = before ++ word ++ after) :
    (∃ rest, front = before ++ word ++ rest ∧ after = rest ++ '\n' :: back) ∨
      ∃ rest, before = front ++ '\n' :: rest ∧ back = rest ++ word ++ after := by
  rcases List.append_eq_append_iff.1 split with ⟨rest, inBoth, behind⟩ | ⟨rest, inFront, behind⟩
  · rcases List.append_eq_append_iff.1 inBoth with ⟨more, inFront, inWord⟩ | ⟨more, inWord, inRest⟩
    · -- The word begins in the front.
      subst inFront inWord
      cases rest with
      | nil => exact .inl ⟨[], by simp, by simpa using behind.symm⟩
      | cons c rest =>
        obtain ⟨rfl, -⟩ := List.cons.inj behind
        exact absurd (List.mem_append_right _ List.mem_cons_self) unbroken
    · -- The word begins behind the front.
      subst inWord inRest
      cases more with
      | nil =>
        obtain ⟨c, tail, rfl⟩ := List.exists_cons_of_ne_nil filled
        obtain ⟨rfl, -⟩ := List.cons.inj behind
        exact absurd List.mem_cons_self unbroken
      | cons c more =>
        obtain ⟨rfl, inBack⟩ := List.cons.inj behind
        exact .inr ⟨more, rfl, inBack⟩
  · exact .inl ⟨rest, inFront, behind⟩

/-- Blocks with the same gap between any two of them. -/
theorem isBlock_intercalate {gap : String} {texts : List String}
    (beside : ∀ {text text' : String}, IsBlock sources text → IsBlock sources text' →
      IsBlock sources (text ++ gap ++ text'))
    (each : ∀ text ∈ texts, IsBlock sources text) : IsBlock sources (gap.intercalate texts) := by
  induction texts with
  | nil => exact .of_calm calm_nil
  | cons text rest ih =>
    obtain ⟨first, others⟩ := List.forall_mem_cons.1 each
    cases rest with
    | nil => simpa using first
    | cons other rest =>
      rw [String.intercalate_cons_cons]
      exact beside first (ih others)

/-- Nothing stands behind the last line break. -/
theorem split_at_last_break {word front before after : List Char} (unbroken : '\n' ∉ word)
    (filled : word ≠ []) (split : front ++ ['\n'] = before ++ word ++ after) :
    ∃ rest, front = before ++ word ++ rest ∧ after = rest ++ ['\n'] := by
  rcases split_at_break unbroken filled split with inFront | ⟨rest, -, behind⟩
  · exact inFront
  · simp [filled] at behind

/-- A word that is the whole last line, and is not in front of the empty line above, stands at the end. -/
theorem split_at_last_line {word front before after : List Char} (unbroken : '\n' ∉ word)
    (filled : word ≠ []) (clear : ¬ word <:+: front)
    (split : front ++ '\n' :: '\n' :: word = before ++ word ++ after) : after = [] := by
  have lines : (front ++ ['\n']) ++ '\n' :: word = before ++ word ++ after := by simpa using split
  rcases split_at_break unbroken filled lines with ⟨rest, inFront, -⟩ | ⟨rest, -, inLast⟩
  · obtain ⟨rest, inFront, -⟩ := split_at_last_break unbroken filled inFront
    exact absurd ⟨before, rest, inFront.symm⟩ clear
  · have lengths := congrArg List.length inLast
    simp only [List.length_append] at lengths
    exact List.length_eq_zero_iff.1 (by omega)

section

variable (balanced : ∀ text ∈ sources, Balanced text)
include balanced

/-- Two blocks on lines of their own. -/
theorem IsBlock.beside {text text' : String} (block : IsBlock sources text)
    (block' : IsBlock sources text') : IsBlock sources (text ++ "\n" ++ text') where
  passes := (block.passes.own rfl).append block'.passes
  clear := by
    have shown : (text ++ "\n" ++ text').toList = text.toList ++ '\n' :: text'.toList := by simp
    have passes : Lexer.ground.run text.toList = some .ground := Reads.run balanced block.passes
    have lineBreak : Lexer.ground.surface ('\n' :: text'.toList) =
        '\n' :: Lexer.ground.surface text'.toList := rfl
    rw [shown, Lexer.surface_append passes, lineBreak]
    rintro ⟨before, after, call⟩
    rcases split_at_break (by decide) (by decide) call.symm with
      ⟨rest, inFirst, -⟩ | ⟨rest, -, inSecond⟩
    · exact block.clear ⟨before, rest, inFirst.symm⟩
    · exact block'.clear ⟨rest, after, inSecond.symm⟩

theorem isBlock_joinLines {lines : List String} (each : ∀ line ∈ lines, IsBlock sources line) :
    IsBlock sources (joinLines lines) := isBlock_intercalate (IsBlock.beside balanced) each

/-- Blocks with an empty line between two of them. -/
theorem isBlock_gaps {texts : List String} (each : ∀ text ∈ texts, IsBlock sources text) :
    IsBlock sources ("\n\n".intercalate texts) := by
  refine isBlock_intercalate (fun block block' => ?_) each
  have none : IsBlock sources "" := .of_calm calm_nil
  simpa [String.append_assoc] using (block.beside balanced none).beside balanced block'

end

end ModScript
