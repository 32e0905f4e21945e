import Switchboard.Text.Printable

/-!
# Quoted text

A quoted text stands between double quotes.  Quotes and backslashes are escaped,
and characters that would not be seen are shown by their codes, so that the text
takes up one line and ends at the first quote that no backslash precedes.
-/

namespace Switchboard.Text

/-- The digits of a character's code in base sixteen, without leading zeros. -/
private def hexCode (char : Char) : List Char :=
  Nat.toDigits 16 char.toNat

/-- The characters that stand for one character inside quotes. -/
def escape (char : Char) : List Char :=
  if char = '"' then ['\\', '"']
  else if char = '\\' then ['\\', '\\']
  else if char = '\n' then ['\\', 'n']
  else if char = '\r' then ['\\', 'r']
  else if char = '\t' then ['\\', 't']
  else if char.toNat = 0 then ['\\', '0']
  else if isHidden char then
    ['\\', 'u', '\x7b'] ++ hexCode char ++ ['\x7d']
  else [char]

/-- A text in double quotes. -/
def quoted (text : String) : String :=
  "\"" ++ String.ofList (text.toList.flatMap escape) ++ "\""

/-- A list of texts, each in quotes, between square brackets. -/
def quotedList (texts : List String) : String :=
  "[" ++ String.intercalate ", " (texts.map quoted) ++ "]"

/-! ## What is seen between quotes -/

/-- The digits of a number in base sixteen are seen. -/
private theorem isHidden_of_mem_toDigits {number : Nat} {digit : Char}
    (member : digit ∈ Nat.toDigits 16 number) : isHidden digit = false := by
  have digits : ∀ value < 16, isHidden (Nat.digitChar value) = false := by
    decide +kernel
  have core (fuel number : Nat) (behind : List Char)
      (seen : ∀ digit ∈ behind, isHidden digit = false) :
      ∀ digit ∈ Nat.toDigitsCore 16 fuel number behind,
        isHidden digit = false := by
    induction fuel generalizing number behind with
    | zero => exact seen
    | succ fuel inductionHypothesis =>
        have more : ∀ digit ∈ Nat.digitChar (number % 16) :: behind,
            isHidden digit = false :=
          List.forall_mem_cons.mpr
            ⟨digits _ (Nat.mod_lt number (by decide)), seen⟩
        simp only [Nat.toDigitsCore]
        split
        · exact more
        · exact inductionHypothesis _ _ more
  exact core _ _ _ (List.forall_mem_nil _) digit member

/-- Whatever stands for a character inside quotes is seen. -/
theorem isHidden_of_mem_escape {char shown : Char}
    (member : shown ∈ escape char) :
    isHidden shown = false := by
  have signs : ∀ sign ∈ ['"', '\\', 'n', 'r', 't', '0', 'u', '\x7b', '\x7d'],
      isHidden sign = false := by
    simp [isHidden]
  have plain (few : List Char)
      (among : few ⊆ ['"', '\\', 'n', 'r', 't', '0', 'u', '\x7b', '\x7d'])
      (member : shown ∈ few) : isHidden shown = false :=
    signs shown (among member)
  simp only [escape] at member
  split at member
  · exact plain _ (by decide) member
  split at member
  · exact plain _ (by decide) member
  split at member
  · exact plain _ (by decide) member
  split at member
  · exact plain _ (by decide) member
  split at member
  · exact plain _ (by decide) member
  split at member
  · exact plain _ (by decide) member
  split at member
  · rw [List.mem_append, List.mem_append] at member
    rcases member with (opens | digit) | closes
    · exact plain _ (by decide) opens
    · exact isHidden_of_mem_toDigits digit
    · exact plain _ (by decide) closes
  · rename_i seen
    rw [List.mem_singleton.mp member]
    exact Bool.eq_false_iff.mpr seen

/-- Nothing in a quoted text is hidden. -/
theorem isHidden_of_mem_quoted {text : String} {shown : Char}
    (member : shown ∈ (quoted text).toList) : isHidden shown = false := by
  have quote : isHidden '"' = false := by
    decide +kernel
  simp only [quoted, String.toList_append, String.toList_ofList,
    List.mem_append, List.mem_flatMap] at member
  rcases member with (opens | ⟨char, _, shown⟩) | closes
  · rw [List.mem_singleton.mp opens]
    exact quote
  · exact isHidden_of_mem_escape shown
  · rw [List.mem_singleton.mp closes]
    exact quote

/-- Quotes, backslashes and what ends a line are escaped. -/
example : quoted "a\t\"b\"\n" = "\"a\\t\\\"b\\\"\\n\"" := by
  decide +kernel

end Switchboard.Text
