/-
  Transcripts/Text/LetterCase.lean
  ================================
  **Small and capital letters.**

  Lowering and raising work on whole texts, because a letter's other case may
  be several letters (`ß` is raised to `SS`, `İ` is lowered to `i` and a dot
  above) and because the capital sigma is lowered by its place: at the end of a
  word it becomes `ς`, elsewhere `σ`.
-/
import Transcripts.Text.CaseTable
import Transcripts.Text.CodeTree

namespace Transcripts.Text

def CaseRun.apply? (run : CaseRun) (n : Nat) : Option Nat :=
  if run.first ≤ n ∧ n ≤ run.last ∧ (n - run.first) % run.step = 0 then
    some (n + run.offset).toNat
  else none

/-- `loweringRuns`, laid out for search. -/
def loweringTree : CodeTree CaseRun := .ofAscending (loweringRuns.map fun r => (r.first, r))

/-- `raisingRuns`, laid out for search. -/
def raisingTree : CodeTree CaseRun := .ofAscending (raisingRuns.map fun r => (r.first, r))

/-- `raisingExpansions`, laid out for search. -/
def raisingExpansionTree : CodeTree (List Nat) := .ofAscending raisingExpansions

/-- `casedRanges`, laid out for search. -/
def casedTree : CodeTree Nat := .ofAscending casedRanges

/-- `caseTransparentRanges`, laid out for search. -/
def caseTransparentTree : CodeTree Nat := .ofAscending caseTransparentRanges

/-- The other case of a character by a table of runs; itself if it has none. -/
def mapByRuns (runs : CodeTree CaseRun) (c : Char) : Char :=
  match runs.floor? c.toNat with
  | some (_, run) => match run.apply? c.toNat with
    | some n => .ofNat n
    | none => c
  | none => c

/-! ### Lowering -/

def lowerChar (c : Char) : List Char :=
  if c = 'İ' then ['i', '\u0307'] else [mapByRuns loweringTree c]

/-- Whether the final sigma rule looks through a character. -/
def isCaseTransparent (c : Char) : Bool := caseTransparentTree.covers c.toNat

/-- Whether a character counts as a letter for the final sigma rule. -/
def isCased (c : Char) : Bool := casedTree.covers c.toNat

/-- Whether the next character that is not transparent is a letter. -/
def continuesWord (cs : List Char) : Bool :=
  match cs.dropWhile isCaseTransparent with
  | c :: _ => isCased c
  | [] => false

/-- Lower a text, given whether a letter comes before it. -/
def lowerAfter (afterLetter : Bool) : List Char → List Char
  | [] => []
  | c :: cs =>
    let small := if c = 'Σ' then [if afterLetter && !continuesWord cs then 'ς' else 'σ'] else lowerChar c
    small ++ lowerAfter (if isCaseTransparent c then afterLetter else isCased c) cs

def lower (cs : List Char) : List Char := lowerAfter false cs

/-- `lower` on stored text. -/
def lowered (s : String) : String := .ofList (lower s.toList)

/-! ### Raising -/

def raiseChar (c : Char) : List Char :=
  match raisingExpansionTree.lookup c.toNat with
  | some ns => ns.map Char.ofNat
  | none => [mapByRuns raisingTree c]

def raise (cs : List Char) : List Char := cs.flatMap raiseChar

/-- `raise` on stored text. -/
def raised (s : String) : String := .ofList (raise s.toList)

end Transcripts.Text
