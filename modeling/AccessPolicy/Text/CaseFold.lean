import AccessPolicy.Text.CaseTable
import AccessPolicy.Text.CodeTable

namespace AccessPolicy.Text

structure FoldRun where
  source : Nat
  target : Nat
  count : Nat
  deriving DecidableEq, Repr

def FoldRun.ofWords : List (List Char) → List FoldRun
  | a :: b :: c :: r => ⟨ofHex a, ofHex b, ofHex c⟩ :: FoldRun.ofWords r
  | _ => []

def foldRuns : List FoldRun := FoldRun.ofWords (words CaseTable.runs)

def foldCode (n : Nat) : Nat :=
  match foldRuns.find? fun r => r.source ≤ n && n < r.source + r.count with
  | some r => r.target + (n - r.source)
  | none => n

def caseVariants (n : Nat) : List Nat :=
  let t := foldCode n
  t :: foldRuns.filterMap fun r =>
    if r.target ≤ t && t < r.target + r.count then some (r.source + (t - r.target)) else none

end AccessPolicy.Text
