import PrivateComputation.Shell.Symbol
import PrivateComputation.Workflow.Command

/-!
Texts in double quotes. What is quoted is read back as it was, and nothing in it is expanded.
-/

namespace PrivateComputation.Shell

def readOn (front : List Char) (found : Option (List Char × List Char)) :
    Option (List Char × List Char) :=
  found.map (fun (value, rest) => (front ++ value, rest))

/-- What the characters behind an opening double quote stand for, and what is left behind the closing
one. There is no answer if the quote is not closed or if an expansion starts before it is. -/
def readQuoted : List Char → Option (List Char × List Char)
  | [] => none
  | '"' :: rest => some ([], rest)
  | '\\' :: c :: rest =>
      if c = '\n' then readQuoted rest
      else if isProtected c then readOn [c] (readQuoted rest)
      else readOn ['\\', c] (readQuoted rest)
  | c :: rest => if c = '$' ∨ c = backquote then none else readOn [c] (readQuoted rest)

theorem isProtected_iff (c : Char) :
    isProtected c = true ↔ c = '"' ∨ c = '\\' ∨ c = '$' ∨ c = backquote := by
  simp [isProtected, or_assoc]

theorem escapeArgument_eq (c : Char) :
    escapeArgument c = if isProtected c then ['\\', c] else [c] := by
  have back : c.toNat = 96 ↔ c = backquote := by
    constructor
    · intro code
      rw [backquote, ← code, Char.ofNat_toNat]
    · rintro rfl
      decide
  simp [escapeArgument, isProtected, back, or_assoc]

theorem readQuoted_plain {c : Char} (usual : isProtected c = false) (rest : List Char) :
    readQuoted (c :: rest) = readOn [c] (readQuoted rest) := by
  have special : ¬(c = '"' ∨ c = '\\' ∨ c = '$' ∨ c = backquote) := by
    rw [← isProtected_iff, usual]
    simp
  simp only [not_or] at special
  obtain ⟨quotes, slash, dollar, back⟩ := special
  rw [readQuoted, if_neg (by simp [dollar, back])]
  · exact quotes
  · intro d after same
    exact absurd same slash

theorem readQuoted_escaped (c : Char) (rest : List Char) :
    readQuoted (escapeArgument c ++ rest) = readOn [c] (readQuoted rest) := by
  rw [escapeArgument_eq]
  cases special : isProtected c with
  | false => exact readQuoted_plain special rest
  | true =>
      have solid : c ≠ '\n' := by
        rintro rfl
        cases special
      simp [readQuoted, solid, special]

theorem readQuoted_quoted (text rest : List Char) :
    readQuoted (text.flatMap escapeArgument ++ '"' :: rest) = some (text, rest) := by
  induction text with
  | nil => rfl
  | cons c text ih =>
      rw [List.flatMap_cons, List.append_assoc, readQuoted_escaped, ih]
      rfl

theorem symbolsFrom_cons (reading : Reading) (c : Char) (rest : List Char) :
    symbolsFrom reading (c :: rest) =
      ((step reading c).1 ++ (symbolsFrom (step reading c).2 rest).1,
        (symbolsFrom (step reading c).2 rest).2) := rfl

theorem readOn_eq_some_iff {front value rest : List Char}
    {found : Option (List Char × List Char)} : readOn front found = some (value, rest) ↔
      ∃ later, found = some (later, rest) ∧ value = front ++ later := by
  simp only [readOn, Option.map_eq_some_iff, Prod.mk.injEq, Prod.exists]
  constructor
  · rintro ⟨later, _, came, rfl, rfl⟩
    exact ⟨later, came, rfl⟩
  · rintro ⟨later, came, rfl⟩
    exact ⟨later, rest, came, rfl, rfl⟩

/-- Where the rules of double quotes give a text its meaning, the reader of command texts finds the
same characters, none of which is special any more. -/
theorem symbolsFrom_double {text value rest : List Char}
    (read : readQuoted text = some (value, rest)) :
    symbolsFrom .double text =
      (value.map .literal ++ (symbolsFrom (.plain false) rest).1,
        (symbolsFrom (.plain false) rest).2) := by
  fun_induction readQuoted text generalizing value with
  | case1 => cases read
  | case2 behind =>
      cases read
      rfl
  | case3 behind ih => exact ih read
  | case4 c behind solid special ih =>
      obtain ⟨later, found, rfl⟩ := readOn_eq_some_iff.mp read
      simp [symbolsFrom_cons, step, stepDouble, solid, special, ih found]
  | case5 c behind solid usual ih =>
      obtain ⟨later, found, rfl⟩ := readOn_eq_some_iff.mp read
      simp [symbolsFrom_cons, step, stepDouble, solid, usual, ih found]
  | case6 => cases read
  | case7 c behind quotes slash usual ih =>
      obtain ⟨later, found, rfl⟩ := readOn_eq_some_iff.mp read
      simp only [not_or] at usual
      by_cases escapes : c = '\\'
      · subst escapes
        cases behind with
        | nil => cases found
        | cons d behind => exact (slash d behind rfl rfl).elim
      · simp [symbolsFrom_cons, step, stepDouble, usual, escapes, (show ¬c = '"' from quotes),
          ih found]

theorem quoteArgument_eq (text : List Char) :
    quoteArgument text = '"' :: (text.flatMap escapeArgument ++ ['"']) := rfl

theorem quoteArgument_injective : Function.Injective quoteArgument := by
  intro one other same
  rw [quoteArgument_eq, quoteArgument_eq] at same
  have read := congrArg readQuoted (List.cons.inj same).2
  rw [readQuoted_quoted one [], readQuoted_quoted other []] at read
  exact (Prod.mk.inj (Option.some.inj read)).1

theorem symbolsFrom_quoteArgument (wordStart : Bool) (text : List Char) :
    symbolsFrom (.plain wordStart) (quoteArgument text) =
      (.quote :: text.map .literal, none) := by
  have read := symbolsFrom_double (readQuoted_quoted text [])
  rw [quoteArgument_eq, symbolsFrom_cons]
  change (([Symbol.quote] ++ (symbolsFrom .double _).1, (symbolsFrom .double _).2) : _ × _) = _
  rw [read]
  simp [symbolsFrom, finish]

end PrivateComputation.Shell
