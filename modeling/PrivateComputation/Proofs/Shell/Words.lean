import Mathlib.Data.List.Forall2
import PrivateComputation.Proofs.Shell.Quoting
import PrivateComputation.Shell.Token

/-!
Reading a command text piece by piece. A blank between two pieces keeps them apart if the first one
is complete by itself, and a piece of ordinary characters is one word, which stands for itself.
-/

namespace PrivateComputation.Shell

/-! ## Characters -/

namespace Reading

def after (reading : Reading) (text : List Char) : Reading :=
  text.foldl (fun reading c => (step reading c).2) reading

def emitted : Reading → List Char → List Symbol
  | _, [] => []
  | reading, c :: rest => (step reading c).1 ++ emitted (step reading c).2 rest

inductive Rests : Reading → Prop
  | plain (wordStart : Bool) : Rests (.plain wordStart)
  | dollar : Rests (.dollar false)
  | name (collected : List Char) : Rests (.name false collected)

theorem Rests.step_blank {reading : Reading} (rests : reading.Rests) :
    step reading ' ' = ((finish reading).1 ++ [.plain ' '], .plain true) ∧
      (finish reading).2 = none := by
  cases rests <;> exact ⟨rfl, rfl⟩

end Reading

theorem symbolsFrom_append (reading : Reading) (front back : List Char) :
    symbolsFrom reading (front ++ back) =
      (reading.emitted front ++ (symbolsFrom (reading.after front) back).1,
        (symbolsFrom (reading.after front) back).2) := by
  induction front generalizing reading with
  | nil => rfl
  | cons c front ih =>
      rw [List.cons_append, symbolsFrom_cons, ih, Reading.emitted, List.append_assoc]
      rfl

theorem symbolsFrom_eq (reading : Reading) (text : List Char) :
    symbolsFrom reading text =
      (reading.emitted text ++ (finish (reading.after text)).1,
        (finish (reading.after text)).2) := by
  have whole := symbolsFrom_append reading text []
  rwa [List.append_nil] at whole

/-- All quotes of a text are closed, nothing in it is cut short, and it does not end in a comment. -/
def Stands (text : List Char) : Prop := (Reading.after (.plain true) text).Rests

theorem Stands.fault {text : List Char} (stands : Stands text) : (symbols text).2 = none := by
  rw [symbols, symbolsFrom_eq]
  exact (Reading.Rests.step_blank stands).2

theorem Stands.symbols_append {front : List Char} (stands : Stands front) (back : List Char) :
    symbols (front ++ ' ' :: back) =
      ((symbols front).1 ++ .plain ' ' :: (symbols back).1, (symbols back).2) := by
  rw [symbols, symbolsFrom_append, symbolsFrom_cons, (Reading.Rests.step_blank stands).1, symbols,
    symbolsFrom_eq _ front]
  simp [symbols]

/-! ## Symbols -/

theorem endWord_append (word : List Symbol) (front back : List Token) :
    endWord word (front ++ back) = endWord word front ++ back := by
  unfold endWord
  split <;> rfl

theorem redirectAfter_append (word : List Symbol) (kind : RedirectionKind) (default : Nat)
    (front back : List Token) :
    redirectAfter word kind default (front ++ back) =
      redirectAfter word kind default front ++ back := by
  unfold redirectAfter
  split
  · split
    · rfl
    · rw [← List.cons_append, endWord_append]
  · rw [← List.cons_append, endWord_append]

theorem tokensFrom_blank (word rest : List Symbol) :
    tokensFrom word (.plain ' ' :: rest) = endWord word (tokensFrom [] rest) := by
  rfl

theorem startsWith_append_blank {rest back : List Symbol} {d : Char} {excluded : Prop}
    (different : d ≠ ' ') (starts : ∀ after, rest = .plain d :: after → excluded) :
    ∀ after, rest ++ .plain ' ' :: back = .plain d :: after → excluded := by
  intro after same
  cases rest with
  | nil => exact absurd (Symbol.plain.inj (List.cons.inj same).1).symm different
  | cons symbol rest =>
      obtain ⟨rfl, -⟩ := List.cons.inj same
      exact starts rest rfl

theorem tokensFrom_append_blank (word front back : List Symbol) :
    tokensFrom word (front ++ .plain ' ' :: back) = tokensFrom word front ++ tokensFrom [] back := by
  -- No operator of two characters reaches over the blank.
  fun_induction tokensFrom word front with
  | case1 word =>
      rw [List.nil_append, tokensFrom_blank, ← endWord_append]
      rfl
  | case2 word rest ih | case3 word rest ih | case4 word rest ih =>
      simp only [List.cons_append, tokensFrom]
      rw [ih, ← List.cons_append, endWord_append]
  | case5 word rest ih | case6 word rest ih | case7 word rest ih | case8 word rest ih =>
      simp only [List.cons_append, tokensFrom]
      rw [ih, redirectAfter_append]
  | case9 word rest doubled both either ih =>
      rw [List.cons_append, tokensFrom, ih, redirectAfter_append]
      · exact startsWith_append_blank (by decide) doubled
      · exact startsWith_append_blank (by decide) both
      · exact startsWith_append_blank (by decide) either
  | case10 word rest both ih =>
      rw [List.cons_append, tokensFrom, ih, redirectAfter_append]
      exact startsWith_append_blank (by decide) both
  | case11 word c rest _ _ _ _ _ _ _ _ _ blank ih =>
      rw [List.cons_append, tokensFrom, if_pos blank, ih, endWord_append]
      any_goals exact startsWith_append_blank (by decide) (by assumption)
      all_goals assumption
  | case12 word c rest _ _ _ _ _ _ _ _ _ solid operator found ih =>
      rw [List.cons_append, tokensFrom, if_neg solid, found, ih]
      · exact endWord_append word (.operator operator :: tokensFrom [] rest) _
      any_goals exact startsWith_append_blank (by decide) (by assumption)
      all_goals assumption
  | case13 word c rest _ _ _ _ _ _ _ _ _ solid found ih =>
      rw [List.cons_append, tokensFrom, if_neg solid, found, ih]
      any_goals exact startsWith_append_blank (by decide) (by assumption)
      all_goals assumption
  | case14 word symbol rest _ _ _ _ _ _ _ _ _ special ih =>
      cases symbol with
      | plain c => exact (special c rfl).elim
      | _ => exact ih

theorem tokens_append_blank {front : List Char} (stands : Stands front) (back : List Char) :
    tokens (front ++ ' ' :: back) = tokens front ++ tokens back := by
  simp only [tokens, stands.symbols_append, stands.fault]
  rw [tokensFrom_append_blank]
  simp

theorem tokens_pieces {front : List Char} (stands : Stands front) {pieces : List (List Char)}
    (each : ∀ piece ∈ pieces, Stands piece) (last : List Char) :
    tokens (front ++ pieces.flatMap (' ' :: ·) ++ ' ' :: last) =
      tokens front ++ pieces.flatMap tokens ++ tokens last := by
  induction pieces generalizing front with
  | nil => simp [tokens_append_blank stands]
  | cons piece pieces ih =>
      obtain ⟨first, others⟩ := List.forall_mem_cons.mp each
      have later := ih first others
      simp only [List.flatMap_cons, List.cons_append, List.append_assoc] at later ⊢
      rw [tokens_append_blank stands, later]

/-! ## Single words -/

theorem endsWord_eq_false_iff (c : Char) : endsWord c = false ↔
    isBlankChar c = false ∧ c ≠ '\n' ∧ c ≠ ';' ∧ c ≠ '&' ∧ c ≠ '|' ∧ c ≠ '(' ∧ c ≠ ')' ∧
      c ≠ '<' ∧ c ≠ '>' := by
  simp [endsWord]

theorem operatorOf?_of_endsWord {c : Char} (inside : endsWord c = false) : operatorOf? c = none := by
  obtain ⟨-, line, semicolon, ampersand, bar, opening, closing, -, -⟩ :=
    (endsWord_eq_false_iff c).mp inside
  simp [operatorOf?]

theorem tokensFrom_plain {c : Char} (inside : endsWord c = false) (word rest : List Symbol) :
    tokensFrom word (.plain c :: rest) = tokensFrom (.plain c :: word) rest := by
  obtain ⟨solid, -, semicolon, ampersand, bar, -, -, less, greater⟩ :=
    (endsWord_eq_false_iff c).mp inside
  rw [tokensFrom, if_neg (by simp [solid]), operatorOf?_of_endsWord inside]
  all_goals simp [semicolon, ampersand, bar, less, greater]

def Symbol.StaysInWord : Symbol → Prop
  | .plain c => endsWord c = false
  | _ => True

theorem tokensFrom_word {front : List Symbol} (stay : ∀ symbol ∈ front, symbol.StaysInWord)
    (word rest : List Symbol) :
    tokensFrom word (front ++ rest) = tokensFrom (front.reverse ++ word) rest := by
  induction front generalizing word with
  | nil => rfl
  | cons symbol front ih =>
      obtain ⟨first, others⟩ := List.forall_mem_cons.mp stay
      rw [List.reverse_cons, List.append_assoc, List.singleton_append, ← ih others]
      cases symbol with
      | plain c => exact tokensFrom_plain first word _
      | _ => rfl

theorem tokens_of_word {text : List Char} {word : Word} (read : symbols text = (word, none))
    (solid : word ≠ []) (stay : ∀ symbol ∈ word, symbol.StaysInWord) :
    tokens text = [.word word] := by
  have whole := tokensFrom_word stay [] []
  rw [List.append_nil, List.append_nil] at whole
  simp [tokens, read, whole, tokensFrom, endWord, solid]

/-- What the rules for command texts ask to quote, always or in some places. -/
def specialCharacters : List Char := backquote :: singleQuote :: "|&;<>()$\\\" \t\n*?[#~".toList

/-- A character that stands for itself wherever it stands in a word. -/
def IsOrdinary (c : Char) : Prop := c ∉ specialCharacters

instance (c : Char) : Decidable (IsOrdinary c) := inferInstanceAs (Decidable (c ∉ _))

theorem IsOrdinary.ne {c : Char} (ordinary : IsOrdinary c) :
    ∀ special ∈ specialCharacters, c ≠ special := by
  rintro special listed rfl
  exact ordinary listed

theorem IsOrdinary.endsWord {c : Char} (ordinary : IsOrdinary c) : endsWord c = false := by
  have different := ordinary.ne
  simp [specialCharacters] at different
  simp [endsWord_eq_false_iff, isBlankChar, different]

theorem IsOrdinary.step {c : Char} (ordinary : IsOrdinary c) (wordStart : Bool) :
    step (.plain wordStart) c = ([.plain c], .plain false) := by
  have different := ordinary.ne
  simp [specialCharacters] at different
  simp [Shell.step, stepPlain, different, ordinary.endsWord]

section Ordinary

variable {text : List Char} (ordinary : ∀ c ∈ text, IsOrdinary c)

include ordinary

theorem emitted_of_ordinary (wordStart : Bool) :
    Reading.emitted (.plain wordStart) text = text.map .plain := by
  induction text generalizing wordStart with
  | nil => rfl
  | cons c text ih =>
      obtain ⟨first, others⟩ := List.forall_mem_cons.mp ordinary
      rw [Reading.emitted, first.step, ih others]
      rfl

theorem after_of_ordinary (wordStart : Bool) :
    ∃ start, Reading.after (.plain wordStart) text = .plain start := by
  induction text generalizing wordStart with
  | nil => exact ⟨wordStart, rfl⟩
  | cons c text ih =>
      obtain ⟨first, others⟩ := List.forall_mem_cons.mp ordinary
      rw [Reading.after, List.foldl_cons, first.step]
      exact ih others false

theorem stands_of_ordinary : Stands text := by
  obtain ⟨start, ends⟩ := after_of_ordinary ordinary true
  rw [Stands, ends]
  exact .plain start

theorem staysInWord_of_ordinary : ∀ symbol ∈ text.map Symbol.plain, symbol.StaysInWord := by
  intro symbol member
  obtain ⟨c, there, rfl⟩ := List.mem_map.mp member
  exact (ordinary c there).endsWord

theorem tokens_of_ordinary (solid : text ≠ []) : tokens text = [.word (text.map .plain)] := by
  obtain ⟨start, ends⟩ := after_of_ordinary ordinary true
  apply tokens_of_word
  · rw [symbols, symbolsFrom_eq, emitted_of_ordinary ordinary, ends]
    simp [finish]
  · simpa using solid
  · exact staysInWord_of_ordinary ordinary

theorem tokens_named_quoted (value : List Char) : tokens (text ++ quoteArgument value) =
    [.word (text.map .plain ++ .quote :: value.map .literal)] := by
  obtain ⟨start, ends⟩ := after_of_ordinary ordinary true
  apply tokens_of_word
  · rw [symbols, symbolsFrom_append, emitted_of_ordinary ordinary, ends, symbolsFrom_quoteArgument]
  · simp
  · intro symbol member
    rcases List.mem_append.mp member with named | quoted
    · exact staysInWord_of_ordinary ordinary symbol named
    · rcases List.mem_cons.mp quoted with rfl | given
      · trivial
      · obtain ⟨c, -, rfl⟩ := List.mem_map.mp given
        trivial

end Ordinary

theorem endWord_starts {c : Char} {word : List Symbol} (first : word.getLast? = some (.plain c))
    (tokens : List Token) :
    ∃ others tail, endWord word tokens = .word (.plain c :: others) :: tail := by
  obtain ⟨others, rfl⟩ := List.getLast?_eq_some_iff.mp first
  refine ⟨others.reverse, tokens, ?_⟩
  simp [endWord]

theorem redirectAfter_starts {c : Char} (named : c.isDigit = false) {word : List Symbol}
    (first : word.getLast? = some (.plain c)) (kind : RedirectionKind) (default : Nat)
    (tokens : List Token) :
    ∃ others tail, redirectAfter word kind default tokens = .word (.plain c :: others) :: tail := by
  unfold redirectAfter
  split
  · next digit =>
      cases first
      rw [if_neg (by simp [named])]
      exact endWord_starts rfl _
  · exact endWord_starts first _

theorem tokensFrom_starts {c : Char} (named : c.isDigit = false) {word : List Symbol}
    (first : word.getLast? = some (.plain c)) (rest : List Symbol) :
    ∃ others tail, tokensFrom word rest = .word (.plain c :: others) :: tail := by
  fun_induction tokensFrom word rest with
  | case1 | case2 | case3 | case4 | case11 | case12 => exact endWord_starts first _
  | case5 | case6 | case7 | case8 | case9 | case10 => exact redirectAfter_starts named first _ _ _
  | case13 word d rest _ _ _ _ _ _ _ _ _ _ _ ih | case14 word d rest _ _ _ _ _ _ _ _ _ _ ih =>
      apply ih
      rw [List.getLast?_cons, first]
      rfl

theorem tokens_starts {c : Char} (ordinary : IsOrdinary c) (named : c.isDigit = false)
    (text : List Char) : ∃ others tail, tokens (c :: text) = .word (.plain c :: others) :: tail := by
  have first : [Symbol.plain c].getLast? = some (.plain c) := rfl
  obtain ⟨others, tail, starts⟩ :=
    tokensFrom_starts named first (symbolsFrom (.plain false) text).1
  refine ⟨others, tail ++ ((symbolsFrom (.plain false) text).2.map Token.fault).toList, ?_⟩
  have read : symbols (c :: text) =
      (.plain c :: (symbolsFrom (.plain false) text).1, (symbolsFrom (.plain false) text).2) := by
    rw [symbols, symbolsFrom_cons, ordinary.step]
    rfl
  simp only [tokens, read]
  rw [tokensFrom_plain ordinary.endsWord, starts]
  rfl

/-! ## What words stand for -/

/-- The characters of a symbol without its quotes; a parameter or a command has none of its own.
Patterns and tildes are not expanded here. -/
def Symbol.text? : Symbol → Option (List Char)
  | .plain c => some [c]
  | .literal c => some [c]
  | .quote => some []
  | .parameter _ _ => none
  | .command _ _ => none

def Word.text? : Word → Option (List Char)
  | [] => some []
  | symbol :: word => do
      let front ← symbol.text?
      let back ← Word.text? word
      some (front ++ back)

theorem Word.text?_append {front back : Word} {text rest : List Char}
    (frontText : Word.text? front = some text) (backText : Word.text? back = some rest) :
    Word.text? (front ++ back) = some (text ++ rest) := by
  induction front generalizing text with
  | nil =>
      cases frontText
      exact backText
  | cons symbol front ih =>
      obtain ⟨first, symbolText, found⟩ := Option.bind_eq_some_iff.mp frontText
      obtain ⟨others, othersText, same⟩ := Option.bind_eq_some_iff.mp found
      cases same
      rw [List.cons_append, Word.text?, symbolText, ih othersText, List.append_assoc]
      rfl

theorem Word.head?_of_text? {c : Char} {others : Word} {text : List Char}
    (read : Word.text? (.plain c :: others) = some text) : text.head? = some c := by
  obtain ⟨back, -, same⟩ := Option.bind_eq_some_iff.mp read
  cases same
  rfl

theorem Word.text?_map (wrap : Char → Symbol) (single : ∀ c, (wrap c).text? = some [c])
    (text : List Char) : Word.text? (text.map wrap) = some text := by
  induction text with
  | nil => rfl
  | cons c text ih =>
      rw [List.map_cons, Word.text?, single, ih]
      rfl

theorem Word.text?_plain (text : List Char) : Word.text? (text.map .plain) = some text :=
  Word.text?_map .plain (fun _ => rfl) text

theorem Word.text?_quoted (name value : List Char) :
    Word.text? (name.map .plain ++ .quote :: value.map .literal) = some (name ++ value) := by
  apply Word.text?_append (Word.text?_plain name)
  rw [Word.text?, Word.text?_map .literal (fun _ => rfl) value]
  rfl

def Token.Spells (token : Token) (part : String) : Prop :=
  ∃ word : Word, token = .word word ∧ word.text? = some part.toList

/-- A text that is read as one word, in which no parameter or command is expanded and which stands
for that text. What becomes of unquoted `*`, `?`, `[` and `~` is left out, since it depends on the
files and the users that there are; none of them is an ordinary character. -/
def IsOneWord (part : String) : Prop := List.Forall₂ Token.Spells (tokens part.toList) [part]

/-- A text is read as the tokens of another one and then one word for each part, in which no
parameter or command is expanded and which stands for that part, apart from names of files and
users as before. -/
def SplitsAs (text front : List Char) (parts : List String) : Prop :=
  ∃ rest, tokens text = tokens front ++ rest ∧ List.Forall₂ Token.Spells rest parts

theorem spells_named_quoted {name : List Char} (ordinary : ∀ c ∈ name, IsOrdinary c)
    (value : List Char) : List.Forall₂ Token.Spells (tokens (name ++ quoteArgument value))
      [String.ofList (name ++ value)] := by
  rw [tokens_named_quoted ordinary]
  refine .cons ⟨_, rfl, ?_⟩ .nil
  rw [String.toList_ofList]
  exact Word.text?_quoted name value

theorem isOneWord_of_ordinary {part : String} (ordinary : ∀ c ∈ part.toList, IsOrdinary c)
    (solid : part ≠ "") : IsOneWord part := by
  rw [IsOneWord, tokens_of_ordinary ordinary (by rwa [Ne, String.toList_eq_nil_iff])]
  exact .cons ⟨_, rfl, Word.text?_plain _⟩ .nil

theorem spells_flatMap {parts : List String} (each : ∀ part ∈ parts, IsOneWord part) :
    List.Forall₂ Token.Spells ((parts.map String.toList).flatMap tokens) parts := by
  induction parts with
  | nil => exact .nil
  | cons part parts ih =>
      obtain ⟨first, others⟩ := List.forall_mem_cons.mp each
      exact List.rel_append first (ih others)

theorem spells_append_iff {front back : List Token} {parts others : List String}
    (rest : List.Forall₂ Token.Spells back others) :
    List.Forall₂ Token.Spells (front ++ back) (parts ++ others) ↔
      List.Forall₂ Token.Spells front parts := by
  constructor
  · intro whole
    have places : parts.length = front.length := by
      have all := whole.length_eq
      rw [List.length_append, List.length_append, rest.length_eq] at all
      omega
    have start := List.forall₂_take_append _ _ _ whole
    rwa [places, List.take_left] at start
  · intro start
    exact List.rel_append start rest

theorem splitsAs_iff {text front : List Char} {rest : List Token} {parts : List String}
    (read : tokens text = tokens front ++ rest) :
    SplitsAs text front parts ↔ List.Forall₂ Token.Spells rest parts := by
  constructor
  · rintro ⟨others, same, spelled⟩
    rwa [List.append_cancel_left (read.symm.trans same)]
  · intro spelled
    exact ⟨rest, read, spelled⟩

end PrivateComputation.Shell
