import PrivateComputation.Proofs.Json.Number

/-!
A JSON value without fractions is read back from its text as it was written.
-/

namespace PrivateComputation

/-! ## Strings -/

theorem hexValue?_hexDigit {digit : Nat} (small : digit < 16) :
    hexValue? (hexDigit digit) = some digit := by
  have all : ∀ digit : Fin 16, hexValue? (hexDigit digit.val) = some digit.val := by decide
  exact all ⟨digit, small⟩

theorem Char.eq_ofNat_of_toNat {c : Char} {code : Nat} (same : c.toNat = code) :
    c = Char.ofNat code := by
  rw [← same, Char.ofNat_toNat]

theorem readPieces_escape (c : Char) (fuel : Nat) (rest : List Char) :
    readPieces (fuel + 1) (escapeJson c ++ rest) =
      (.plain c :: (readPieces fuel rest).1, (readPieces fuel rest).2) := by
  unfold escapeJson
  split
  next same => subst same; rfl
  split
  next same => subst same; rfl
  split
  next same => subst same; rfl
  split
  next same => subst same; rfl
  split
  next same => subst same; rfl
  split
  next same => rw [Char.eq_ofNat_of_toNat same]; rfl
  split
  next same => rw [Char.eq_ofNat_of_toNat same]; rfl
  split
  next control =>
    have high := hexValue?_hexDigit (show c.toNat / 16 < 16 by omega)
    have low := hexValue?_hexDigit (show c.toNat % 16 < 16 by omega)
    have zero : hexValue? '0' = some 0 := by decide
    have code : c.toNat / 16 * 16 + c.toNat % 16 = c.toNat := by omega
    have escape : readEscape
        ('u' :: '0' :: '0' :: hexDigit (c.toNat / 16) :: hexDigit (c.toNat % 16) :: rest) =
          .ok (.plain c, rest) := by
      have plain : StringPiece.ofCode c.toNat = .plain c := by
        unfold StringPiece.ofCode
        rw [if_neg (by simp; omega), if_neg (by simp; omega), Char.ofNat_toNat]
      simp [readEscape, readHexCode, zero, high, low, code, plain]
    simp [readPieces, escape]
  next quote backslash _ _ _ _ _ control => simp [readPieces, quote, backslash, control]

theorem length_escapeJson_pos (c : Char) : 1 ≤ (escapeJson c).length := by
  unfold escapeJson
  repeat' split
  all_goals simp

theorem readPieces_chars (chars : List Char) (fuel : Nat) (rest : List Char)
    (enough : (chars.flatMap escapeJson).length + 1 ≤ fuel) :
    readPieces fuel (chars.flatMap escapeJson ++ '"' :: rest) =
      (chars.map .plain, .ok rest) := by
  induction chars generalizing fuel with
  | nil =>
      obtain ⟨left, rfl⟩ : ∃ left, fuel = left + 1 := ⟨fuel - 1, by simp at enough; omega⟩
      rfl
  | cons c chars ih =>
      rw [List.flatMap_cons, List.length_append] at enough
      have some := length_escapeJson_pos c
      obtain ⟨left, rfl⟩ : ∃ left, fuel = left + 1 := ⟨fuel - 1, by omega⟩
      rw [List.flatMap_cons, List.append_assoc, readPieces_escape, ih left (by omega)]
      rfl

theorem joinPieces_plain (chars : List Char) :
    joinPieces (chars.map .plain) = some chars := by
  induction chars with
  | nil => rfl
  | cons c chars ih => simp [joinPieces, ih]

def literalBody (text : String) : List Char := text.toList.flatMap escapeJson ++ ['"']

theorem jsonString_eq (text : String) : jsonString text = '"' :: literalBody text := rfl

theorem readString_literalBody (text : String) (fuel : Nat) (rest : List Char)
    (enough : (literalBody text).length ≤ fuel) :
    readString fuel (literalBody text ++ rest) = .complete (some text) rest := by
  have pieces := readPieces_chars text.toList fuel rest
    (by simpa [literalBody] using enough)
  simp [readString, literalBody, pieces, joinPieces_plain]

/-! ## Values -/

/-- A value without fractions and with integers that are kept exactly. -/
inductive Json.Exact : Json → Prop where
  | null : Exact .null
  | bool (value : Bool) : Exact (.bool value)
  | string (value : String) : Exact (.string value)
  | integer {value : Int} (kept : ExactInteger value) : Exact (.number (.integer value))
  | array {items : List Json} (exacts : ∀ item ∈ items, Exact item) : Exact (.array items)
  | object {members : List (String × Json)} (exacts : ∀ member ∈ members, Exact member.2) :
      Exact (.object members)

theorem Json.exact_array_iff {items : List Json} :
    (Json.array items).Exact ↔ ∀ item ∈ items, item.Exact :=
  ⟨fun | .array exacts => exacts, .array⟩

theorem Json.exact_object_iff {members : List (String × Json)} :
    (Json.object members).Exact ↔ ∀ member ∈ members, member.2.Exact :=
  ⟨fun | .object exacts => exacts, .object⟩

def Json.ReadBack (json : Json) : Prop :=
  ∀ (depth fuel : Nat) (rest : List Char), (json.prettyChars depth).length ≤ fuel →
    EndsNumber rest → readTree fuel (json.prettyChars depth ++ rest) = (.ofJson json, some rest)

namespace Json

theorem skipJsonBlanks_newLine (depth : Nat) (text : List Char) :
    skipJsonBlanks (newLine depth ++ text) = skipJsonBlanks text := by
  have blank : isJsonBlank ' ' = true := by decide
  have newline : isJsonBlank '\n' = true := by decide
  simp only [skipJsonBlanks, newLine, List.cons_append, List.dropWhile_cons, newline, if_true]
  rw [List.dropWhile_append_of_pos]
  intro c member
  rw [List.eq_of_mem_replicate member]
  exact blank

theorem skipJsonBlanks_cons {c : Char} (solid : isJsonBlank c = false) (rest : List Char) :
    skipJsonBlanks (c :: rest) = c :: rest := by
  simp [skipJsonBlanks, solid]

theorem readTree_newLine (fuel depth : Nat) (text : List Char) :
    readTree fuel (newLine depth ++ text) = readTree fuel text := by
  cases fuel with
  | zero => rfl
  | succ fuel => rw [readTree, readTree, skipJsonBlanks_newLine]

theorem readTree_blank (fuel : Nat) (text : List Char) :
    readTree fuel (' ' :: text) = readTree fuel text := by
  have blank : isJsonBlank ' ' = true := by decide
  cases fuel with
  | zero => rfl
  | succ fuel =>
      rw [readTree, readTree, skipJsonBlanks, skipJsonBlanks, List.dropWhile_cons_of_pos blank]

theorem readItems_newLine (fuel depth : Nat) (text : List Char) :
    readItems fuel (newLine depth ++ text) = readItems fuel text := by
  cases fuel with
  | zero => rfl
  | succ fuel => rw [readItems, readItems, readTree_newLine]

theorem length_newLine_pos (depth : Nat) : 1 ≤ (newLine depth).length := by simp [newLine]

theorem endsNumber_newLine (depth : Nat) (rest : List Char) :
    EndsNumber (newLine depth ++ rest) :=
  endsNumber_cons (by decide)

theorem endsNumber_comma (rest : List Char) : EndsNumber (',' :: rest) :=
  endsNumber_cons (by decide)

theorem head_integer (value : Int) :
    ∃ c rest, (Number.integer value).toChars = c :: rest ∧ startsNumber c = true := by
  rw [toChars_integer]
  split
  · obtain ⟨c, digits, shape, digit⟩ := head_toDigits_isDigit value.toNat
    exact ⟨c, digits, shape, by simp [startsNumber, digit]⟩
  · exact ⟨_, _, rfl, rfl⟩

theorem ne_of_startsNumber {c mark : Char} (start : startsNumber c = true)
    (other : startsNumber mark = false) : c ≠ mark := by
  rintro rfl
  rw [start] at other
  cases other

theorem solid_of_startsNumber {c : Char} (start : startsNumber c = true) :
    isJsonBlank c = false := by
  have other := fun mark => @ne_of_startsNumber c mark start
  simp [isJsonBlank, other ' ' (by decide), other '\n' (by decide), other '\t' (by decide),
    other '\r' (by decide)]

theorem readBack_integer {value : Int} (kept : ExactInteger value) :
    ReadBack (.number (.integer value)) := by
  intro depth fuel rest enough ends
  have number := readNumber_toChars kept ends
  obtain ⟨c, digits, shape, start⟩ := head_integer value
  have other := fun mark => @ne_of_startsNumber c mark start
  rw [prettyChars, shape] at enough ⊢
  rw [shape, List.cons_append] at number
  obtain ⟨left, rfl⟩ : ∃ left, fuel = left + 1 := ⟨fuel - 1, by simp at enough; omega⟩
  rw [List.cons_append, readTree, skipJsonBlanks_cons (solid_of_startsNumber start)]
  simp [other 'n' (by decide), other 't' (by decide), other 'f' (by decide),
    other '"' (by decide), other '[' (by decide), other '{' (by decide), start, number,
    Tree.ofJson]

theorem readBack_null : ReadBack .null := by
  intro depth fuel rest enough ends
  obtain ⟨left, rfl⟩ : ∃ left, fuel = left + 1 := ⟨fuel - 1, by simp [prettyChars] at enough; omega⟩
  have shape : Json.null.prettyChars depth ++ rest = 'n' :: 'u' :: 'l' :: 'l' :: rest := rfl
  rw [shape, readTree, skipJsonBlanks_cons (by decide)]
  rfl

theorem readBack_bool (value : Bool) : ReadBack (.bool value) := by
  intro depth fuel rest enough ends
  cases value with
  | false =>
      obtain ⟨left, rfl⟩ : ∃ left, fuel = left + 1 :=
        ⟨fuel - 1, by simp [prettyChars] at enough; omega⟩
      have shape : (Json.bool false).prettyChars depth ++ rest =
        'f' :: 'a' :: 'l' :: 's' :: 'e' :: rest := rfl
      rw [shape, readTree, skipJsonBlanks_cons (by decide)]
      rfl
  | true =>
      obtain ⟨left, rfl⟩ : ∃ left, fuel = left + 1 :=
        ⟨fuel - 1, by simp [prettyChars] at enough; omega⟩
      have shape :
          (Json.bool true).prettyChars depth ++ rest = 't' :: 'r' :: 'u' :: 'e' :: rest := rfl
      rw [shape, readTree, skipJsonBlanks_cons (by decide)]
      rfl

theorem readBack_string (value : String) : ReadBack (.string value) := by
  intro depth fuel rest enough ends
  rw [prettyChars, jsonString_eq] at enough ⊢
  obtain ⟨left, rfl⟩ : ∃ left, fuel = left + 1 := ⟨fuel - 1, by simp at enough; omega⟩
  have literal := readString_literalBody value left rest (by simpa using enough)
  rw [List.cons_append, readTree, skipJsonBlanks_cons (by decide)]
  simp [literal, Tree.ofJson]

theorem readItems_pretty {item : Json} {items : List Json}
    (all : ∀ other ∈ item :: items, ReadBack other) (depth outer fuel : Nat) (rest : List Char)
    (enough : (item.prettyChars depth ++ prettyItems depth items).length < fuel) :
    readItems fuel (item.prettyChars depth ++
        (prettyItems depth items ++ (newLine outer ++ ']' :: rest))) =
      (Tree.ofItems (item :: items), .closed, some rest) := by
  induction items generalizing item fuel with
  | nil =>
      obtain ⟨left, rfl⟩ : ∃ left, fuel = left + 1 := ⟨fuel - 1, by omega⟩
      have here := all item List.mem_cons_self depth left (newLine outer ++ ']' :: rest)
        (by simp at enough; omega) (endsNumber_newLine _ _)
      rw [prettyItems, List.nil_append, readItems, here]
      simp [skipJsonBlanks_newLine, skipJsonBlanks_cons (show isJsonBlank ']' = false by decide),
        Tree.ofItems]
  | cons following items ih =>
      obtain ⟨left, rfl⟩ : ∃ left, fuel = left + 1 := ⟨fuel - 1, by omega⟩
      simp only [prettyItems, List.length_append, List.length_cons] at enough
      have lines := length_newLine_pos depth
      have here := all item List.mem_cons_self depth left
        (prettyItems depth (following :: items) ++ (newLine outer ++ ']' :: rest))
        (by omega) (endsNumber_comma _)
      have others := ih (fun other member => all other (List.mem_cons_of_mem _ member)) left
        (by rw [List.length_append]; omega)
      rw [readItems, here]
      have comma : prettyItems depth (following :: items) ++ (newLine outer ++ ']' :: rest) =
          ',' :: (newLine depth ++ (following.prettyChars depth ++
            (prettyItems depth items ++ (newLine outer ++ ']' :: rest)))) := by
        simp [prettyItems]
      have solid : isJsonBlank ',' = false := by decide
      rw [comma]
      simp [skipJsonBlanks_cons solid, readItems_newLine, others, Tree.ofItems]

theorem readMembers_pretty {name : String} {value : Json} {members : List (String × Json)}
    (all : ∀ member ∈ (name, value) :: members, ReadBack member.2)
    (depth outer fuel : Nat) (rest : List Char)
    (enough : (literalBody name ++ ':' :: ' ' ::
      (value.prettyChars depth ++ prettyMembers depth members)).length < fuel) :
    readMembers fuel (literalBody name ++ ':' :: ' ' :: (value.prettyChars depth ++
        (prettyMembers depth members ++ (newLine outer ++ '}' :: rest)))) =
      (Tree.ofMembers ((name, value) :: members), .closed, some rest) := by
  have colon : isJsonBlank ':' = false := by decide
  have comma : isJsonBlank ',' = false := by decide
  have quote : isJsonBlank '"' = false := by decide
  have brace : isJsonBlank '}' = false := by decide
  induction members generalizing name value fuel with
  | nil =>
      obtain ⟨left, rfl⟩ : ∃ left, fuel = left + 1 := ⟨fuel - 1, by omega⟩
      simp only [prettyMembers, List.length_append, List.length_cons, List.append_nil] at enough
      have literal := readString_literalBody name left
        (':' :: ' ' :: (value.prettyChars depth ++ (newLine outer ++ '}' :: rest))) (by omega)
      have here : readTree left (value.prettyChars depth ++ (newLine outer ++ '}' :: rest)) =
          (.ofJson value, some (newLine outer ++ '}' :: rest)) :=
        all (name, value) List.mem_cons_self depth left _ (by dsimp only; omega)
          (endsNumber_newLine _ _)
      rw [prettyMembers, List.nil_append, readMembers, literal]
      simp [skipJsonBlanks_cons colon, readTree_blank, here, skipJsonBlanks_newLine,
        skipJsonBlanks_cons brace, Tree.ofMembers]
  | cons following members ih =>
      obtain ⟨left, rfl⟩ : ∃ left, fuel = left + 1 := ⟨fuel - 1, by omega⟩
      obtain ⟨nextName, nextValue⟩ := following
      have lines := length_newLine_pos depth
      simp only [prettyMembers, jsonString_eq, List.length_append, List.length_cons] at enough
      have literal := readString_literalBody name left (':' :: ' ' :: (value.prettyChars depth ++
        (prettyMembers depth ((nextName, nextValue) :: members) ++
          (newLine outer ++ '}' :: rest)))) (by omega)
      have here : readTree left (value.prettyChars depth ++
            (prettyMembers depth ((nextName, nextValue) :: members) ++
              (newLine outer ++ '}' :: rest))) =
          (.ofJson value, some (prettyMembers depth ((nextName, nextValue) :: members) ++
            (newLine outer ++ '}' :: rest))) :=
        all (name, value) List.mem_cons_self depth left _ (by dsimp only; omega)
          (endsNumber_comma _)
      have others := ih (fun other member => all other (List.mem_cons_of_mem _ member)) left
        (by simp only [List.length_append, List.length_cons]; omega)
      have shape : prettyMembers depth ((nextName, nextValue) :: members) ++
            (newLine outer ++ '}' :: rest) =
          ',' :: (newLine depth ++ ('"' :: (literalBody nextName ++ ':' :: ' ' ::
            (nextValue.prettyChars depth ++
              (prettyMembers depth members ++ (newLine outer ++ '}' :: rest)))))) := by
        simp [prettyMembers, jsonString_eq]
      rw [readMembers, literal]
      rw [shape] at here ⊢
      simp [skipJsonBlanks_cons colon, readTree_blank, here, skipJsonBlanks_cons comma,
        skipJsonBlanks_newLine, skipJsonBlanks_cons quote, others, Tree.ofMembers]

theorem Exact.head {json : Json} (kept : json.Exact) (depth : Nat) :
    ∃ c rest, json.prettyChars depth = c :: rest ∧ isJsonBlank c = false ∧ c ≠ ']' := by
  cases kept with
  | null => exact ⟨_, _, rfl, by decide, by decide⟩
  | bool value => cases value <;> exact ⟨_, _, rfl, by decide, by decide⟩
  | string value => exact ⟨_, _, rfl, by decide, by decide⟩
  | integer _ =>
      obtain ⟨c, rest, shape, start⟩ := head_integer _
      exact ⟨c, rest, shape, solid_of_startsNumber start, ne_of_startsNumber start (by decide)⟩
  | @array items _ =>
      cases items with
      | nil => exact ⟨_, _, rfl, by decide, by decide⟩
      | cons item items => exact ⟨_, _, rfl, by decide, by decide⟩
  | @object members _ =>
      cases members with
      | nil => exact ⟨_, _, rfl, by decide, by decide⟩
      | cons member members => exact ⟨_, _, rfl, by decide, by decide⟩

theorem readBack_array {items : List Json} (exacts : ∀ item ∈ items, item.Exact)
    (all : ∀ item ∈ items, ReadBack item) : ReadBack (.array items) := by
  intro depth fuel rest enough ends
  have bracket : isJsonBlank '[' = false := by decide
  cases items with
  | nil =>
      have closing : isJsonBlank ']' = false := by decide
      obtain ⟨left, rfl⟩ : ∃ left, fuel = left + 1 :=
        ⟨fuel - 1, by simp [prettyChars] at enough; omega⟩
      rw [prettyChars, List.cons_append, readTree, skipJsonBlanks_cons bracket]
      simp [skipJsonBlanks_cons closing, Tree.ofJson, Tree.ofItems]
  | cons item items =>
      have shape : (Json.array (item :: items)).prettyChars depth ++ rest =
          '[' :: (newLine (depth + 1) ++ (item.prettyChars (depth + 1) ++
            (prettyItems (depth + 1) items ++ (newLine depth ++ ']' :: rest)))) := by
        simp [prettyChars]
      simp only [prettyChars, List.length_append, List.length_cons] at enough
      have lines := length_newLine_pos depth
      obtain ⟨left, rfl⟩ : ∃ left, fuel = left + 1 := ⟨fuel - 1, by omega⟩
      have read := readItems_pretty all (depth + 1) depth left rest
        (by rw [List.length_append]; omega)
      obtain ⟨c, tail, text, solid, open_⟩ := (exacts item List.mem_cons_self).head (depth + 1)
      rw [text, List.cons_append] at read
      rw [shape, text, readTree, skipJsonBlanks_cons bracket]
      simp [skipJsonBlanks_newLine, skipJsonBlanks_cons solid, open_, read, Tree.ofJson]

theorem readBack_object {members : List (String × Json)}
    (all : ∀ member ∈ members, ReadBack member.2) : ReadBack (.object members) := by
  intro depth fuel rest enough ends
  have bracket : isJsonBlank '{' = false := by decide
  have closing : isJsonBlank '}' = false := by decide
  have quote : isJsonBlank '"' = false := by decide
  cases members with
  | nil =>
      obtain ⟨left, rfl⟩ : ∃ left, fuel = left + 1 :=
        ⟨fuel - 1, by simp [prettyChars] at enough; omega⟩
      rw [prettyChars, List.cons_append, readTree, skipJsonBlanks_cons bracket]
      simp [skipJsonBlanks_cons closing, Tree.ofJson, Tree.ofMembers]
  | cons member members =>
      obtain ⟨name, value⟩ := member
      have shape : (Json.object ((name, value) :: members)).prettyChars depth ++ rest =
          '{' :: (newLine (depth + 1) ++ ('"' :: (literalBody name ++ ':' :: ' ' ::
            (value.prettyChars (depth + 1) ++
              (prettyMembers (depth + 1) members ++ (newLine depth ++ '}' :: rest)))))) := by
        simp [prettyChars, jsonString_eq]
      simp only [prettyChars, jsonString_eq, List.length_append, List.length_cons] at enough
      have lines := length_newLine_pos depth
      obtain ⟨left, rfl⟩ : ∃ left, fuel = left + 1 := ⟨fuel - 1, by omega⟩
      have read := readMembers_pretty all (depth + 1) depth left rest
        (by simp only [List.length_append, List.length_cons]; omega)
      rw [shape, readTree, skipJsonBlanks_cons bracket]
      simp [skipJsonBlanks_newLine, skipJsonBlanks_cons quote, read, Tree.ofJson]

theorem Exact.readBack {json : Json} (kept : json.Exact) : json.ReadBack := by
  induction kept with
  | null => exact readBack_null
  | bool value => exact readBack_bool value
  | string value => exact readBack_string value
  | integer kept => exact readBack_integer kept
  | array exacts all => exact readBack_array exacts all
  | object _ all => exact readBack_object all

end Json

/-- The text of a value is a document of that value and nothing else. -/
theorem Document.ofText_pretty {json : Json} (kept : json.Exact) :
    Document.ofText json.pretty = ⟨.ofJson json, false⟩ := by
  have read := kept.readBack 0 (2 * (json.prettyChars 0).length + 2) [] (by omega) endsNumber_nil
  rw [List.append_nil] at read
  simp [Document.ofText, Json.pretty, read, skipJsonBlanks]

end PrivateComputation
