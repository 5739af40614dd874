import PrivateComputation.Proofs.Json.Reading

/-!
The text of a value that is made of texts, arrays and objects determines the value, whatever stands
behind it, when it is written compactly; and so it does up to the order of members when it is written
canonically.
-/

namespace PrivateComputation

/-- Two values with texts that begin alike are the same, with the same text behind them. -/
def CancelsOn {α : Type} (text : α → List Char) (left right : α) : Prop :=
  ∀ rest others, text left ++ rest = text right ++ others → left = right ∧ rest = others

theorem cancels_literalBody (left right : String) : CancelsOn literalBody left right := by
  intro rest others same
  have readLeft := readString_literalBody left
    ((literalBody left).length + (literalBody right).length) rest (by omega)
  have readRight := readString_literalBody right
    ((literalBody left).length + (literalBody right).length) others (by omega)
  rw [same, readRight] at readLeft
  simpa [eq_comm] using readLeft

theorem cancels_jsonString (left right : String) : CancelsOn jsonString left right := by
  intro rest others same
  exact cancels_literalBody left right rest others (List.cons.inj same).2

/-! ## Lists in brackets -/

section Separated

variable {α : Type} (text : α → List Char)

def separated : List α → List Char
  | [] => []
  | item :: items => text item ++ items.flatMap (fun other => ',' :: text other)

variable {text} {items others : List α} {close : Char}

theorem cancels_behind_commas (comma : close ≠ ',')
    (cancels : ∀ item ∈ items, ∀ other ∈ others, CancelsOn text item other)
    (rest otherRest : List Char)
    (same : items.flatMap (fun item => ',' :: text item) ++ close :: rest =
      others.flatMap (fun other => ',' :: text other) ++ close :: otherRest) :
    items = others ∧ rest = otherRest := by
  induction items generalizing others with
  | nil =>
      cases others with
      | nil => exact ⟨rfl, (List.cons.inj same).2⟩
      | cons other others => exact absurd (List.cons.inj same).1 comma
  | cons item items ih =>
      cases others with
      | nil => exact absurd (List.cons.inj same).1.symm comma
      | cons other others =>
          simp only [List.flatMap_cons, List.cons_append, List.append_assoc, List.cons.injEq,
            true_and] at same
          obtain ⟨rfl, behind⟩ :=
            cancels item List.mem_cons_self other List.mem_cons_self _ _ same
          obtain ⟨rfl, final⟩ := ih (fun one listed another alsoListed =>
            cancels one (List.mem_cons_of_mem _ listed) another
              (List.mem_cons_of_mem _ alsoListed)) behind
          exact ⟨rfl, final⟩

theorem cancels_separated (comma : close ≠ ',')
    (opens : ∀ item, item ∈ items ∨ item ∈ others →
      ∃ first tail, text item = first :: tail ∧ first ≠ close)
    (cancels : ∀ item ∈ items, ∀ other ∈ others, CancelsOn text item other)
    (rest otherRest : List Char)
    (same : separated text items ++ close :: rest =
      separated text others ++ close :: otherRest) : items = others ∧ rest = otherRest := by
  cases items with
  | nil =>
      cases others with
      | nil => exact ⟨rfl, (List.cons.inj same).2⟩
      | cons other others =>
          obtain ⟨first, tail, begins, open_⟩ := opens other (.inr List.mem_cons_self)
          rw [separated, separated, begins] at same
          exact absurd (List.cons.inj same).1.symm open_
  | cons item items =>
      cases others with
      | nil =>
          obtain ⟨first, tail, begins, open_⟩ := opens item (.inl List.mem_cons_self)
          rw [separated, separated, begins] at same
          exact absurd (List.cons.inj same).1 open_
      | cons other others =>
          rw [separated, separated, List.append_assoc, List.append_assoc] at same
          obtain ⟨rfl, behind⟩ :=
            cancels item List.mem_cons_self other List.mem_cons_self _ _ same
          obtain ⟨rfl, final⟩ := cancels_behind_commas comma (fun one listed another alsoListed =>
            cancels one (List.mem_cons_of_mem _ listed) another
              (List.mem_cons_of_mem _ alsoListed)) rest otherRest behind
          exact ⟨rfl, final⟩

end Separated

namespace Json

def memberText (member : String × Json) : List Char :=
  jsonString member.1 ++ ':' :: member.2.compactChars

theorem compactItems_eq (items : List Json) : compactItems items = separated compactChars items := by
  induction items with
  | nil => rfl
  | cons item items ih =>
      cases items with
      | nil => simp [compactItems, separated]
      | cons other items => simp [compactItems, ih, separated]

theorem compactMembers_eq (members : List (String × Json)) :
    compactMembers members = separated memberText members := by
  induction members with
  | nil => rfl
  | cons member members ih =>
      cases members with
      | nil => simp [compactMembers, separated, memberText]
      | cons other members => simp [compactMembers, ih, separated, memberText]

theorem cancels_memberText {left right : String × Json}
    (values : CancelsOn compactChars left.2 right.2) : CancelsOn memberText left right := by
  intro rest others same
  simp only [memberText, List.append_assoc] at same
  obtain ⟨names, behind⟩ := cancels_jsonString left.1 right.1 _ _ same
  obtain ⟨bound, final⟩ := values rest others (List.cons.inj behind).2
  exact ⟨Prod.ext names bound, final⟩

/-! ## Values made of texts -/

inductive Textual : Json → Prop where
  | string (value : String) : Textual (.string value)
  | array {items : List Json} (all : ∀ item ∈ items, Textual item) : Textual (.array items)
  | object {members : List (String × Json)} (all : ∀ member ∈ members, Textual member.2) :
      Textual (.object members)

namespace Textual

variable {json other : Json}

theorem opens (textual : json.Textual) :
    ∃ first tail, json.compactChars = first :: tail ∧ first ≠ ']' := by
  cases textual with
  | string | array | object => exact ⟨_, _, rfl, by decide⟩

theorem cancels (textual : json.Textual) (also : other.Textual) :
    CancelsOn compactChars json other := by
  induction textual generalizing other with
  | string value =>
      cases also with
      | string =>
          intro rest others same
          obtain ⟨rfl, final⟩ := cancels_jsonString _ _ rest others same
          exact ⟨rfl, final⟩
      | array | object =>
          intro rest others same
          exact absurd (List.cons.inj same).1 (by decide)
  | array all ih =>
      cases also with
      | array also =>
          intro rest others same
          simp only [compactChars, compactItems_eq, List.cons_append, List.append_assoc,
            List.cons.injEq, true_and, List.nil_append] at same
          obtain ⟨rfl, final⟩ := cancels_separated (by decide)
            (fun item listed => (listed.elim (all item) (also item)).opens)
            (fun item listed other alsoListed => ih item listed (also other alsoListed)) _ _ same
          exact ⟨rfl, final⟩
      | string | object =>
          intro rest others same
          exact absurd (List.cons.inj same).1 (by decide)
  | object all ih =>
      cases also with
      | object also =>
          intro rest others same
          simp only [compactChars, compactMembers_eq, List.cons_append, List.append_assoc,
            List.cons.injEq, true_and, List.nil_append] at same
          obtain ⟨rfl, final⟩ := cancels_separated (by decide)
            (fun member _ => ⟨_, _, rfl, by decide⟩)
            (fun member listed other alsoListed =>
              cancels_memberText (ih member listed (also other alsoListed))) _ _ same
          exact ⟨rfl, final⟩
      | string | array =>
          intro rest others same
          exact absurd (List.cons.inj same).1 (by decide)

end Textual

/-! ## The order of members -/

theorem sortItems_eq (items : List Json) : sortItems items = items.map sortMembers := by
  induction items with
  | nil => rfl
  | cons item items ih => rw [sortItems, ih, List.map_cons]

theorem lookup_sortEntries (members : List (String × Json)) (name : String) :
    (sortEntries members).lookup name = (members.lookup name).map sortMembers := by
  induction members with
  | nil => rfl
  | cons member members ih =>
      obtain ⟨key, value⟩ := member
      rw [sortEntries, lookup_insertEntry, lookup_entry, ih]
      split <;> rfl

theorem get?_sortMembers (json : Json) (name : String) :
    json.sortMembers.get? name = (json.get? name).map sortMembers := by
  cases json with
  | object members => exact lookup_sortEntries members name
  | null | bool | number | string | array => rfl

theorem mem_sortEntries {members : List (String × Json)} {member : String × Json}
    (listed : member ∈ sortEntries members) :
    ∃ value, (member.1, value) ∈ members ∧ member.2 = value.sortMembers := by
  induction members with
  | nil => cases listed
  | cons first members ih =>
      rcases mem_insertEntry listed with rfl | later
      · exact ⟨first.2, List.mem_cons_self, rfl⟩
      · obtain ⟨value, there, sorted⟩ := ih later
        exact ⟨value, List.mem_cons_of_mem _ there, sorted⟩

theorem Textual.sortMembers {json : Json} (textual : json.Textual) : json.sortMembers.Textual := by
  induction textual with
  | string value => exact .string value
  | array all ih =>
      rw [Json.sortMembers, sortItems_eq]
      refine .array (fun item listed => ?_)
      obtain ⟨original, there, rfl⟩ := List.mem_map.mp listed
      exact ih original there
  | object all ih =>
      refine .object (fun member listed => ?_)
      obtain ⟨value, there, sorted⟩ := mem_sortEntries listed
      rw [sorted]
      exact ih (member.1, value) there

/-- Values made of texts are written alike in canonical form only if they are the same but for the
order of members. -/
theorem Textual.canonical_inj {json other : Json} (textual : json.Textual) (also : other.Textual) :
    json.canonical = other.canonical ↔ json.sortMembers = other.sortMembers := by
  constructor
  · intro same
    have chars := String.ofList_injective same
    exact (textual.sortMembers.cancels also.sortMembers [] [] (by simpa using chars)).1
  · intro same
    rw [canonical, same, canonical]

end Json

end PrivateComputation
