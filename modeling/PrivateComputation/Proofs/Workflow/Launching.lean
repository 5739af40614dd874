import Mathlib.Data.Bool.AllAny
import PrivateComputation.Proofs.Json.Number
import PrivateComputation.Proofs.Shell.Words
import PrivateComputation.Proofs.Workflow.RoundTrip

/-!
What a shell makes of the commands that launch containers. The arguments come back as they were
given. The name and the version of a package are read as command text, so that they are words of
their own only if they are made of ordinary characters.
-/

namespace PrivateComputation

open Shell

namespace LaunchCommand

def front (command : LaunchCommand) : String :=
  command.runner ++ " " ++ command.packageName ++
    (command.version.map (" --version=" ++ ·)).getD "" ++
    (command.timeout.map (fun seconds => " --timeout=" ++ toString seconds)).getD ""

theorem toList_render (command : LaunchCommand) : command.render.toList =
    command.front.toList ++ " --exe_args=".toList ++ quoteArgument command.arguments.toList := by
  have whole : command.render =
      command.front ++ " --exe_args=" ++ String.ofList (quoteArgument command.arguments.toList) := rfl
  simp only [whole, String.toList_append, String.toList_ofList]

theorem render_ofState_injective (runner : String) (state : StateDefinition) :
    Function.Injective (fun arguments => (ofState runner state arguments).render) := by
  intro one other same
  have texts := congrArg String.toList same
  rw [toList_render, toList_render] at texts
  have quoted := List.append_cancel_left texts
  exact String.toList_inj.mp (quoteArgument_injective quoted)

end LaunchCommand

/-- The text of a launch command ends in its arguments in double quotes. By the rules of double quotes
they are read as they were given, with nothing expanded and up to the last character of the command,
and so they are by the shell that runs it. So one state has different commands for different
arguments. -/
theorem arguments_quoted_exactly :
    (∀ command : LaunchCommand, ∃ quoted : List Char,
      command.render.toList =
        command.front.toList ++ " --exe_args=".toList ++ '"' :: quoted ∧
      readQuoted quoted = some (command.arguments.toList, []) ∧
      symbolsFrom (.plain false) ('"' :: quoted) =
        (.quote :: command.arguments.toList.map .literal, none)) ∧
    ∀ (state : StateDefinition) (runner : String) (place other : Nat),
      (state.commands runner)[place]? = (state.commands runner)[other]? ↔
        state.arguments[place]? = state.arguments[other]? := by
  constructor
  · intro command
    refine ⟨command.arguments.toList.flatMap escapeArgument ++ ['"'], ?_, ?_, ?_⟩
    · exact command.toList_render
    · exact readQuoted_quoted _ []
    · exact symbolsFrom_quoteArgument false _
  · intro state runner place other
    have injective := LaunchCommand.render_ofState_injective runner state
    rw [StateDefinition.commands, List.getElem?_map, List.getElem?_map]
    exact (Option.map_injective injective).eq_iff

/-! ## Names and versions -/

namespace LaunchCommand

def versionText (command : LaunchCommand) : List String :=
  command.version.toList.map ("--version=" ++ ·)

def timeoutText (command : LaunchCommand) : List String :=
  command.timeout.toList.map (fun seconds => "--timeout=" ++ toString seconds)

/-- What a command gives as it is, without quotes. -/
def names (command : LaunchCommand) : List String := command.packageName :: command.versionText

/-- What the runner of a command is meant to be given. -/
def parts (command : LaunchCommand) : List String :=
  command.names ++ (command.timeoutText ++ ["--exe_args=" ++ command.arguments])

def quotedArguments (command : LaunchCommand) : List Char :=
  "--exe_args=".toList ++ quoteArgument command.arguments.toList

theorem toList_field {α : Type} {field text : α → String}
    (behind : ∀ value, (field value).toList = ' ' :: (text value).toList) (given : Option α) :
    ((given.map field).getD "").toList =
      ((given.toList.map text).map String.toList).flatMap (' ' :: ·) := by
  cases given with
  | none => rfl
  | some value => simp [behind]

def fields (command : LaunchCommand) : List (List Char) :=
  (command.names ++ command.timeoutText).map String.toList

theorem toList_front (command : LaunchCommand) :
    command.front.toList = command.runner.toList ++ command.fields.flatMap (' ' :: ·) := by
  have version : ((command.version.map (" --version=" ++ ·)).getD "").toList =
      (command.versionText.map String.toList).flatMap (' ' :: ·) :=
    toList_field (fun version => by simp [String.toList_append]) _
  have timeout : ((command.timeout.map (fun seconds => " --timeout=" ++ toString seconds)).getD
      "").toList = (command.timeoutText.map String.toList).flatMap (' ' :: ·) :=
    toList_field (fun seconds => by simp [String.toList_append]) _
  rw [front, String.toList_append, String.toList_append, version, timeout]
  simp [fields, names, String.toList_append]

theorem toList_render_fields (command : LaunchCommand) : command.render.toList =
    command.runner.toList ++ command.fields.flatMap (' ' :: ·) ++
      ' ' :: command.quotedArguments := by
  rw [toList_render, toList_front, List.append_assoc]
  rfl

theorem spells_quotedArguments (command : LaunchCommand) :
    List.Forall₂ Token.Spells (tokens command.quotedArguments)
      ["--exe_args=" ++ command.arguments] := by
  have ordinary : ∀ c ∈ "--exe_args=".toList, IsOrdinary c :=
    List.all_iff_forall_prop.mp (by decide)
  have spelled := spells_named_quoted ordinary command.arguments.toList
  rwa [← String.toList_append, String.ofList_toList] at spelled

theorem ordinary_digit {c : Char} (digit : c.isDigit = true) : IsOrdinary c := by
  intro special
  have none : ∀ d ∈ specialCharacters, d.isDigit = false :=
    List.all_iff_forall_prop.mp (by decide)
  rw [none c special] at digit
  cases digit

theorem ordinary_timeoutText (command : LaunchCommand) :
    ∀ text ∈ command.timeoutText, text ≠ "" ∧ ∀ c ∈ text.toList, IsOrdinary c := by
  intro text listed
  obtain ⟨seconds, -, rfl⟩ := List.mem_map.mp listed
  have digits : (toString seconds).toList = Nat.toDigits 10 seconds.toNat := Nat.toList_repr
  have named : ∀ c ∈ "--timeout=".toList, IsOrdinary c :=
    List.all_iff_forall_prop.mp (by decide)
  refine ⟨by simp, ?_⟩
  intro c member
  rw [String.toList_append, digits] at member
  rcases List.mem_append.mp member with front | digit
  · exact named c front
  · exact ordinary_digit (isDigit_toDigits _ c digit)

theorem tokens_render (command : LaunchCommand) (runner : Stands command.runner.toList)
    (names : ∀ name ∈ command.names, Stands name.toList) : ∃ rest,
    tokens command.render.toList = tokens command.runner.toList ++
      ((command.names.map String.toList).flatMap tokens ++ rest) ∧
    List.Forall₂ Token.Spells rest (command.timeoutText ++ ["--exe_args=" ++ command.arguments]) := by
  have plain := command.ordinary_timeoutText
  have each : ∀ field ∈ command.fields, Stands field := by
    intro field listed
    obtain ⟨given, origin, rfl⟩ := List.mem_map.mp listed
    rcases List.mem_append.mp origin with name | timeout
    · exact names given name
    · exact stands_of_ordinary (plain given timeout).2
  have timeouts := spells_flatMap
    (fun text listed => isOneWord_of_ordinary (plain text listed).2 (plain text listed).1)
  refine ⟨_, ?_, List.rel_append timeouts command.spells_quotedArguments⟩
  rw [toList_render_fields, tokens_pieces runner each, fields, List.map_append, List.flatMap_append]
  simp only [List.append_assoc]

/-- Whatever the version, its text begins a word, so that the name cannot be the second word of the
two. -/
theorem tokens_versionText (version : String) : ∃ others tail,
    tokens ("--version=" ++ version).toList = .word (.plain '-' :: others) :: tail := by
  rw [String.toList_append]
  exact tokens_starts (by decide) (by decide) _

theorem spells_names_iff (command : LaunchCommand) :
    List.Forall₂ Token.Spells ((command.names.map String.toList).flatMap tokens) command.names ↔
      ∀ name ∈ command.names, IsOneWord name := by
  refine ⟨?_, spells_flatMap⟩
  intro spelled
  cases given : command.version with
  | none =>
      simp only [names, versionText, given, Option.toList_none, List.map_nil, List.map_cons,
        List.flatMap_cons, List.flatMap_nil, List.append_nil] at spelled ⊢
      rwa [List.forall_mem_singleton]
  | some version =>
      simp only [names, versionText, given, Option.toList_some, List.map_nil, List.map_cons,
        List.flatMap_cons, List.flatMap_nil, List.append_nil] at spelled ⊢
      obtain ⟨others, tail, starts⟩ := tokens_versionText version
      cases read : tokens command.packageName.toList with
      | nil =>
          rw [read, starts, List.nil_append] at spelled
          obtain ⟨⟨word, same, text⟩, -⟩ := List.forall₂_cons.mp spelled
          cases same
          obtain ⟨rest, shape⟩ := List.head?_eq_some_iff.mp (Word.head?_of_text? text)
          have begins : ∃ others tail, tokens ('-' :: rest) = .word (.plain '-' :: others) :: tail :=
            tokens_starts (by decide) (by decide) rest
          rw [← shape, read] at begins
          obtain ⟨_, _, absurd⟩ := begins
          cases absurd
      | cons first more =>
          rw [read, List.cons_append] at spelled
          obtain ⟨name, others⟩ := List.forall₂_cons.mp spelled
          have alone : more = [] := by
            have places := others.length_eq
            rw [starts, List.length_append, List.length_cons, List.length_singleton] at places
            exact List.eq_nil_of_length_eq_zero (by omega)
          subst alone
          rw [List.forall_mem_cons, List.forall_mem_singleton]
          refine ⟨?_, others⟩
          rw [IsOneWord, read]
          exact .cons name .nil

theorem splitsAs_render_iff (command : LaunchCommand) (runner : Stands command.runner.toList)
    (complete : ∀ name ∈ command.names, Stands name.toList) :
    SplitsAs command.render.toList command.runner.toList command.parts ↔
      ∀ name ∈ command.names, IsOneWord name := by
  obtain ⟨rest, read, spelled⟩ := command.tokens_render runner complete
  rw [splitsAs_iff read, parts, spells_append_iff spelled]
  exact command.spells_names_iff

theorem splitsAs_render_of_ordinary (command : LaunchCommand)
    (runner : Stands command.runner.toList) (named : command.packageName ≠ "")
    (ordinary : ∀ name ∈ command.names, ∀ c ∈ name.toList, IsOrdinary c) :
    SplitsAs command.render.toList command.runner.toList command.parts := by
  rw [splitsAs_render_iff command runner]
  · intro name listed
    apply isOneWord_of_ordinary (ordinary name listed)
    rcases List.mem_cons.mp listed with rfl | version
    · exact named
    · obtain ⟨text, -, rfl⟩ := List.mem_map.mp version
      simp
  · intro name listed
    exact stands_of_ordinary (ordinary name listed)

end LaunchCommand

/-- The name and the version of a package are command text. Where both are complete by themselves, a
command gives its runner the parts that it is meant to, each as one word, if and only if each of the
two is read as one word that stands for itself, as far as that does not depend on the files and the
users that there are. With ordinary characters it never does, and each stands for itself. -/
theorem commands_split (runner : String) (stands : Stands runner.toList) (state : StateDefinition) :
    List.Forall₂ (fun arguments rendered =>
      let command := LaunchCommand.ofState runner state arguments
      ((∀ name ∈ command.names, Stands name.toList) →
        (SplitsAs rendered.toList runner.toList command.parts ↔
          ∀ name ∈ command.names, IsOneWord name)) ∧
      (state.packageName ≠ "" → (∀ name ∈ command.names, ∀ c ∈ name.toList, IsOrdinary c) →
        SplitsAs rendered.toList runner.toList command.parts))
      state.arguments (state.commands runner) := by
  rw [StateDefinition.commands, List.forall₂_map_right_iff, List.forall₂_same]
  intro arguments _
  exact ⟨(LaunchCommand.ofState runner state arguments).splitsAs_render_iff stands,
    (LaunchCommand.ofState runner state arguments).splitsAs_render_of_ordinary stands⟩

def StateDefinition.versioned : StateDefinition :=
  ⟨"Task", "small", "data/lift", ["$HOME \"left\"", "right"], some 30, none, true, some "2.0-rc", 0⟩

theorem commands_split_of_versioned :
    Stands "printf '[%s]\n'".toList ∧ ∃ first second,
      StateDefinition.versioned.commands "printf '[%s]\n'" = [first, second] ∧
      SplitsAs first.toList "printf '[%s]\n'".toList
        ["data/lift", "--version=2.0-rc", "--timeout=30", "--exe_args=$HOME \"left\""] := by
  have stands : Stands "printf '[%s]\n'".toList := .plain false
  refine ⟨stands, _, _, rfl, ?_⟩
  obtain ⟨⟨-, splits⟩, -⟩ :=
    List.forall₂_cons.mp (commands_split "printf '[%s]\n'" stands .versioned)
  have name : ∀ c ∈ "data/lift".toList, IsOrdinary c := List.all_iff_forall_prop.mp (by decide)
  have version : ∀ c ∈ "--version=2.0-rc".toList, IsOrdinary c :=
    List.all_iff_forall_prop.mp (by decide)
  exact splits (by decide) (List.forall_mem_cons.mpr ⟨name, List.forall_mem_singleton.mpr version⟩)

def Workflow.injecting : Workflow :=
  ⟨"lift", SortedMap.empty.insert "lift"
    ⟨"Task", "small", "lift; echo owned", ["left"], none, none, true, none, 0⟩, none⟩

/-- A definition is accepted although the name of a package ends the command and begins another
one. -/
theorem package_name_adds_command :
    Workflow.ofText Workflow.injecting.toText = .ok .injecting ∧
      ∃ state command rendered, Workflow.injecting.state? "lift" = some state ∧
        command = LaunchCommand.ofState "runner" state "left" ∧
        state.commands "runner" = [rendered] ∧
        .operator .semicolon ∈ tokens rendered.toList ∧
        ¬SplitsAs rendered.toList "runner".toList command.parts := by
  refine ⟨Workflow.ofText_toText (by decide +kernel), _, _, _, rfl, rfl, rfl, ?_, ?_⟩
  · decide +kernel
  · rintro ⟨rest, read, spelled⟩
    have places := congrArg List.length read
    rw [List.length_append, spelled.length_eq] at places
    revert places
    decide +kernel

end PrivateComputation
