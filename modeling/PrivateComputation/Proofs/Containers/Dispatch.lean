import PrivateComputation.Containers.Watched
import PrivateComputation.Proofs.SortedMap

/-!
Launching containers on the local machine: all of them are launched, or none is left behind.
-/

namespace PrivateComputation

variable {π : Type} [ProcessHost π]

structure LocalProcess.IsNew (launched : LocalProcess)
    (timeout : Option UInt32) : Prop where
  timeout : launched.timeout = timeout
  container : launched.container = ⟨launched.container.id, some "127.0.0.1", .started, none⟩

namespace LocalContainers

/-- A host starts commands in turn, as the processes listed. -/
inductive Starts (shell : String) : List String → π → List Nat → π → Prop
  | nil (host : π) : Starts shell [] host [] host
  | cons {command : String} {commands : List String} {process : Nat} {processes : List Nat}
      {host next final : π} (first : ProcessHost.start shell command host = (.ok process, next))
      (others : Starts shell commands next processes final) :
      Starts shell (command :: commands) host (process :: processes) final

variable {shell : String} {commands : List String} {processes : List Nat}

theorem Starts.length_eq {host final : π} (starts : Starts shell commands host processes final) :
    processes.length = commands.length := by
  induction starts with
  | nil => rfl
  | cons _ _ ih => rw [List.length_cons, List.length_cons, ih]

theorem Starts.zipWith_append {γ : Type} {host final : π}
    (starts : Starts shell commands host processes final) (make : String → Nat → γ)
    (later : List String) :
    List.zipWith make (commands ++ later) processes = List.zipWith make commands processes := by
  conv_lhs => rw [← List.append_nil processes]
  rw [List.zipWith_append starts.length_eq.symm, List.zipWith_nil_right, List.append_nil]

/-- A host refuses one of the commands, after it has started those before as the processes
listed. -/
inductive Refuses (shell : String) : List String → π → List Nat → String → String → Prop
  | after {before : List String} {processes : List Nat} {command message : String}
      {host middle final : π} (starts : Starts shell before host processes middle)
      (refused : ProcessHost.start shell command middle = (.error message, final))
      (later : List String) :
      Refuses shell (before ++ command :: later) host processes command message

theorem starts_or_refuses (shell : String) (commands : List String) (host : π) :
    (∃ processes final, Starts shell commands host processes final) ∨
      ∃ processes command message, Refuses shell commands host processes command message := by
  induction commands generalizing host with
  | nil => exact .inl ⟨[], host, .nil host⟩
  | cons command commands ih =>
      cases first : ProcessHost.start shell command host with
      | mk outcome next =>
          cases outcome with
          | error message => exact .inr ⟨[], command, message, .after (.nil host) first commands⟩
          | ok process =>
              rcases ih next with ⟨processes, final, all⟩ | ⟨processes, bad, message, refuses⟩
              · exact .inl ⟨process :: processes, final, .cons first all⟩
              · obtain ⟨some, refused, later⟩ := refuses
                have refuses := Refuses.after (.cons first some) refused later
                exact .inr ⟨process :: processes, bad, message, refuses⟩

theorem startAll_append {host middle : π} (starts : Starts shell commands host processes middle)
    (rest : List String) : ∃ started : List (Nat × Nat), started.map Prod.fst = processes ∧
      startAll shell (commands ++ rest) host =
        ((started ++ (startAll shell rest middle).1.1, (startAll shell rest middle).1.2),
          (startAll shell rest middle).2) := by
  induction starts with
  | nil => exact ⟨[], rfl, rfl⟩
  | @cons command commands process processes host next final first others ih =>
      obtain ⟨started, numbers, whole⟩ := ih
      refine ⟨(process, ProcessHost.now next) :: started, by rw [List.map_cons, numbers], ?_⟩
      simp only [List.cons_append, startAll, first, whole]

theorem startAll_refused {host final : π} {command message : String}
    (refused : ProcessHost.start shell command host = (.error message, final))
    (later : List String) :
    startAll shell (command :: later) host = (([], some message), final) := by
  simp only [startAll, refused]

theorem create_refused {service : LocalContainers π} {middle final : π} {command message : String}
    (starts : Starts service.shell commands service.host processes middle)
    (refused : ProcessHost.start service.shell command middle = (.error message, final))
    (definition : String) (later : List String) (timeout : Option UInt32) :
    create definition (commands ++ command :: later) timeout service =
      (.error (.dispatch definition message), { service with host := killAll processes final }) := by
  obtain ⟨started, rfl, whole⟩ := startAll_append starts (command :: later)
  rw [startAll_refused refused, List.append_nil] at whole
  simp only [create, whole]

theorem create_started {service : LocalContainers π} {final : π}
    (starts : Starts service.shell commands service.host processes final)
    (definition : String) (timeout : Option UInt32) :
    ∃ started : List (Nat × Nat), started.map Prod.fst = processes ∧
      create definition commands timeout service =
        (.ok ((enrolAll timeout started final).1.map LocalProcess.container),
          { service with
            host := (enrolAll timeout started final).2
            processes := enter (service.processes.filter (fun launched => !launched.isFinished))
              (enrolAll timeout started final).1 }) := by
  obtain ⟨started, numbers, whole⟩ := startAll_append starts []
  rw [List.append_nil, startAll, List.append_nil] at whole
  exact ⟨started, numbers, by simp only [create, whole]⟩

/-! ## What is entered -/

theorem enrolAll_new (timeout : Option UInt32) (started : List (Nat × Nat)) (host : π) :
    (enrolAll timeout started host).1.map LocalProcess.process = started.map Prod.fst ∧
      ∀ launched ∈ (enrolAll timeout started host).1, launched.IsNew timeout := by
  induction started generalizing host with
  | nil => exact ⟨rfl, by simp [enrolAll]⟩
  | cons process started ih =>
      obtain ⟨numbers, others⟩ := ih (ProcessHost.freshId host).2
      simp only [enrolAll, List.map_cons, numbers, List.forall_mem_cons, true_and]
      exact ⟨⟨rfl, rfl⟩, others⟩

structure FreshIn (ids : List String) (processes : SortedMap LocalProcess) : Prop where
  distinct : ids.Nodup
  free : ∀ id ∈ ids, processes.get? id = none

theorem FreshIn.filter {ids : List String} {processes : SortedMap LocalProcess}
    (fresh : FreshIn ids processes) (keep : LocalProcess → Bool) :
    FreshIn ids (processes.filter keep) := by
  refine ⟨fresh.distinct, fun id listed => ?_⟩
  rw [Option.eq_none_iff_forall_ne_some]
  intro entry found
  rw [SortedMap.get?_filter_eq_some_iff, fresh.free id listed] at found
  cases found.1

theorem FreshIn.insert {id : String} {ids : List String} {processes : SortedMap LocalProcess}
    (fresh : FreshIn (id :: ids) processes) (entry : LocalProcess) :
    FreshIn ids (processes.insert id entry) := by
  obtain ⟨apart, distinct⟩ := List.nodup_cons.mp fresh.distinct
  refine ⟨distinct, fun name listed => ?_⟩
  rw [SortedMap.get?_insert_of_ne]
  · exact fresh.free name (List.mem_cons_of_mem _ listed)
  · rintro rfl
    exact apart listed

theorem get?_enter_iff {launched : List LocalProcess} {processes : SortedMap LocalProcess}
    (fresh : FreshIn (launched.map (fun entry => entry.container.id)) processes) (id : String)
    (entry : LocalProcess) :
    (enter processes launched).get? id = some entry ↔
      processes.get? id = some entry ∨ entry ∈ launched ∧ entry.container.id = id := by
  induction launched generalizing processes with
  | nil => simp [enter]
  | cons first launched ih =>
      have start := fresh.free first.container.id List.mem_cons_self
      change (enter (processes.insert first.container.id first) launched).get? id = some entry ↔ _
      rw [ih (fresh.insert first), SortedMap.get?_insert, List.mem_cons]
      by_cases same : id = first.container.id
      · subst same
        rw [if_pos rfl, start]
        constructor
        · rintro (found | found)
          · cases found
            exact .inr ⟨.inl rfl, rfl⟩
          · exact .inr ⟨.inr found.1, found.2⟩
        · rintro (found | ⟨rfl | listed, named⟩)
          · cases found
          · exact .inl rfl
          · exact .inr ⟨listed, named⟩
      · rw [if_neg same]
        constructor
        · rintro (found | ⟨listed, named⟩)
          · exact .inl found
          · exact .inr ⟨.inr listed, named⟩
        · rintro (found | ⟨rfl | listed, named⟩)
          · exact .inl found
          · exact absurd named.symm same
          · exact .inr ⟨listed, named⟩

/-! ## What the host is asked -/

theorem calls_of_start {command : String} {outcome : Except String Nat} {host next : Watched π}
    (answered : ProcessHost.start shell command host = (outcome, next)) :
    next.calls = host.calls ++ [.ofStart shell command outcome] := by
  cases answered
  rfl

theorem Starts.calls_eq {host final : Watched π}
    (starts : Starts shell commands host processes final) :
    final.calls = host.calls ++ List.zipWith (HostCall.started shell) commands processes := by
  induction starts with
  | nil => simp
  | cons first others ih =>
      rw [ih, calls_of_start first, List.append_assoc]
      rfl

theorem calls_killAll (processes : List Nat) (host : Watched π) :
    (killAll processes host).calls = host.calls ++ processes.map .killed := by
  induction processes generalizing host with
  | nil => simp [killAll]
  | cons process processes ih =>
      change (killAll processes (ProcessHost.kill process host)).calls = _
      rw [ih]
      change host.calls ++ [.killed process] ++ _ = _
      rw [List.append_assoc]
      rfl

theorem calls_enrolAll (timeout : Option UInt32) (started : List (Nat × Nat)) (host : Watched π) :
    (enrolAll timeout started host).2.calls = host.calls := by
  induction started generalizing host with
  | nil => rfl
  | cons process started ih => exact ih _

/-! ## Watching changes nothing -/

theorem start_watched {command : String} {outcome : Except String Nat} {host : Watched π} {next : π}
    (answered : ProcessHost.start shell command host.host = (outcome, next)) :
    ProcessHost.start shell command host =
      (outcome, host.record next (.ofStart shell command outcome)) := by
  change Watched.start shell command host = _
  rw [Watched.start, answered]

theorem startAll_unwatched (shell : String) (commands : List String) (host : Watched π) :
    startAll shell commands host.host = Prod.map id Watched.host (startAll shell commands host) := by
  induction commands generalizing host with
  | nil => rfl
  | cons command commands ih =>
      rcases answered : ProcessHost.start shell command host.host with ⟨message | process, next⟩
      · simp only [startAll, answered, start_watched answered]
        rfl
      · have others := ih (host.record next (.ofStart shell command (.ok process)))
        simp only [startAll, answered, start_watched answered]
        change startAll shell commands next = _ at others
        rw [others]
        rfl

theorem killAll_unwatched (processes : List Nat) (host : Watched π) :
    killAll processes host.host = (killAll processes host).host := by
  induction processes generalizing host with
  | nil => rfl
  | cons process processes ih => exact ih (ProcessHost.kill process host)

theorem enrolAll_unwatched (timeout : Option UInt32) (started : List (Nat × Nat))
    (host : Watched π) :
    enrolAll timeout started host.host = Prod.map id Watched.host (enrolAll timeout started host) := by
  induction started generalizing host with
  | nil => rfl
  | cons process started ih =>
      have others := ih (ProcessHost.freshId host).2
      simp only [enrolAll]
      change enrolAll timeout started (ProcessHost.freshId host.host).2 = _ at others
      rw [others]
      rfl

theorem create_unwatched (definition : String) (commands : List String) (timeout : Option UInt32)
    (service : LocalContainers (Watched π)) :
    create definition commands timeout service.unwatched =
      Prod.map id unwatched (create definition commands timeout service) := by
  have starts := startAll_unwatched service.shell commands service.host
  simp only [create]
  change startAll service.unwatched.shell commands service.unwatched.host = _ at starts
  rw [starts]
  rcases startAll service.shell commands service.host with ⟨⟨started, failure⟩, host⟩
  cases failure with
  | some message =>
      simp only [Prod.map, id]
      rw [killAll_unwatched]
      rfl
  | none =>
      simp only [Prod.map, id]
      rw [enrolAll_unwatched]
      rfl

end LocalContainers

open LocalContainers

/-- Launching containers is all or nothing, whatever the host does. Where it refuses a command, what
it was asked besides is to end each process that it had started, and no other container is touched.
Where it starts all commands, there is a container for each of them in turn, and of the others those
are forgotten that are known to have finished. Nothing depends on the calls being watched. -/
theorem dispatch_all_or_nothing (definition : String) (commands : List String)
    (timeout : Option UInt32) (service : LocalContainers (Watched π)) :
    let outcome := create definition commands timeout service
    create definition commands timeout service.unwatched = (outcome.1, outcome.2.unwatched) ∧
    ((∃ processes final, Starts service.shell commands service.host processes final) ∨
      ∃ processes command message,
        Refuses service.shell commands service.host processes command message) ∧
    (∀ processes command message,
      Refuses service.shell commands service.host processes command message →
      outcome.1 = .error (.dispatch definition message) ∧
      outcome.2.shell = service.shell ∧ outcome.2.processes = service.processes ∧
      outcome.2.host.calls = service.host.calls ++
        (List.zipWith (.started service.shell) commands processes ++
          .refused service.shell command message :: processes.map .killed)) ∧
    ∀ processes final, Starts service.shell commands service.host processes final →
      ∃ launched : List LocalProcess, outcome.1 = .ok (launched.map LocalProcess.container) ∧
        launched.length = commands.length ∧ launched.map LocalProcess.process = processes ∧
        (∀ entry ∈ launched, entry.IsNew timeout) ∧
        outcome.2.shell = service.shell ∧
        outcome.2.host.calls = service.host.calls ++
          List.zipWith (.started service.shell) commands processes ∧
        (FreshIn (launched.map (fun entry => entry.container.id)) service.processes → ∀ id entry,
          outcome.2.processes.get? id = some entry ↔
            service.processes.get? id = some entry ∧ entry.container.status.isTerminal = false ∨
              entry ∈ launched ∧ entry.container.id = id) := by
  refine ⟨create_unwatched definition commands timeout service,
    starts_or_refuses service.shell commands service.host, ?_, ?_⟩
  · intro processes command message refuses
    obtain ⟨starts, refused, later⟩ := refuses
    rw [create_refused starts refused]
    refine ⟨rfl, rfl, rfl, ?_⟩
    rw [calls_killAll, calls_of_start refused, starts.calls_eq, starts.zipWith_append]
    simp [HostCall.ofStart]
  · intro processes final starts
    obtain ⟨started, numbers, created⟩ := create_started starts definition timeout
    obtain ⟨same, new⟩ := enrolAll_new timeout started final
    rw [created]
    refine ⟨(enrolAll timeout started final).1, rfl, ?_, same.trans numbers, new, rfl, ?_, ?_⟩
    · rw [← List.length_map LocalProcess.process, same, numbers, starts.length_eq]
    · rw [calls_enrolAll, starts.calls_eq]
    · intro fresh id entry
      rw [get?_enter_iff (fresh.filter _), SortedMap.get?_filter_eq_some_iff]
      simp [LocalProcess.isFinished]

structure CrowdedHost where
  room : Nat
  given : Nat

namespace CrowdedHost

def start (host : CrowdedHost) : Except String Nat × CrowdedHost :=
  if host.room = 0 then (.error "Resource temporarily unavailable", host)
  else (.ok host.given, ⟨host.room - 1, host.given + 1⟩)

instance : ProcessHost CrowdedHost where
  start _ _ := start
  check _ host := (.running, host)
  kill _ host := { host with room := host.room + 1 }
  now _ := 0
  pause host := host
  freshId host := ("c" ++ toString host.given, { host with given := host.given + 1 })

end CrowdedHost

def LocalContainers.crowded : LocalContainers (Watched CrowdedHost) :=
  ⟨"sh", ⟨⟨2, 0⟩, []⟩, SortedMap.ofList
    [("left", ⟨70, 0, none, ⟨"left", none, .completed, some 0⟩⟩),
      ("right", ⟨71, 0, none, ⟨"right", none, .started, none⟩⟩)]⟩

theorem dispatch_all_or_nothing_of_crowded :
    Refuses "sh" ["true", "false", "true"] crowded.host [0, 1] "true"
      "Resource temporarily unavailable" ∧
    (create "small" ["true", "false", "true"] none crowded).2.host.calls =
      [.started "sh" "true" 0, .started "sh" "false" 1,
        .refused "sh" "true" "Resource temporarily unavailable", .killed 0, .killed 1] ∧
    ∃ final ids, Starts "sh" ["true", "false"] crowded.host [0, 1] final ∧
      FreshIn ids crowded.processes ∧
      (create "small" ["true", "false"] (some 5) crowded).1 =
        .ok (ids.map (fun id => ⟨id, some "127.0.0.1", .started, none⟩)) ∧
      (create "small" ["true", "false"] (some 5) crowded).2.processes.get? "left" = none := by
  have started : Starts "sh" ["true", "false"] crowded.host [0, 1] ⟨⟨0, 2⟩, _⟩ :=
    .cons rfl (.cons rfl (.nil _))
  have refuses : Refuses "sh" ["true", "false", "true"] crowded.host [0, 1] "true"
      "Resource temporarily unavailable" := .after started rfl []
  obtain ⟨-, -, refused, -⟩ :=
    dispatch_all_or_nothing "small" ["true", "false", "true"] none crowded
  obtain ⟨-, -, -, complete⟩ := dispatch_all_or_nothing "small" ["true", "false"] (some 5) crowded
  obtain ⟨launched, result, -, -, -, -, -, tracked⟩ := complete [0, 1] _ started
  have result' : (create "small" ["true", "false"] (some 5) crowded).1 =
      .ok (["c2", "c3"].map (fun id => ⟨id, some "127.0.0.1", .started, none⟩)) := rfl
  have ids : launched.map (fun entry => entry.container.id) = ["c2", "c3"] := by
    have containers := Except.ok.inj (result.symm.trans result')
    have names := congrArg (List.map ContainerInstance.id) containers
    rwa [List.map_map] at names
  have fresh : FreshIn ["c2", "c3"] crowded.processes := ⟨by decide, by decide⟩
  refine ⟨refuses, (refused [0, 1] _ _ refuses).2.2.2, _, _, started, fresh, result', ?_⟩
  rw [Option.eq_none_iff_forall_ne_some]
  intro entry found
  rcases (tracked (ids ▸ fresh) "left" entry).mp found with ⟨old, running⟩ | ⟨listed, named⟩
  · cases old
    cases running
  · have given : "left" ∈ ["c2", "c3"] := by
      rw [← ids, ← named]
      exact List.mem_map_of_mem listed
    revert given
    decide

end PrivateComputation
