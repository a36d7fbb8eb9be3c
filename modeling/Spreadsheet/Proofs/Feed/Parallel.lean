import Mathlib.Data.List.Forall2
import Spreadsheet.Proofs.Feed.Reading

/-! Two runs side by side, each in a world of its own and in front of subscribers who only read. What relates the two
states before relates them afterwards, and the runs fail together or answer alike. -/
namespace Spreadsheet

variable {Event Request State α β γ δ ι κ : Type}

/-- Two computations that fail together, or answer alike. -/
inductive Agree (related : α → β → Prop) : Except SheetError α → Except SheetError β → Prop
  | ok {a : α} {b : β} (alike : related a b) : Agree related (.ok a) (.ok b)
  | error (first second : SheetError) : Agree related (.error first) (.error second)

namespace Agree
variable {related weaker : α → β → Prop} {first : Except SheetError α} {second : Except SheetError β}

theorem mono (agree : Agree related first second) (imp : ∀ a b, related a b → weaker a b) :
    Agree weaker first second := by
  cases agree with
  | ok alike => exact .ok (imp _ _ alike)
  | error => exact .error _ _

/-- What succeeds on one side succeeds on the other. -/
theorem of_ok_iff {turn : α → β} {back : β → α} (onto : ∀ b, turn (back b) = b)
    (same : ∀ a, first = .ok a ↔ second = .ok (turn a)) : Agree (fun a b => first = .ok a ∧ b = turn a) first second := by
  cases found : first with
  | ok a =>
    rw [(same a).mp found]
    exact .ok ⟨rfl, rfl⟩
  | error e =>
    cases answer : second with
    | ok b =>
      have made := (same (back b)).mpr (by rw [answer, onto])
      rw [found] at made
      cases made
    | error _ => exact .error _ _

end Agree

namespace Run

/-- Each of two runs does no more than to change the state and to record what it tells; the states that they leave are
related, and they fail together or answer alike. -/
def Alike (kept : State → State → Prop) (run : Run Event Request State α) (world : World Event Request State)
    (other : Run Event Request State β) (mirror : World Event Request State) (alike : α → β → Prop) : Prop :=
  ∃ result state news answer last more,
    run.outcome world = (result, { world with state, trace := news ++ world.trace }) ∧
      other.outcome mirror = (answer, { mirror with state := last, trace := more ++ mirror.trace }) ∧
      kept state last ∧ Agree alike result answer

/-- The runs go alike wherever the states are related and subscribers only read. -/
def Parallel (kept : State → State → Prop) (run : Run Event Request State α) (other : Run Event Request State β)
    (alike : α → β → Prop) : Prop :=
  ∀ world mirror : World Event Request State, world.feed.OnlyRead → mirror.feed.OnlyRead → kept world.state mirror.state →
    Alike kept run world other mirror alike

variable {kept : State → State → Prop} {run : Run Event Request State α} {other : Run Event Request State β}
  {alike : α → β → Prop} {world mirror : World Event Request State}

/-- Runs that leave their worlds as they are. -/
theorem alike_of_outcome {result : Except SheetError α} {answer : Except SheetError β}
    (first : run.outcome world = (result, world)) (second : other.outcome mirror = (answer, mirror))
    (related : kept world.state mirror.state) (agree : Agree alike result answer) :
    Alike kept run world other mirror alike :=
  ⟨result, world.state, [], answer, mirror.state, [], first, second, related, agree⟩

/-- Runs may begin with changes of the states. -/
theorem Alike.of_outcome {next : Run Event Request State α} {follow : Run Event Request State β} {state last : State}
    (first : run.outcome world = next.outcome { world with state })
    (second : other.outcome mirror = follow.outcome { mirror with state := last })
    (rest : Alike kept next { world with state } follow { mirror with state := last } alike) :
    Alike kept run world other mirror alike := by
  obtain ⟨result, state, news, answer, last, more, done, ended, related, agree⟩ := rest
  exact ⟨result, state, news, answer, last, more, first.trans done, second.trans ended, related, agree⟩

theorem Parallel.go (parallel : Parallel kept run other alike) (reads : world.feed.OnlyRead)
    (silent : mirror.feed.OnlyRead) (related : kept world.state mirror.state) : Alike kept run world other mirror alike :=
  parallel world mirror reads silent related

theorem parallel_pure {a : α} {b : β} (same : alike a b) :
    Parallel kept (pure a : Run Event Request State α) (pure b : Run Event Request State β) alike :=
  fun _ _ _ _ related => alike_of_outcome rfl rfl related (.ok same)

theorem parallel_lift {first : Except SheetError α} {second : Except SheetError β} (agree : Agree alike first second) :
    Parallel kept (lift first : Run Event Request State α) (lift second) alike :=
  fun _ _ _ _ related => alike_of_outcome rfl rfl related agree

theorem parallel_state : Parallel kept (state : Run Event Request State State) state kept :=
  fun _ _ _ _ related => alike_of_outcome rfl rfl related (.ok related)

theorem parallel_modifyState {f g : State → State} (steps : ∀ state last, kept state last → kept (f state) (g last)) :
    Parallel kept (modifyState f : Run Event Request State Unit) (modifyState g) fun _ _ => True :=
  fun world mirror _ _ related =>
    ⟨_, f world.state, [], _, g mirror.state, [], rfl, rfl, steps _ _ related, .ok trivial⟩

theorem Alike.bind {next : α → Run Event Request State γ} {follow : β → Run Event Request State δ}
    {final : γ → δ → Prop} (reads : world.feed.OnlyRead) (silent : mirror.feed.OnlyRead)
    (first : Alike kept run world other mirror alike)
    (second : ∀ a b, alike a b → Parallel kept (next a) (follow b) final) :
    Alike kept (run >>= next) world (other >>= follow) mirror final := by
  obtain ⟨result, state, news, answer, last, more, done, ended, related, agree⟩ := first
  cases agree with
  | ok same =>
    obtain ⟨result, state, later, answer, last, others, rest, tail, related, agree⟩ :=
      second _ _ same { world with state, trace := news ++ world.trace }
        { mirror with state := last, trace := more ++ mirror.trace } reads silent related
    refine ⟨result, state, later ++ news, answer, last, others ++ more, ?_, ?_, related, agree⟩
    · rw [outcome_bind_ok done, rest, List.append_assoc]
    · rw [outcome_bind_ok ended, tail, List.append_assoc]
  | error e f =>
    exact ⟨_, state, news, _, last, more, outcome_bind_error done, outcome_bind_error ended, related, .error e f⟩

theorem Parallel.bind {next : α → Run Event Request State γ} {follow : β → Run Event Request State δ}
    {final : γ → δ → Prop} (first : Parallel kept run other alike)
    (second : ∀ a b, alike a b → Parallel kept (next a) (follow b) final) :
    Parallel kept (run >>= next) (other >>= follow) final :=
  fun world mirror reads silent related => (first world mirror reads silent related).bind reads silent second

/-- A failure that is caught. -/
theorem Parallel.attempt (parallel : Parallel kept run other alike) :
    Parallel kept (attempt run) (attempt other) (Agree alike) := by
  intro world mirror reads silent related
  obtain ⟨result, state, news, answer, last, more, done, ended, kept, agree⟩ := parallel world mirror reads silent related
  exact ⟨_, state, news, _, last, more, by rw [outcome_attempt, done], by rw [outcome_attempt, ended], kept, .ok agree⟩

/-- Runs that succeed and leave the states as they are. -/
theorem parallel_of_succeeds
    (first : ∀ world, world.feed.OnlyRead → Succeeds run world fun _ state => state = world.state)
    (second : ∀ world, world.feed.OnlyRead → Succeeds other world fun _ state => state = world.state) :
    Parallel kept run other fun _ _ => True := by
  intro world mirror reads silent related
  obtain ⟨a, _, news, done, rfl⟩ := first world reads
  obtain ⟨b, _, more, ended, rfl⟩ := second mirror silent
  exact ⟨_, _, news, _, _, more, done, ended, related, .ok trivial⟩

section publish
variable {publish : Event → Run Event Request State Unit} (tells : OnlyTells publish)
include tells

theorem parallel_publish (event last : Event) : Parallel kept (publish event) (publish last) fun _ _ => True :=
  parallel_of_succeeds (fun world => tells world event) fun world => tells world last

theorem parallel_forM_publish (events others : List Event) :
    Parallel kept (events.forM publish) (others.forM publish) fun _ _ => True :=
  parallel_of_succeeds (fun _ reads => succeeds_forM tells reads events) fun _ reads => succeeds_forM tells reads others

end publish

/-- A walk over items beside a walk over what becomes of them. -/
theorem parallel_forM {items : List ι} (turn : ι → κ) {f : ι → Run Event Request State Unit}
    {g : κ → Run Event Request State Unit} (step : ∀ item ∈ items, Parallel kept (f item) (g (turn item)) fun _ _ => True) :
    Parallel kept (items.forM f) ((items.map turn).forM g) fun _ _ => True := by
  induction items with
  | nil => exact parallel_pure trivial
  | cons item rest ih =>
    exact (step item List.mem_cons_self).bind fun _ _ _ => ih fun other member => step other (List.mem_cons_of_mem _ member)

/-- The same with answers. -/
theorem parallel_mapM {items : List ι} (turn : ι → κ) {f : ι → Run Event Request State α}
    {g : κ → Run Event Request State β} (step : ∀ item ∈ items, Parallel kept (f item) (g (turn item)) alike) :
    Parallel kept (items.mapM f) ((items.map turn).mapM g) (List.Forall₂ alike) := by
  induction items with
  | nil => exact parallel_pure .nil
  | cons item rest ih =>
    rw [List.map_cons, List.mapM_cons, List.mapM_cons]
    refine (step item List.mem_cons_self).bind fun a b same => ?_
    refine (ih fun other member => step other (List.mem_cons_of_mem _ member)).bind fun _ _ others => ?_
    exact parallel_pure (.cons same others)

end Run
end Spreadsheet
