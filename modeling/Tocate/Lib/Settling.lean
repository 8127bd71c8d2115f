import Mathlib.Algebra.BigOperators.Group.Finset.Basic
import Mathlib.Algebra.Order.BigOperators.Group.Finset
import Mathlib.Data.Prod.Lex
import Tocate.Lib.Cloud

/-!
# Coming to rest

The clients of a database are at rest when no write, no confirmation and no
server state is on its way.  A listener may pass over server states, but not over
the last one.  If what a listener shows changes only by the states it is sent and
by writes of its own, then at rest every listener shows what the server has,
whatever has happened before.

Clients that answer neither a server state nor a confirmation with a write come
to rest from every state, without anything happening at any of them.
-/

namespace Cloud

variable {ι D W σ ε : Type*}

/-- Nothing is on its way. -/
structure AtRest (s : State ι D W σ) : Prop where
  outbox : ∀ i, s.outbox i = []
  acks : ∀ i, s.acks i = []
  inbox : ∀ i, s.inbox i = []

instance [Fintype ι] (s : State ι D W σ) : Decidable (AtRest s) :=
  decidable_of_iff (∀ i, (s.outbox i).isEmpty = true ∧
      (s.acks i).isEmpty = true ∧ (s.inbox i).isEmpty = true)
    ⟨fun h => ⟨fun i => List.isEmpty_iff.mp (h i).1,
        fun i => List.isEmpty_iff.mp (h i).2.1,
        fun i => List.isEmpty_iff.mp (h i).2.2⟩,
      fun h i => ⟨List.isEmpty_iff.mpr (h.outbox i),
        List.isEmpty_iff.mpr (h.acks i), List.isEmpty_iff.mpr (h.inbox i)⟩⟩

/-- A server state is passed over only if a newer one waits behind it. -/
def Latest (s : State ι D W σ) (a : Action ι ε) : Prop :=
  ∀ i ∈ a.skip?, 1 < (s.inbox i).length

instance (s : State ι D W σ) (a : Action ι ε) : Decidable (Latest s a) :=
  inferInstanceAs (Decidable (∀ i ∈ a.skip?, _))

/-- The network brings something to its end. -/
def Action.moves : Action ι ε → Bool
  | .arrive _ | .confirm _ | .deliver _ => true
  | .event _ _ | .skip _ => false

theorem latest_of_moves {a : Action ι ε} (h : a.moves = true)
    (s : State ι D W σ) : Latest s a := by
  cases a with
  | skip i => cases h
  | _ => rintro _ ⟨⟩

/-! ## What a listener shows -/

variable [DecidableEq ι]

/-- What has to be shown of a program: a listener that takes a server state with
none of its own writes in flight shows it, and a handler that issues none of them
leaves alone what is shown.  `I` is what is known of the system. -/
structure Follows (P : Program D W σ ε) (I : State ι D W σ → Prop)
    (ours : ι → W → Prop) (shows : ι → D → σ → Prop) : Prop where
  react : ∀ s i e r, I s →
    P.react s.server (P.view s i) (s.client i) e = some r →
    P.listens r.1 = true → (∀ w ∈ r.2, ¬ours i w) →
    shows i s.server (s.client i) → shows i s.server r.1
  confirm : ∀ s i w b rest, I s → s.acks i = (w, b) :: rest →
    P.listens (P.ack w b (s.client i)).1 = true →
    (∀ v ∈ (P.ack w b (s.client i)).2, ¬ours i v) →
    shows i s.server (s.client i) →
    shows i s.server (P.ack w b (s.client i)).1
  deliver : ∀ s i d rest, I s → s.inbox i = d :: rest →
    P.listens (P.snapshot (s.outbox i) d (s.client i)).1 = true →
    (∀ w ∈ s.outbox i, ¬ours i w) →
    (∀ w ∈ (P.snapshot (s.outbox i) d (s.client i)).2, ¬ours i w) →
    shows i d (P.snapshot (s.outbox i) d (s.client i)).1

/-- What waits for a listener ends with the state of the server, and a listener
for whom nothing waits shows that state, unless it has changed it itself. -/
structure UpToDate (P : Program D W σ ε) (ours : ι → W → Prop)
    (shows : ι → D → σ → Prop) (s : State ι D W σ) (i : ι) : Prop where
  last : ∀ d, (s.inbox i).getLast? = some d → d = s.server
  shown : s.inbox i = [] →
    (∃ w ∈ s.outbox i, ours i w) ∨ shows i s.server (s.client i)

/-- Every listener is up to date. -/
def InSync (P : Program D W σ ε) (ours : ι → W → Prop)
    (shows : ι → D → σ → Prop) (s : State ι D W σ) : Prop :=
  ∀ i, P.listens (s.client i) = true → UpToDate P ours shows s i

section Steps

variable {P : Program D W σ ε} {I : State ι D W σ → Prop}
  {ours : ι → W → Prop} {shows : ι → D → σ → Prop}
  {s s' : State ι D W σ} {a : Action ι ε} {i : ι}

/-- A client moves: it stays up to date if it shows the server state whenever it
showed it before and issues no write of its own. -/
theorem InSync.settle (h : InSync P ours shows s) {r : σ × List W}
    (hshown : P.listens r.1 = true → (∀ w ∈ r.2, ¬ours i w) →
      P.listens (s.client i) = true → s.inbox i = [] →
      shows i s.server (s.client i) → shows i s.server r.1) :
    InSync P ours shows (P.settle s i r) := by
  intro k hk
  by_cases hki : k = i
  · subst hki
    rw [Program.settle_client_self] at hk
    cases hold : P.listens (s.client k) with
    | false =>
        have hbox : (P.settle s k r).inbox k = [s.server] := by
          simp [Program.settle, hk, hold]
        refine ⟨fun d hd => ?_, fun hnil => ?_⟩
        · rw [hbox] at hd
          exact (Option.some.inj hd).symm
        · rw [hbox] at hnil
          cases hnil
    | true =>
        have hbox : (P.settle s k r).inbox k = s.inbox k := by
          simp [Program.settle, hk, hold]
        refine ⟨fun d hd => ?_, fun hnil => ?_⟩
        · rw [hbox] at hd
          exact (h k hold).last d hd
        · rw [hbox] at hnil
          rw [Program.settle_outbox_self, Program.settle_client_self]
          by_cases hws : ∃ w ∈ r.2, ours k w
          · obtain ⟨w, hw, hours⟩ := hws
            exact Or.inl ⟨w, List.mem_append_right _ hw, hours⟩
          · rcases (h k hold).shown hnil with ⟨w, hw, hours⟩ | hshows
            · exact Or.inl ⟨w, List.mem_append_left _ hw, hours⟩
            · refine Or.inr (hshown hk (fun w hw hours => ?_) hold hnil hshows)
              exact hws ⟨w, hw, hours⟩
  · rw [Program.settle_client_ne r hki] at hk
    refine ⟨fun d hd => ?_, fun hnil => ?_⟩
    · rw [Program.settle_inbox_ne r hki] at hd
      exact (h k hk).last d hd
    · rw [Program.settle_inbox_ne r hki] at hnil
      rw [Program.settle_outbox_ne r hki, Program.settle_client_ne r hki]
      exact (h k hk).shown hnil

/-- A write that arrives brings every listener up to date: each is sent the new
state of the server. -/
theorem inSync_receive (w : W) (ws : List W) :
    InSync P ours shows (P.receive s i w ws) := by
  intro k hk
  rw [Program.receive_client] at hk
  have hbox : (P.receive s i w ws).inbox k =
      s.inbox k ++ [(P.apply s.server w).1] := by
    simp [Program.receive, hk]
  refine ⟨fun d hd => ?_, fun hnil => ?_⟩
  · rw [hbox, List.getLast?_append] at hd
    exact (Option.some.inj hd).symm
  · rw [hbox] at hnil
    exact absurd hnil (List.append_ne_nil_of_right_ne_nil _ (List.cons_ne_nil _ _))

/-- The oldest state that waits is taken by a client that shows it. -/
theorem InSync.deliver (hf : Follows P I ours shows) (hI : I s)
    (h : InSync P ours shows s) {d : D} {rest : List D}
    (hbox : s.inbox i = d :: rest) :
    InSync P ours shows
      (P.settle { s with inbox := Function.update s.inbox i rest } i
        (P.snapshot (s.outbox i) d (s.client i))) := by
  intro k hk
  by_cases hki : k = i
  · subst hki
    rw [Program.settle_client_self] at hk
    cases hold : P.listens (s.client k) with
    | false =>
        have hnew : (P.settle { s with inbox := Function.update s.inbox k rest } k
            (P.snapshot (s.outbox k) d (s.client k))).inbox k = [s.server] := by
          simp [Program.settle, hk, hold]
        refine ⟨fun d' hd => ?_, fun hnil => ?_⟩
        · rw [hnew] at hd
          exact (Option.some.inj hd).symm
        · rw [hnew] at hnil
          cases hnil
    | true =>
        have hnew : (P.settle { s with inbox := Function.update s.inbox k rest } k
            (P.snapshot (s.outbox k) d (s.client k))).inbox k = rest := by
          simp [Program.settle, hk, hold]
        have hlast := (h k hold).last
        rw [hbox] at hlast
        refine ⟨fun d' hd => ?_, fun hnil => ?_⟩
        · rw [hnew] at hd
          refine hlast d' ?_
          rw [List.getLast?_cons, hd]
          rfl
        · rw [hnew] at hnil
          subst hnil
          have hserver : d = s.server := hlast d rfl
          rw [Program.settle_outbox_self, Program.settle_client_self,
            Program.settle_server]
          by_cases hown : ∃ w ∈ s.outbox k ++
              (P.snapshot (s.outbox k) d (s.client k)).2, ours k w
          · exact Or.inl hown
          · right
            rw [← hserver]
            refine hf.deliver s k d [] hI hbox hk (fun w hw hours => ?_)
              fun w hw hours => ?_
            · exact hown ⟨w, List.mem_append_left _ hw, hours⟩
            · exact hown ⟨w, List.mem_append_right _ hw, hours⟩
  · rw [Program.settle_client_ne _ hki] at hk
    refine ⟨fun d' hd => ?_, fun hnil => ?_⟩
    · rw [Program.settle_inbox_ne _ hki] at hd
      simp only [Function.update_of_ne hki] at hd
      exact (h k hk).last d' hd
    · rw [Program.settle_inbox_ne _ hki] at hnil
      simp only [Function.update_of_ne hki] at hnil
      rw [Program.settle_outbox_ne _ hki, Program.settle_client_ne _ hki]
      exact (h k hk).shown hnil

/-- Every step that passes over no last state keeps the listeners up to date. -/
theorem InSync.step (hf : Follows P I ours shows) (hI : I s)
    (h : InSync P ours shows s) (hlatest : Latest s a)
    (hstep : P.step s a = some s') : InSync P ours shows s' := by
  cases a with
  | event i e =>
      obtain ⟨r, hr, rfl⟩ := Program.step_event hstep
      exact h.settle fun hlis hws _ _ hshows =>
        hf.react s i e r hI hr hlis hws hshows
  | arrive i =>
      obtain ⟨w, ws, -, rfl⟩ := Program.step_arrive hstep
      exact inSync_receive w ws
  | confirm i =>
      obtain ⟨w, b, rest, hacks, rfl⟩ := Program.step_confirm hstep
      have hsame : InSync P ours shows
          { s with acks := Function.update s.acks i rest } :=
        fun k hk => ⟨(h k hk).last, (h k hk).shown⟩
      exact hsame.settle fun hlis hws _ _ hshows =>
        hf.confirm s i w b rest hI hacks hlis hws hshows
  | deliver i =>
      obtain ⟨d, rest, hbox, rfl⟩ := Program.step_deliver hstep
      exact InSync.deliver hf hI h hbox
  | skip i =>
      obtain ⟨d, rest, hbox, rfl⟩ := Program.step_skip hstep
      have hlong : 1 < (s.inbox i).length := hlatest i rfl
      rw [hbox, List.length_cons] at hlong
      have hrest : rest ≠ [] := List.ne_nil_of_length_pos (by omega)
      intro k hk
      by_cases hki : k = i
      · subst hki
        refine ⟨fun d' hd => ?_, fun hnil => ?_⟩
        · simp only [Function.update_self] at hd
          refine (h k hk).last d' ?_
          rw [hbox, List.getLast?_cons, hd]
          rfl
        · simp only [Function.update_self] at hnil
          exact absurd hnil hrest
      · refine ⟨fun d' hd => ?_, fun hnil => ?_⟩
        · simp only [Function.update_of_ne hki] at hd
          exact (h k hk).last d' hd
        · simp only [Function.update_of_ne hki] at hnil
          exact (h k hk).shown hnil

omit [DecidableEq ι] in
/-- At rest a listener shows what the server has. -/
theorem InSync.shows_of_atRest (h : InSync P ours shows s) (hrest : AtRest s)
    (hlis : P.listens (s.client i) = true) :
    shows i s.server (s.client i) := by
  rcases (h i hlis).shown (hrest.inbox i) with ⟨w, hw, -⟩ | hshows
  · rw [hrest.outbox i] at hw
    cases hw
  · exact hshows

end Steps

/-! ## Rest can be reached -/

section Rest

variable [Fintype ι] {P : Program D W σ ε} {s : State ι D W σ}

omit [DecidableEq ι] in
/-- How much there is in a family of queues. -/
def load {α : Type*} (f : ι → List α) : ℕ := ∑ i, (f i).length

theorem load_update_lt {α : Type*} {f : ι → List α} {i : ι} {x : α}
    {rest : List α} (h : f i = x :: rest) :
    load (Function.update f i rest) < load f := by
  refine Finset.sum_lt_sum (fun k _ => ?_) ⟨i, Finset.mem_univ i, ?_⟩
  · by_cases hk : k = i
    · subst hk
      rw [Function.update_self, h]
      exact Nat.le_succ _
    · rw [Function.update_of_ne hk]
  · rw [Function.update_self, h]
    exact Nat.lt_succ_self _

/-- What is on its way, writes first: a write that arrives brings about the
others. -/
def remaining (s : State ι D W σ) : ℕ ×ₗ ℕ ×ₗ ℕ :=
  toLex (load s.outbox, toLex (load s.acks, load s.inbox))

variable {i : ι}

theorem remaining_receive {w : W} {ws : List W} (hbox : s.outbox i = w :: ws) :
    remaining (P.receive s i w ws) < remaining s :=
  Prod.Lex.toLex_lt_toLex.mpr (Or.inl (load_update_lt hbox))

/-- A client that issues nothing moves. -/
theorem load_settle_outbox {r : σ × List W} (hr : r.2 = []) :
    load (P.settle s i r).outbox = load s.outbox := by
  simp only [Program.settle, hr, List.append_nil, Function.update_eq_self]

theorem remaining_confirm {w : W} {b : Bool} {rest : List (W × Bool)}
    (hack : ∀ w b (c : σ), (P.ack w b c).2 = [])
    (hbox : s.acks i = (w, b) :: rest) :
    remaining (P.settle { s with acks := Function.update s.acks i rest } i
      (P.ack w b (s.client i))) < remaining s := by
  refine Prod.Lex.toLex_lt_toLex.mpr (Or.inr ⟨?_, ?_⟩)
  · exact load_settle_outbox (hack w b (s.client i))
  · exact Prod.Lex.toLex_lt_toLex.mpr (Or.inl (load_update_lt hbox))

theorem remaining_deliver {d : D} {rest : List D}
    (hsnap : ∀ ws d (c : σ), (P.snapshot ws d c).2 = [])
    (hbox : s.inbox i = d :: rest) (hlis : P.listens (s.client i) = true) :
    remaining (P.settle { s with inbox := Function.update s.inbox i rest } i
      (P.snapshot (s.outbox i) d (s.client i))) < remaining s := by
  have hinbox : ∃ left : List D, left.length ≤ rest.length ∧
      (P.settle { s with inbox := Function.update s.inbox i rest } i
        (P.snapshot (s.outbox i) d (s.client i))).inbox =
          Function.update s.inbox i left := by
    by_cases hon : P.listens (P.snapshot (s.outbox i) d (s.client i)).1 = true
    · refine ⟨rest, Nat.le_refl _, ?_⟩
      simp [Program.settle, hon, hlis]
    · refine ⟨[], Nat.zero_le _, ?_⟩
      simp [Program.settle, hon]
  obtain ⟨left, hle, hleft⟩ := hinbox
  have hless : load (Function.update s.inbox i left) < load s.inbox := by
    refine Nat.lt_of_le_of_lt ?_ (load_update_lt hbox)
    refine Finset.sum_le_sum fun k _ => ?_
    by_cases hk : k = i
    · subst hk
      rw [Function.update_self, Function.update_self]
      exact hle
    · rw [Function.update_of_ne hk, Function.update_of_ne hk]
  refine Prod.Lex.toLex_lt_toLex.mpr (Or.inr ⟨?_, ?_⟩)
  · exact load_settle_outbox (hsnap (s.outbox i) d (s.client i))
  · refine Prod.Lex.toLex_lt_toLex.mpr (Or.inr ⟨rfl, ?_⟩)
    rw [← hleft] at hless
    exact hless

/-- What is on its way can be brought to its end, one thing after another. -/
theorem exists_moves (hack : ∀ w b (c : σ), (P.ack w b c).2 = [])
    (hsnap : ∀ ws d (c : σ), (P.snapshot ws d c).2 = []) (hq : P.Quiet s)
    (hbusy : ¬AtRest s) :
    ∃ (a : Action ι ε) (s' : State ι D W σ), a.moves = true ∧
      P.step s a = some s' ∧ remaining s' < remaining s := by
  by_cases hout : ∃ i, s.outbox i ≠ []
  · obtain ⟨i, hi⟩ := hout
    obtain ⟨w, ws, hbox⟩ := List.exists_cons_of_ne_nil hi
    refine ⟨.arrive i, P.receive s i w ws, rfl, ?_, remaining_receive hbox⟩
    simp only [Program.step, hbox]
  by_cases hacks : ∃ i, s.acks i ≠ []
  · obtain ⟨i, hi⟩ := hacks
    obtain ⟨⟨w, b⟩, rest, hbox⟩ := List.exists_cons_of_ne_nil hi
    refine ⟨.confirm i, _, rfl, ?_, remaining_confirm hack hbox⟩
    simp only [Program.step, hbox]
  by_cases hin : ∃ i, s.inbox i ≠ []
  · obtain ⟨i, hi⟩ := hin
    obtain ⟨d, rest, hbox⟩ := List.exists_cons_of_ne_nil hi
    refine ⟨.deliver i, _, rfl, ?_,
      remaining_deliver hsnap hbox (hq.listens hbox)⟩
    simp only [Program.step, hbox]
  simp only [not_exists, not_not] at hout hacks hin
  exact absurd ⟨hout, hacks, hin⟩ hbusy

/-- Clients that answer neither a server state nor a confirmation with a write
come to rest without anything happening at any of them. -/
theorem exists_atRest (hack : ∀ w b (c : σ), (P.ack w b c).2 = [])
    (hsnap : ∀ ws d (c : σ), (P.snapshot ws d c).2 = [])
    (s : State ι D W σ) (hq : P.Quiet s) :
    ∃ (acts : List (Action ι ε)) (t : State ι D W σ),
      (∀ a ∈ acts, a.moves = true) ∧
      Runs.run P.step s acts = some t ∧ AtRest t := by
  have hprogress : ∀ s : State ι D W σ, P.Quiet s → AtRest s ∨
      ∃ (a : Action ι ε) (s' : State ι D W σ), a.moves = true ∧
        P.step s a = some s' ∧ P.Quiet s' ∧ remaining s' < remaining s := by
    intro s hq
    by_cases hrest : AtRest s
    · exact Or.inl hrest
    · obtain ⟨a, s', hmoves, hstep, hless⟩ := exists_moves hack hsnap hq hrest
      exact Or.inr ⟨a, s', hmoves, hstep, Program.step_quiet hq hstep, hless⟩
  obtain ⟨acts, t, hall, hrun, -, ht⟩ :=
    Runs.exists_run_of_progress remaining hprogress hq
  exact ⟨acts, t, hall, hrun, ht⟩

end Rest

end Cloud
