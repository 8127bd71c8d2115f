import Tocate.Lib.Runs
import Mathlib.Logic.Function.Basic

/-!
# Clients of a shared database

The clients of a database run the same program.  A write waits at its client
until it arrives at the server, and the writes of one client arrive in the
order in which they were issued; the write that arrives last wins, as every
write is applied to whatever the server holds.  A listening client is sent
every state of the server in order and may skip some of them.  Each write is
confirmed to its client after it has arrived.

The invariant rule at the end lets an invariant be given part by part: for the
database, for the writes in flight and for the state of each client.
-/

namespace Cloud

variable {ι D W σ ε κ : Type*}

/-- The oldest entry of a queue is in it. -/
theorem mem_of_eq_cons {α : Type*} {l rest : List α} {a : α}
    (h : l = a :: rest) : a ∈ l := by
  rw [h]
  exact List.mem_cons_self

/-- So are the others. -/
theorem subset_of_eq_cons {α : Type*} {l rest : List α} {a : α}
    (h : l = a :: rest) : rest ⊆ l := by
  rw [h]
  exact List.subset_cons_self a rest

/-- What one handler does: the state it leaves, the writes it issues, and
whether it was cut short by an exception. -/
structure Outcome (σ W : Type*) where
  state : σ
  writes : List W := []
  failed : Bool := false

namespace Outcome

/-- The handler goes on with `f`, unless an exception has cut it short. -/
def andThen (o : Outcome σ W) (f : σ → Outcome σ W) : Outcome σ W :=
  if o.failed then o
  else
    { state := (f o.state).state
      writes := o.writes ++ (f o.state).writes
      failed := (f o.state).failed }

@[simp] theorem andThen_mk_true (s : σ) (ws : List W)
    (f : σ → Outcome σ W) :
    (Outcome.mk s ws true).andThen f = Outcome.mk s ws true := rfl

@[simp] theorem andThen_mk_false (s : σ) (ws : List W)
    (f : σ → Outcome σ W) :
    (Outcome.mk s ws false).andThen f =
      { state := (f s).state
        writes := ws ++ (f s).writes
        failed := (f s).failed } := rfl

end Outcome

/-- The program of a client, and how the server applies a write.

`apply` also says whether the write is accepted.  `react` is given the
database at the server and the database as the client sees it, with its own
pending writes applied, since a read may return either; it is `none` where the
event cannot happen.  `snapshot` is given the client's writes still in flight,
from which a listener tells a local state from a confirmed one. -/
structure Program (D W σ ε : Type*) where
  apply : D → W → D × Bool
  react : D → D → σ → ε → Option (σ × List W)
  snapshot : List W → D → σ → σ × List W
  ack : W → Bool → σ → σ × List W
  listens : σ → Bool

structure State (ι D W σ : Type*) where
  server : D
  outbox : ι → List W
  acks : ι → List (W × Bool)
  inbox : ι → List D
  client : ι → σ
  /-- All writes issued so far, the newest last. -/
  issued : List W

inductive Action (ι ε : Type*) where
  /-- Something happens at the client. -/
  | event (i : ι) (e : ε)
  /-- The client's oldest write in flight reaches the server. -/
  | arrive (i : ι)
  /-- The client is told the outcome of its oldest unconfirmed write. -/
  | confirm (i : ι)
  /-- The client's listener is given the next server state. -/
  | deliver (i : ι)
  /-- The client's listener passes over the next server state. -/
  | skip (i : ι)
deriving DecidableEq

namespace Action

/-- What happens at a client, and at which. -/
def event? : Action ι ε → Option (ι × ε)
  | .event i e => some (i, e)
  | _ => none

/-- The client whose write arrives. -/
def arrive? : Action ι ε → Option ι
  | .arrive i => some i
  | _ => none

theorem arrive?_eq_some {a : Action ι ε} {i : ι} (h : a.arrive? = some i) :
    a = .arrive i := by
  cases a with
  | arrive k =>
      cases h
      rfl
  | _ => cases h

/-- The client that is told the outcome of a write. -/
def confirm? : Action ι ε → Option ι
  | .confirm i => some i
  | _ => none

/-- The client whose listener is given a server state. -/
def deliver? : Action ι ε → Option ι
  | .deliver i => some i
  | _ => none

/-- The client whose listener passes over a server state. -/
def skip? : Action ι ε → Option ι
  | .skip i => some i
  | _ => none

end Action

namespace Program

variable [DecidableEq ι]

/-- The database as client `i` sees it: its own writes are already applied. -/
def view (P : Program D W σ ε) (s : State ι D W σ) (i : ι) : D :=
  (s.outbox i).foldl (fun d w => (P.apply d w).1) s.server

/-- Client `i` moves to a new state and issues writes.  A client that begins
to listen is sent the present state of the server; one that stops listening
loses what had not been delivered. -/
def settle (P : Program D W σ ε) (s : State ι D W σ) (i : ι)
    (r : σ × List W) : State ι D W σ :=
  { s with
    client := Function.update s.client i r.1
    outbox := Function.update s.outbox i (s.outbox i ++ r.2)
    inbox := Function.update s.inbox i
      (if P.listens r.1 then
        (if P.listens (s.client i) then s.inbox i else [s.server])
      else [])
    issued := s.issued ++ r.2 }

/-- The oldest write `w` of client `i` is applied; `ws` remain in flight. -/
def receive (P : Program D W σ ε) (s : State ι D W σ) (i : ι)
    (w : W) (ws : List W) : State ι D W σ :=
  { s with
    server := (P.apply s.server w).1
    outbox := Function.update s.outbox i ws
    acks := Function.update s.acks i (s.acks i ++ [(w, (P.apply s.server w).2)])
    inbox := fun k =>
      if P.listens (s.client k) then s.inbox k ++ [(P.apply s.server w).1]
      else s.inbox k }

def step (P : Program D W σ ε) (s : State ι D W σ) :
    Action ι ε → Option (State ι D W σ)
  | .event i e =>
      (P.react s.server (P.view s i) (s.client i) e).map (P.settle s i)
  | .arrive i =>
      match s.outbox i with
      | [] => none
      | w :: ws => some (P.receive s i w ws)
  | .confirm i =>
      match s.acks i with
      | [] => none
      | (w, ok) :: rest =>
          some (P.settle { s with acks := Function.update s.acks i rest } i
            (P.ack w ok (s.client i)))
  | .deliver i =>
      match s.inbox i with
      | [] => none
      | d :: rest =>
          some (P.settle { s with inbox := Function.update s.inbox i rest } i
            (P.snapshot (s.outbox i) d (s.client i)))
  | .skip i =>
      match s.inbox i with
      | [] => none
      | _ :: rest => some { s with inbox := Function.update s.inbox i rest }

section Equations

variable {P : Program D W σ ε} {s s' : State ι D W σ} {i : ι}

theorem step_event {e : ε} (h : P.step s (.event i e) = some s') :
    ∃ r, P.react s.server (P.view s i) (s.client i) e = some r ∧
      s' = P.settle s i r := by
  obtain ⟨r, hr, hs⟩ := Option.map_eq_some_iff.mp h
  exact ⟨r, hr, hs.symm⟩

theorem step_arrive (h : P.step s (.arrive i) = some s') :
    ∃ w ws, s.outbox i = w :: ws ∧ s' = P.receive s i w ws := by
  simp only [step] at h
  split at h
  · cases h
  next w ws hbox => exact ⟨w, ws, hbox, (Option.some.inj h).symm⟩

theorem step_confirm (h : P.step s (.confirm i) = some s') :
    ∃ w ok rest, s.acks i = (w, ok) :: rest ∧
      s' = P.settle { s with acks := Function.update s.acks i rest } i
        (P.ack w ok (s.client i)) := by
  simp only [step] at h
  split at h
  · cases h
  next w ok rest hacks =>
    exact ⟨w, ok, rest, hacks, (Option.some.inj h).symm⟩

theorem step_deliver (h : P.step s (.deliver i) = some s') :
    ∃ d rest, s.inbox i = d :: rest ∧
      s' = P.settle { s with inbox := Function.update s.inbox i rest } i
        (P.snapshot (s.outbox i) d (s.client i)) := by
  simp only [step] at h
  split at h
  · cases h
  next d rest hbox => exact ⟨d, rest, hbox, (Option.some.inj h).symm⟩

theorem step_skip (h : P.step s (.skip i) = some s') :
    ∃ d rest, s.inbox i = d :: rest ∧
      s' = { s with inbox := Function.update s.inbox i rest } := by
  simp only [step] at h
  split at h
  · cases h
  next d rest hbox => exact ⟨d, rest, hbox, (Option.some.inj h).symm⟩

@[simp] theorem settle_server (r : σ × List W) :
    (P.settle s i r).server = s.server := rfl

@[simp] theorem settle_acks (r : σ × List W) :
    (P.settle s i r).acks = s.acks := rfl

@[simp] theorem settle_issued (r : σ × List W) :
    (P.settle s i r).issued = s.issued ++ r.2 := rfl

@[simp] theorem settle_client_self (r : σ × List W) :
    (P.settle s i r).client i = r.1 := by
  simp [settle]

theorem settle_client_ne (r : σ × List W) {k : ι} (hk : k ≠ i) :
    (P.settle s i r).client k = s.client k := by
  simp [settle, hk]

@[simp] theorem settle_outbox_self (r : σ × List W) :
    (P.settle s i r).outbox i = s.outbox i ++ r.2 := by
  simp [settle]

theorem settle_outbox_ne (r : σ × List W) {k : ι} (hk : k ≠ i) :
    (P.settle s i r).outbox k = s.outbox k := by
  simp [settle, hk]

theorem settle_inbox_ne (r : σ × List W) {k : ι} (hk : k ≠ i) :
    (P.settle s i r).inbox k = s.inbox k := by
  simp [settle, hk]

/-- What waits for a client after it has moved was waiting before, or is the
present state of the server, sent as it began to listen. -/
theorem mem_settle_inbox {r : σ × List W} {k : ι} {d : D}
    (h : d ∈ (P.settle s i r).inbox k) :
    d ∈ s.inbox k ∨ (k = i ∧ P.listens r.1 = true ∧ d = s.server) := by
  by_cases hk : k = i
  · subst hk
    simp only [settle, Function.update_self] at h
    split at h
    next hlis =>
      split at h
      · exact Or.inl h
      · exact Or.inr ⟨rfl, hlis, List.mem_singleton.mp h⟩
    · cases h
  · rw [settle_inbox_ne r hk] at h
    exact Or.inl h

@[simp] theorem receive_server (w : W) (ws : List W) :
    (P.receive s i w ws).server = (P.apply s.server w).1 := rfl

@[simp] theorem receive_client (w : W) (ws : List W) :
    (P.receive s i w ws).client = s.client := rfl

@[simp] theorem receive_issued (w : W) (ws : List W) :
    (P.receive s i w ws).issued = s.issued := rfl

@[simp] theorem receive_outbox_self (w : W) (ws : List W) :
    (P.receive s i w ws).outbox i = ws := by
  simp [receive]

theorem receive_outbox_ne (w : W) (ws : List W) {k : ι} (hk : k ≠ i) :
    (P.receive s i w ws).outbox k = s.outbox k := by
  simp [receive, hk]

theorem mem_receive_inbox {w : W} {ws : List W} {k : ι} {d : D}
    (h : d ∈ (P.receive s i w ws).inbox k) :
    d ∈ s.inbox k ∨
      (P.listens (s.client k) = true ∧ d = (P.apply s.server w).1) := by
  simp only [receive] at h
  split at h
  next hlis =>
    rcases List.mem_append.mp h with hold | hnew
    · exact Or.inl hold
    · exact Or.inr ⟨hlis, List.mem_singleton.mp hnew⟩
  · exact Or.inl h

theorem mem_receive_acks {w : W} {ws : List W} {k : ι} {p : W × Bool}
    (h : p ∈ (P.receive s i w ws).acks k) :
    p ∈ s.acks k ∨ (k = i ∧ p = (w, (P.apply s.server w).2)) := by
  by_cases hk : k = i
  · subst hk
    simp only [receive, Function.update_self] at h
    rcases List.mem_append.mp h with hold | hnew
    · exact Or.inl hold
    · exact Or.inr ⟨rfl, List.mem_singleton.mp hnew⟩
  · simp only [receive, Function.update_of_ne hk] at h
    exact Or.inl h

theorem mem_receive_outbox {w : W} {ws : List W} {k : ι} {v : W}
    (hbox : s.outbox i = w :: ws)
    (h : v ∈ (P.receive s i w ws).outbox k) : v ∈ s.outbox k := by
  by_cases hk : k = i
  · subst hk
    rw [receive_outbox_self] at h
    rw [hbox]
    exact List.mem_cons_of_mem w h
  · rwa [receive_outbox_ne w ws hk] at h

/-- A write in flight after a client has moved was in flight before, or is
one that the client has just issued. -/
theorem mem_settle_outbox {r : σ × List W} {k : ι} {v : W}
    (h : v ∈ (P.settle s i r).outbox k) :
    v ∈ s.outbox k ∨ (k = i ∧ v ∈ r.2) := by
  by_cases hk : k = i
  · subst hk
    rw [settle_outbox_self] at h
    exact (List.mem_append.mp h).imp id fun hv => ⟨rfl, hv⟩
  · rw [settle_outbox_ne r hk] at h
    exact Or.inl h

/-- The step is none of client `k`'s, or passes over a server state. -/
structure Idle (s s' : State ι D W σ) (a : Action ι ε) (k : ι) : Prop where
  event : ∀ e, a ≠ .event k e
  arrive : a ≠ .arrive k
  confirm : a ≠ .confirm k
  deliver : a ≠ .deliver k
  client : s'.client k = s.client k
  outbox : s'.outbox k = s.outbox k
  acks : s'.acks k = s.acks k

/-- What a step is for client `k`. -/
theorem step_at {a : Action ι ε} (h : P.step s a = some s') (k : ι) :
    (∃ e r, a = .event k e ∧
      P.react s.server (P.view s k) (s.client k) e = some r ∧
        s' = P.settle s k r) ∨
    (∃ w ws, a = .arrive k ∧ s.outbox k = w :: ws ∧
      s' = P.receive s k w ws) ∨
    (∃ w ok rest, a = .confirm k ∧ s.acks k = (w, ok) :: rest ∧
      s' = P.settle { s with acks := Function.update s.acks k rest } k
        (P.ack w ok (s.client k))) ∨
    (∃ d rest, a = .deliver k ∧ s.inbox k = d :: rest ∧
      s' = P.settle { s with inbox := Function.update s.inbox k rest } k
        (P.snapshot (s.outbox k) d (s.client k))) ∨
    Idle s s' a k := by
  cases a with
  | event i e =>
      obtain ⟨r, hr, rfl⟩ := step_event h
      by_cases hk : k = i
      · subst hk
        exact Or.inl ⟨e, r, rfl, hr, rfl⟩
      · refine Or.inr (Or.inr (Or.inr (Or.inr ⟨fun e' heq => ?_, nofun, nofun,
          nofun, settle_client_ne r hk, settle_outbox_ne r hk, rfl⟩)))
        exact hk (Action.event.inj heq).1.symm
  | arrive i =>
      obtain ⟨w, ws, hbox, rfl⟩ := step_arrive h
      by_cases hk : k = i
      · subst hk
        exact Or.inr (Or.inl ⟨w, ws, rfl, hbox, rfl⟩)
      · refine Or.inr (Or.inr (Or.inr (Or.inr ⟨nofun, fun heq => ?_, nofun,
          nofun, rfl, receive_outbox_ne w ws hk, Function.update_of_ne hk _ _⟩)))
        exact hk (Action.arrive.inj heq).symm
  | confirm i =>
      obtain ⟨w, ok, rest, hacks, rfl⟩ := step_confirm h
      by_cases hk : k = i
      · subst hk
        exact Or.inr (Or.inr (Or.inl ⟨w, ok, rest, rfl, hacks, rfl⟩))
      · refine Or.inr (Or.inr (Or.inr (Or.inr ⟨nofun, nofun, fun heq => ?_,
          nofun, settle_client_ne _ hk, settle_outbox_ne _ hk,
          Function.update_of_ne hk _ _⟩)))
        exact hk (Action.confirm.inj heq).symm
  | deliver i =>
      obtain ⟨d, rest, hbox, rfl⟩ := step_deliver h
      by_cases hk : k = i
      · subst hk
        exact Or.inr (Or.inr (Or.inr (Or.inl ⟨d, rest, rfl, hbox, rfl⟩)))
      · refine Or.inr (Or.inr (Or.inr (Or.inr ⟨nofun, nofun, nofun,
          fun heq => ?_, settle_client_ne _ hk, settle_outbox_ne _ hk, rfl⟩)))
        exact hk (Action.deliver.inj heq).symm
  | skip i =>
      obtain ⟨d, rest, -, rfl⟩ := step_skip h
      exact Or.inr (Or.inr (Or.inr (Or.inr ⟨nofun, nofun, nofun, nofun, rfl,
        rfl, rfl⟩)))

/-- Nothing waits for a client that does not listen. -/
def Quiet (P : Program D W σ ε) (s : State ι D W σ) : Prop :=
  ∀ i, P.listens (s.client i) = false → s.inbox i = []

omit [DecidableEq ι] in
/-- Only a listener has something waiting. -/
theorem Quiet.listens (h : P.Quiet s) {d : D} {rest : List D}
    (hbox : s.inbox i = d :: rest) : P.listens (s.client i) = true := by
  by_contra hno
  rw [h i (Bool.not_eq_true _ ▸ hno)] at hbox
  cases hbox

theorem settle_quiet {r : σ × List W} (h : P.Quiet s) :
    P.Quiet (P.settle s i r) := by
  intro k hk
  by_cases hki : k = i
  · subst hki
    rw [settle_client_self] at hk
    simp [settle, hk]
  · rw [settle_client_ne r hki] at hk
    rw [settle_inbox_ne r hki]
    exact h k hk

theorem step_quiet {a : Action ι ε} (h : P.Quiet s)
    (hstep : P.step s a = some s') : P.Quiet s' := by
  have hrest : ∀ {i : ι} {d : D} {rest : List D}, s.inbox i = d :: rest →
      P.Quiet { s with inbox := Function.update s.inbox i rest } := by
    intro i d rest hbox k hk
    by_cases hki : k = i
    · subst hki
      rw [h k hk] at hbox
      cases hbox
    · show Function.update s.inbox i rest k = []
      rw [Function.update_of_ne hki]
      exact h k hk
  cases a with
  | event i e =>
      obtain ⟨r, -, rfl⟩ := step_event hstep
      exact settle_quiet h
  | arrive i =>
      obtain ⟨w, ws, -, rfl⟩ := step_arrive hstep
      intro k hk
      rw [receive_client] at hk
      simp only [receive, hk, Bool.false_eq_true, if_false]
      exact h k hk
  | confirm i =>
      obtain ⟨w, ok, rest, -, rfl⟩ := step_confirm hstep
      exact settle_quiet h
  | deliver i =>
      obtain ⟨d, rest, hbox, rfl⟩ := step_deliver hstep
      exact settle_quiet (hrest hbox)
  | skip i =>
      obtain ⟨d, rest, hbox, rfl⟩ := step_skip hstep
      exact hrest hbox

/-- What waits for a client is in order, and in order with the server. -/
def Ordered (R : D → D → Prop) (s : State ι D W σ) : Prop :=
  ∀ k, (s.inbox k ++ [s.server]).Pairwise R

section Order

variable {R : D → D → Prop}

/-- A client moves. -/
theorem Ordered.settle (h : Ordered R s) (hself : R s.server s.server)
    (r : σ × List W) : Ordered R (P.settle s i r) := by
  intro k
  by_cases hk : k = i
  · subst hk
    simp only [Program.settle, Function.update_self]
    split
    · split
      · exact h k
      · exact List.pairwise_pair.mpr hself
    · exact List.pairwise_singleton R s.server
  · rw [settle_inbox_ne r hk]
    exact h k

/-- The oldest of what waits for a client is taken. -/
theorem Ordered.rest (h : Ordered R s) {d : D} {rest : List D}
    (hbox : s.inbox i = d :: rest) :
    Ordered R { s with inbox := Function.update s.inbox i rest } := by
  intro k
  by_cases hk : k = i
  · subst hk
    simp only [Function.update_self]
    have hall := h k
    rw [hbox] at hall
    exact (List.pairwise_cons.mp hall).2
  · simp only [Function.update_of_ne hk]
    exact h k

/-- What is related to the server before a step has to be related to it
afterwards. -/
theorem Ordered.step {a : Action ι ε} (h : Ordered R s)
    (hself : R s.server s.server) (hself' : R s'.server s'.server)
    (hnext : ∀ d, R d s.server → R d s'.server)
    (hstep : P.step s a = some s') : Ordered R s' := by
  cases a with
  | event i e =>
      obtain ⟨r, -, rfl⟩ := step_event hstep
      exact h.settle hself r
  | arrive i =>
      obtain ⟨w, ws, -, rfl⟩ := step_arrive hstep
      intro k
      have hold : (s.inbox k ++ [(P.apply s.server w).1]).Pairwise R := by
        obtain ⟨hin, -, hserver⟩ := List.pairwise_append.mp (h k)
        refine List.pairwise_append.mpr
          ⟨hin, List.pairwise_singleton R _, fun d hd d' hd' => ?_⟩
        rw [List.mem_singleton.mp hd']
        exact hnext d (hserver d hd s.server (List.mem_singleton_self _))
      simp only [receive]
      split
      · refine List.pairwise_append.mpr
          ⟨hold, List.pairwise_singleton R _, fun d hd d' hd' => ?_⟩
        rw [List.mem_singleton.mp hd']
        rcases List.mem_append.mp hd with hin | hnew
        · exact (List.pairwise_append.mp hold).2.2 d hin _
            (List.mem_singleton_self _)
        · rw [List.mem_singleton.mp hnew]
          exact hself'
      · exact hold
  | confirm i =>
      obtain ⟨w, ok, rest, -, rfl⟩ := step_confirm hstep
      have hacks : Ordered R
          { s with acks := Function.update s.acks i rest } := h
      exact hacks.settle hself _
  | deliver i =>
      obtain ⟨d, rest, hbox, rfl⟩ := step_deliver hstep
      exact (h.rest hbox).settle hself _
  | skip i =>
      obtain ⟨d, rest, hbox, rfl⟩ := step_skip hstep
      exact h.rest hbox

end Order

/-- A client that moves sees its own new writes on top of what it saw. -/
theorem view_settle_self (r : σ × List W) :
    P.view (P.settle s i r) i =
      r.2.foldl (fun d w => (P.apply d w).1) (P.view s i) := by
  unfold view
  rw [settle_outbox_self, settle_server, List.foldl_append]

theorem view_settle_ne (r : σ × List W) {k : ι} (hk : k ≠ i) :
    P.view (P.settle s i r) k = P.view s k := by
  unfold view
  rw [settle_outbox_ne r hk, settle_server]

/-- A client does not see its own write arrive. -/
theorem view_receive_self {w : W} {ws : List W} (hbox : s.outbox i = w :: ws) :
    P.view (P.receive s i w ws) i = P.view s i := by
  unfold view
  rw [receive_outbox_self, receive_server, hbox, List.foldl_cons]

end Equations

end Program

/-! ## Invariants given part by part -/

/-- Conditions on the parts of a state, relative to what is known.  Knowledge
is read off the state and only grows, so a condition once met stays met.  The
states on their way to a listener have a condition of their own. -/
structure Parts (ι D W σ κ : Type*) where
  know : State ι D W σ → κ
  le : κ → κ → Prop
  doc : κ → D → Prop
  write : κ → ι → W → Prop
  ack : κ → ι → W × Bool → Prop
  shot : κ → ι → D → Prop
  client : κ → ι → σ → Prop

/-- Every part of the state meets its condition. -/
structure Parts.Holds (S : Parts ι D W σ κ) (s : State ι D W σ) : Prop where
  server : S.doc (S.know s) s.server
  outbox : ∀ i, ∀ w ∈ s.outbox i, S.write (S.know s) i w
  acks : ∀ i, ∀ p ∈ s.acks i, S.ack (S.know s) i p
  inbox : ∀ i, ∀ d ∈ s.inbox i, S.shot (S.know s) i d
  clients : ∀ i, S.client (S.know s) i (s.client i)

/-- What client `i` may turn into, with knowledge `k` and server state `d`:
its new state and its writes meet their conditions, and so does the state it
is sent if it begins to listen. -/
structure Parts.Move (S : Parts ι D W σ κ) (P : Program D W σ ε)
    (k : κ) (d : D) (i : ι) (r : σ × List W) : Prop where
  client : S.client k i r.1
  writes : ∀ w ∈ r.2, S.write k i w
  shot : P.listens r.1 = true → S.shot k i d

/-- What has to be shown of a program so that guarded steps keep the
conditions: each handler is looked at alone. -/
structure Parts.Kept [DecidableEq ι] (S : Parts ι D W σ κ)
    (P : Program D W σ ε)
    (ok : State ι D W σ → Action ι ε → Prop) : Prop where
  grows : ∀ s a s', S.Holds s → ok s a → P.step s a = some s' →
    S.le (S.know s) (S.know s')
  doc_mono : ∀ {k k' d}, S.le k k' → S.doc k d → S.doc k' d
  write_mono : ∀ {k k' i w}, S.le k k' → S.write k i w → S.write k' i w
  ack_mono : ∀ {k k' i p}, S.le k k' → S.ack k i p → S.ack k' i p
  shot_mono : ∀ {k k' i d}, S.le k k' → S.shot k i d → S.shot k' i d
  client_mono : ∀ {k k' i c}, S.le k k' → S.client k i c → S.client k' i c
  receive : ∀ s i w ws, S.Holds s → ok s (.arrive i) →
    s.outbox i = w :: ws →
    S.doc (S.know (P.receive s i w ws)) (P.apply s.server w).1 ∧
      S.ack (S.know (P.receive s i w ws)) i (w, (P.apply s.server w).2) ∧
      ∀ j, P.listens (s.client j) = true →
        S.shot (S.know (P.receive s i w ws)) j (P.apply s.server w).1
  react : ∀ s i e r, S.Holds s → ok s (.event i e) →
    P.react s.server (P.view s i) (s.client i) e = some r →
    S.Move P (S.know (P.settle s i r)) s.server i r
  confirm : ∀ s i w b rest s', S.Holds s → ok s (.confirm i) →
    s.acks i = (w, b) :: rest → P.step s (.confirm i) = some s' →
    S.Move P (S.know s') s.server i (P.ack w b (s.client i))
  deliver : ∀ s i d rest s', S.Holds s → ok s (.deliver i) →
    s.inbox i = d :: rest → P.step s (.deliver i) = some s' →
    S.Move P (S.know s') s.server i (P.snapshot (s.outbox i) d (s.client i))

section PartsRule

variable [DecidableEq ι] {S : Parts ι D W σ κ} {P : Program D W σ ε}
  {ok : State ι D W σ → Action ι ε → Prop}

/-- A family of lists with one of them shortened. -/
theorem update_subset {α : Type*} {f : ι → List α} {i : ι} {rest : List α}
    (hrest : rest ⊆ f i) (n : ι) : Function.update f i rest n ⊆ f n := by
  by_cases hn : n = i
  · subst hn
    rw [Function.update_self]
    exact hrest
  · rw [Function.update_of_ne hn]
    exact List.Subset.refl (f n)

/-- What held of the rest of a list holds of it in an updated family. -/
theorem forall_mem_update {α : Type*} {f : ι → List α} {i : ι}
    {rest : List α} {Q : ι → α → Prop} (hrest : rest ⊆ f i)
    (h : ∀ j, ∀ x ∈ f j, Q j x) :
    ∀ j, ∀ x ∈ Function.update f i rest j, Q j x :=
  fun j x hx => h j x (update_subset hrest j hx)

/-- Taking a confirmation off its queue keeps the conditions, and so does taking
off a state that was on its way to a listener. -/
theorem Parts.Holds.confirmed {s : State ι D W σ} {i : ι}
    {rest : List (W × Bool)} (h : S.Holds s) (hrest : rest ⊆ s.acks i)
    (hknow : S.know { s with acks := Function.update s.acks i rest } =
      S.know s) :
    S.Holds { s with acks := Function.update s.acks i rest } := by
  obtain ⟨hserver, hout, hacks, hin, hcli⟩ := h
  rw [← hknow] at hserver hout hacks hin hcli
  exact ⟨hserver, hout, forall_mem_update hrest hacks, hin, hcli⟩

theorem Parts.Holds.delivered {s : State ι D W σ} {i : ι} {rest : List D}
    (h : S.Holds s) (hrest : rest ⊆ s.inbox i)
    (hknow : S.know { s with inbox := Function.update s.inbox i rest } =
      S.know s) :
    S.Holds { s with inbox := Function.update s.inbox i rest } := by
  obtain ⟨hserver, hout, hacks, hin, hcli⟩ := h
  rw [← hknow] at hserver hout hacks hin hcli
  exact ⟨hserver, hout, hacks, forall_mem_update hrest hin, hcli⟩

/-- A move of one client keeps the conditions. -/
theorem Parts.Move.holds {s : State ι D W σ} {i : ι} {r : σ × List W}
    (hmove : S.Move P (S.know (P.settle s i r)) s.server i r)
    (hdoc : S.doc (S.know (P.settle s i r)) s.server)
    (hout : ∀ j, ∀ w ∈ s.outbox j, S.write (S.know (P.settle s i r)) j w)
    (hacks : ∀ j, ∀ p ∈ s.acks j, S.ack (S.know (P.settle s i r)) j p)
    (hin : ∀ j, ∀ d ∈ s.inbox j, S.shot (S.know (P.settle s i r)) j d)
    (hcli : ∀ j, S.client (S.know (P.settle s i r)) j (s.client j)) :
    S.Holds (P.settle s i r) := by
  refine ⟨hdoc, ?_, hacks, ?_, ?_⟩
  · intro j w hmem
    rcases Program.mem_settle_outbox hmem with hold | ⟨rfl, hnew⟩
    · exact hout j w hold
    · exact hmove.writes w hnew
  · intro j d hmem
    rcases Program.mem_settle_inbox hmem with hold | ⟨rfl, hlis, rfl⟩
    · exact hin j d hold
    · exact hmove.shot hlis
  · intro j
    by_cases hj : j = i
    · subst hj
      rw [Program.settle_client_self]
      exact hmove.client
    · rw [Program.settle_client_ne r hj]
      exact hcli j

theorem Parts.Kept.step (hkept : S.Kept P ok) {s s' : State ι D W σ}
    {a : Action ι ε} (h : S.Holds s) (hok : ok s a)
    (hstep : P.step s a = some s') : S.Holds s' := by
  have hle := hkept.grows s a s' h hok hstep
  have hdoc := hkept.doc_mono hle h.server
  have hout := fun j w hw => hkept.write_mono hle (h.outbox j w hw)
  have hacks := fun j p hp => hkept.ack_mono hle (h.acks j p hp)
  have hin := fun j d hd => hkept.shot_mono hle (h.inbox j d hd)
  have hcli := fun j => hkept.client_mono hle (h.clients j)
  cases a with
  | event i e =>
      obtain ⟨r, hr, rfl⟩ := Program.step_event hstep
      exact (hkept.react s i e r h hok hr).holds hdoc hout hacks hin hcli
  | arrive i =>
      obtain ⟨w, ws, hbox, rfl⟩ := Program.step_arrive hstep
      obtain ⟨hd, ha, hshot⟩ := hkept.receive s i w ws h hok hbox
      refine ⟨hd, ?_, ?_, ?_, hcli⟩
      · exact fun j v hv => hout j v (Program.mem_receive_outbox hbox hv)
      · intro j p hp
        rcases Program.mem_receive_acks hp with hold | ⟨rfl, rfl⟩
        · exact hacks j p hold
        · exact ha
      · intro j d hd'
        rcases Program.mem_receive_inbox hd' with hold | ⟨hlis, rfl⟩
        · exact hin j d hold
        · exact hshot j hlis
  | confirm i =>
      obtain ⟨w, b, rest, hbox, rfl⟩ := Program.step_confirm hstep
      have hmove := hkept.confirm s i w b rest _ h hok hbox hstep
      have hrest : rest ⊆ s.acks i := subset_of_eq_cons hbox
      exact hmove.holds hdoc hout (forall_mem_update hrest hacks) hin hcli
  | deliver i =>
      obtain ⟨d, rest, hbox, rfl⟩ := Program.step_deliver hstep
      have hmove := hkept.deliver s i d rest _ h hok hbox hstep
      have hrest : rest ⊆ s.inbox i := subset_of_eq_cons hbox
      exact hmove.holds hdoc hout hacks (forall_mem_update hrest hin) hcli
  | skip i =>
      obtain ⟨d, rest, hbox, rfl⟩ := Program.step_skip hstep
      have hrest : rest ⊆ s.inbox i := subset_of_eq_cons hbox
      exact ⟨hdoc, hout, hacks, forall_mem_update hrest hin, hcli⟩

/-- Conditions that every handler keeps hold after every guarded run. -/
theorem Parts.Kept.run (hkept : S.Kept P ok) {s t : State ι D W σ}
    {acts : List (Action ι ε)} (h : S.Holds s)
    (hok : Runs.Along P.step ok s acts)
    (hrun : Runs.run P.step s acts = some t) : S.Holds t :=
  Runs.invariant (fun _ _ _ => hkept.step) h hok hrun

end PartsRule

end Cloud
