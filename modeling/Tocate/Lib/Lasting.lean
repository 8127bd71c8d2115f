import Tocate.Lib.Cloud

/-!
# Lasting attributes

An attribute of the database is something it may not have yet.  A write on
its way to the server either keeps the attribute or, whatever else the
database holds, takes it away.  The question is when an attribute that the
server has once had is never lost again.

The answer is exact for runs in which every write arrives: nothing that takes
the attribute away may be issued once the server has it, and nothing of the
kind may be in flight when the server gets it.
-/

namespace Cloud

variable {ι D W σ ε α : Type*} [DecidableEq ι]

namespace Program

/-- The writes that an action issues. -/
def issues (P : Program D W σ ε) (s : State ι D W σ) : Action ι ε → List W
  | .event i e =>
      match P.react s.server (P.view s i) (s.client i) e with
      | none => []
      | some r => r.2
  | .arrive _ => []
  | .confirm i =>
      match s.acks i with
      | [] => []
      | (w, ok) :: _ => (P.ack w ok (s.client i)).2
  | .deliver i =>
      match s.inbox i with
      | [] => []
      | d :: _ => (P.snapshot (s.outbox i) d (s.client i)).2
  | .skip _ => []

section Steps

variable {P : Program D W σ ε} {s s' : State ι D W σ} {a : Action ι ε}

omit [DecidableEq ι] in
theorem issues_event {i : ι} {e : ε} {r : σ × List W}
    (h : P.react s.server (P.view s i) (s.client i) e = some r) :
    P.issues s (.event i e) = r.2 := by
  simp only [issues, h]

omit [DecidableEq ι] in
theorem of_mem_issues {i : ι} {e : ε} {w : W}
    (h : w ∈ P.issues s (.event i e)) :
    ∃ r, P.react s.server (P.view s i) (s.client i) e = some r ∧ w ∈ r.2 := by
  simp only [issues] at h
  split at h
  · cases h
  next r hr => exact ⟨r, hr, h⟩

/-- An action either lets a write arrive and issues nothing, or leaves the
server alone and adds what it issues to the writes in flight. -/
theorem step_flight (h : P.step s a = some s') :
    (∃ i w ws, a = .arrive i ∧ s.outbox i = w :: ws ∧
      s' = P.receive s i w ws) ∨
    (s'.server = s.server ∧ (∀ i, a ≠ .arrive i) ∧
      ∃ i, (∀ k, s'.outbox k =
          if k = i then s.outbox k ++ P.issues s a else s.outbox k) ∧
        ∀ k, ∀ d ∈ s'.inbox k, d ∈ s.inbox k ∨ d = s.server) := by
  have hsettle : ∀ (s₀ : State ι D W σ) (i : ι) (r : σ × List W),
      s₀.outbox = s.outbox → ∀ k, (P.settle s₀ i r).outbox k =
        if k = i then s.outbox k ++ r.2 else s.outbox k := by
    intro s₀ i r hbox k
    by_cases hk : k = i
    · subst hk
      rw [if_pos rfl, settle_outbox_self, hbox]
    · rw [if_neg hk, settle_outbox_ne r hk, hbox]
  cases a with
  | event i e =>
      right
      obtain ⟨r, hr, rfl⟩ := step_event h
      refine ⟨rfl, nofun, i, ?_, ?_⟩
      · simp only [issues, hr]
        exact hsettle s i r rfl
      · intro k d hd
        rcases mem_settle_inbox hd with hold | ⟨-, -, hnew⟩
        · exact Or.inl hold
        · exact Or.inr hnew
  | arrive i =>
      left
      obtain ⟨w, ws, hbox, hs⟩ := step_arrive h
      exact ⟨i, w, ws, rfl, hbox, hs⟩
  | confirm i =>
      right
      obtain ⟨w, ok, rest, hacks, rfl⟩ := step_confirm h
      refine ⟨rfl, nofun, i, ?_, ?_⟩
      · simp only [issues, hacks]
        exact hsettle _ i _ rfl
      · intro k d hd
        rcases mem_settle_inbox hd with hold | ⟨-, -, hnew⟩
        · exact Or.inl hold
        · exact Or.inr hnew
  | deliver i =>
      right
      obtain ⟨d, rest, hbox, rfl⟩ := step_deliver h
      refine ⟨rfl, nofun, i, ?_, ?_⟩
      · simp only [issues, hbox]
        exact hsettle _ i _ rfl
      · intro k v hv
        rcases mem_settle_inbox hv with hold | ⟨-, -, hnew⟩
        · left
          have hrest : rest ⊆ s.inbox i := subset_of_eq_cons hbox
          exact forall_mem_update (Q := fun k v => v ∈ s.inbox k) hrest
            (fun _ _ hx => hx) k v hold
        · exact Or.inr hnew
  | skip i =>
      right
      obtain ⟨d, rest, hbox, rfl⟩ := step_skip h
      refine ⟨rfl, nofun, i, ?_, ?_⟩
      · intro k
        simp [issues]
      · intro k v hv
        left
        have hrest : rest ⊆ s.inbox i := subset_of_eq_cons hbox
        exact forall_mem_update (Q := fun k v => v ∈ s.inbox k) hrest
          (fun _ _ hx => hx) k v hv

theorem step_issued (h : P.step s a = some s') :
    s'.issued = s.issued ++ P.issues s a := by
  cases a with
  | event i e =>
      obtain ⟨r, hr, rfl⟩ := step_event h
      rw [settle_issued, issues_event hr]
  | arrive i =>
      obtain ⟨w, ws, -, rfl⟩ := step_arrive h
      rw [receive_issued, issues, List.append_nil]
  | confirm i =>
      obtain ⟨w, ok, rest, hacks, rfl⟩ := step_confirm h
      simp only [settle_issued, issues, hacks]
  | deliver i =>
      obtain ⟨d, rest, hbox, rfl⟩ := step_deliver h
      simp only [settle_issued, issues, hbox]
  | skip i =>
      obtain ⟨d, rest, -, rfl⟩ := step_skip h
      rw [issues, List.append_nil]

/-- What is in flight has been issued. -/
theorem step_subset_issued (h : P.step s a = some s')
    (hsub : ∀ i, s.outbox i ⊆ s.issued) (i : ι) : s'.outbox i ⊆ s'.issued := by
  rw [step_issued h]
  rcases step_flight h with ⟨k, w, ws, rfl, hbox, rfl⟩ | ⟨-, -, k, hout, -⟩
  · intro v hv
    exact List.mem_append_left _ (hsub i (mem_receive_outbox hbox hv))
  · rw [hout i]
    split
    · exact List.append_subset.mpr
        ⟨List.Subset.trans (hsub i) (List.subset_append_left _ _),
          List.subset_append_right _ _⟩
    · exact List.Subset.trans (hsub i) (List.subset_append_left _ _)

/-- A write in flight stays in flight until it arrives. -/
theorem mem_outbox_step {a : Action ι ε} (hstep : P.step s a = some s')
    {k : ι} {w : W} (hw : w ∈ s.outbox k) :
    w ∈ s'.outbox k ∨
      ∃ ws, a = .arrive k ∧ s.outbox k = w :: ws ∧
        s'.server = (P.apply s.server w).1 := by
  rcases step_flight hstep with ⟨i, v, ws, rfl, hbox, rfl⟩ | ⟨-, -, i, hout, -⟩
  · by_cases hk : k = i
    · subst hk
      rw [hbox] at hw
      rcases List.mem_cons.mp hw with rfl | hrest
      · exact Or.inr ⟨ws, rfl, hbox, rfl⟩
      · left
        rw [receive_outbox_self]
        exact hrest
    · left
      rw [receive_outbox_ne v ws hk]
      exact hw
  · left
    rw [hout k]
    split
    · exact List.mem_append_left _ hw
    · exact hw

end Steps

end Program

/-- An attribute of the database and what keeps it.  Writes that meet `ok` are
the ones that can be in flight. -/
structure Attribute (P : Program D W σ ε) (α : Type*) where
  ok : W → Prop
  of : D → Option α
  keeps : α → W → Prop
  kept_iff : ∀ {d w x}, ok w → of d = some x →
    (of (P.apply d w).1 = some x ↔ keeps x w)

namespace Attribute

variable {P : Program D W σ ε} (A : Attribute P α)

/-- Across the two states the server has not lost the attribute, and whatever
has been sent to a listener in between carries it. -/
def Lasts (s s' : State ι D W σ) : Prop :=
  ∀ x, A.of s.server = some x →
    A.of s'.server = some x ∧
      ∀ k, ∀ d ∈ s'.inbox k, d ∈ s.inbox k ∨ A.of d = some x

/-- Nothing is issued that takes away what the server has, and nothing that
would take the attribute away is in flight when the server gets it. -/
structure Respects (s : State ι D W σ) (a : Action ι ε) : Prop where
  issue : ∀ x, A.of s.server = some x → ∀ w ∈ P.issues s a, A.keeps x w
  arrival : ∀ s' x, P.step s a = some s' → A.of s.server = none →
    A.of s'.server = some x → ∀ i, ∀ w ∈ s'.outbox i, A.keeps x w

/-- Everything in flight keeps what the server has. -/
def Safe (s : State ι D W σ) : Prop :=
  ∀ x, A.of s.server = some x → ∀ i, ∀ w ∈ s.outbox i, A.keeps x w

omit [DecidableEq ι] in
theorem lasts_refl (s : State ι D W σ) : A.Lasts s s :=
  fun _ hx => ⟨hx, fun _ _ hd => Or.inl hd⟩

omit [DecidableEq ι] in
theorem Lasts.trans {s t u : State ι D W σ} (h : A.Lasts s t)
    (h' : A.Lasts t u) : A.Lasts s u := by
  intro x hx
  obtain ⟨ht, hin⟩ := h x hx
  obtain ⟨hu, hin'⟩ := h' x ht
  refine ⟨hu, ?_⟩
  intro k d hd
  rcases hin' k d hd with hold | hnew
  · exact hin k d hold
  · exact Or.inr hnew

/-- Across a step nothing but the server can lose the attribute. -/
theorem lasts_iff {s s' : State ι D W σ} {a : Action ι ε}
    (hstep : P.step s a = some s') :
    A.Lasts s s' ↔
      ∀ x, A.of s.server = some x → A.of s'.server = some x := by
  constructor
  · exact fun h x hx => (h x hx).1
  · intro h x hx
    refine ⟨h x hx, fun k d hd => ?_⟩
    rcases Program.step_flight hstep with ⟨i, w, ws, -, -, rfl⟩ |
      ⟨-, -, i, -, hin⟩
    · rcases Program.mem_receive_inbox hd with hold | ⟨-, rfl⟩
      · exact Or.inl hold
      · exact Or.inr (h x hx)
    · rcases hin k d hd with hold | rfl
      · exact Or.inl hold
      · exact Or.inr hx

variable {A} {I : State ι D W σ → Prop}

/-- An action that lets no write arrive gives the server no attribute. -/
theorem Respects.of_issue {s : State ι D W σ} {a : Action ι ε}
    (hno : ∀ i, a ≠ .arrive i)
    (h : ∀ x, A.of s.server = some x → ∀ w ∈ P.issues s a, A.keeps x w) :
    A.Respects s a := by
  refine ⟨h, fun s' x hstep hnone hsome => ?_⟩
  rcases Program.step_flight hstep with ⟨i, -, -, harrive, -⟩ | ⟨hserver, -⟩
  · exact absurd harrive (hno i)
  · rw [hserver, hnone] at hsome
    exact absurd hsome nofun

theorem Respects.of_quiet {s : State ι D W σ} {a : Action ι ε}
    (hno : ∀ i, a ≠ .arrive i) (h : P.issues s a = []) : A.Respects s a :=
  .of_issue hno fun _ _ _ hw => absurd (h ▸ hw) List.not_mem_nil

/-- The write that arrives is what gives the attribute to the server. -/
theorem respects_arrive {s : State ι D W σ} {i : ι} {w : W} {ws : List W}
    (hbox : s.outbox i = w :: ws) :
    A.Respects s (.arrive i) ↔ ∀ x, A.of s.server = none →
      A.of (P.apply s.server w).1 = some x →
        ∀ k, ∀ v ∈ (P.receive s i w ws).outbox k, A.keeps x v := by
  have hstep : P.step s (.arrive i) = some (P.receive s i w ws) := by
    simp only [Program.step, hbox]
  constructor
  · exact fun h x hnone hsome => h.arrival _ x hstep hnone hsome
  · intro h
    refine ⟨fun _ _ v hv => absurd hv List.not_mem_nil, ?_⟩
    intro s' x hs' hnone hsome
    rw [hstep] at hs'
    obtain rfl := Option.some.inj hs'
    exact h x hnone hsome

/-- One respectful step: what is in flight stays safe and the attribute
lasts. -/
theorem Safe.step (hI : ∀ s, I s → ∀ i, ∀ w ∈ s.outbox i, A.ok w)
    {s s' : State ι D W σ} {a : Action ι ε} (hs : I s) (hsafe : A.Safe s)
    (hok : A.Respects s a) (hstep : P.step s a = some s') :
    A.Safe s' ∧ A.Lasts s s' := by
  rcases Program.step_flight hstep with ⟨i, w, ws, rfl, hbox, rfl⟩ |
    ⟨hserver, -, i, hout, hin⟩
  · have hw : w ∈ s.outbox i := mem_of_eq_cons hbox
    have hlast : ∀ x, A.of s.server = some x →
        A.of (P.apply s.server w).1 = some x := fun x hx =>
      (A.kept_iff (hI s hs i w hw) hx).mpr (hsafe x hx i w hw)
    constructor
    · intro x hx k v hv
      cases hbefore : A.of s.server with
      | none => exact hok.arrival _ x hstep hbefore hx k v hv
      | some y =>
          have hy := hlast y hbefore
          rw [Program.receive_server, hy] at hx
          cases hx
          exact hsafe x hbefore k v (Program.mem_receive_outbox hbox hv)
    · intro x hx
      refine ⟨hlast x hx, ?_⟩
      intro k d hd
      rcases Program.mem_receive_inbox hd with hold | ⟨-, rfl⟩
      · exact Or.inl hold
      · exact Or.inr (hlast x hx)
  · constructor
    · intro x hx k v hv
      rw [hserver] at hx
      rw [hout k] at hv
      split at hv
      · rcases List.mem_append.mp hv with hold | hnew
        · exact hsafe x hx k v hold
        · exact hok.issue x hx v hnew
      · exact hsafe x hx k v hv
    · intro x hx
      refine ⟨by rw [hserver]; exact hx, ?_⟩
      intro k d hd
      rcases hin k d hd with hold | rfl
      · exact Or.inl hold
      · exact Or.inr hx

/-- A run of respectful steps loses nothing. -/
theorem lasts_of_respects
    (hI : ∀ s, I s → ∀ i, ∀ w ∈ s.outbox i, A.ok w)
    (hkept : ∀ s a s', I s → P.step s a = some s' → I s')
    {s : State ι D W σ} {acts : List (Action ι ε)} (hs : I s)
    (hsafe : A.Safe s) (h : Runs.Along P.step A.Respects s acts) :
    Runs.Along P.step (fun s a => ∀ s', P.step s a = some s' → A.Lasts s s')
      s acts := by
  induction acts generalizing s with
  | nil => trivial
  | cons a acts ih =>
      constructor
      · exact fun s' hstep => (hsafe.step hI hs h.1 hstep).2
      · intro s' hstep
        exact ih (hkept s a s' hs hstep) (hsafe.step hI hs h.1 hstep).1
          (h.2 s' hstep)

/-- What takes the attribute away does so when it arrives. -/
theorem not_lasts_of_pending
    (hI : ∀ s, I s → ∀ i, ∀ w ∈ s.outbox i, A.ok w)
    (hkept : ∀ s a s', I s → P.step s a = some s' → I s')
    {s t : State ι D W σ} {acts : List (Action ι ε)} (hs : I s)
    (hrun : Runs.run P.step s acts = some t) (hend : ∀ i, t.outbox i = [])
    {x : α} (hx : A.of s.server = some x) {i : ι} {w : W}
    (hw : w ∈ s.outbox i) (hbreaks : ¬A.keeps x w) :
    ¬Runs.Along P.step
      (fun s a => ∀ s', P.step s a = some s' → A.Lasts s s') s acts := by
  induction acts generalizing s with
  | nil =>
      cases hrun
      rw [hend i] at hw
      cases hw
  | cons a acts ih =>
      intro hlasts
      obtain ⟨s', hstep, hrest⟩ := Runs.run_cons_eq_some hrun
      have hx' := (hlasts.1 s' hstep x hx).1
      refine ih (hkept s a s' hs hstep) hrest hx' ?_ (hlasts.2 s' hstep)
      rcases Program.step_flight hstep with ⟨k, v, vs, -, hbox, rfl⟩ |
        ⟨-, -, k, hout, -⟩
      · by_cases hik : i = k
        · subst hik
          rw [hbox] at hw
          rw [Program.receive_outbox_self]
          rcases List.mem_cons.mp hw with rfl | hmem
          · exact absurd ((A.kept_iff (hI s hs i w (by rw [hbox]; exact hw))
              hx).mp hx') hbreaks
          · exact hmem
        · rw [Program.receive_outbox_ne v vs hik]
          exact hw
      · rw [hout i]
        split
        · exact List.mem_append_left _ hw
        · exact hw

/-- In a run that ends with nothing in flight the attribute is never lost
exactly when every step respects it. -/
theorem respects_of_lasts
    (hI : ∀ s, I s → ∀ i, ∀ w ∈ s.outbox i, A.ok w)
    (hkept : ∀ s a s', I s → P.step s a = some s' → I s')
    {s t : State ι D W σ} {acts : List (Action ι ε)} (hs : I s)
    (hrun : Runs.run P.step s acts = some t) (hend : ∀ i, t.outbox i = [])
    (h : Runs.Along P.step
      (fun s a => ∀ s', P.step s a = some s' → A.Lasts s s') s acts) :
    Runs.Along P.step A.Respects s acts := by
  induction acts generalizing s with
  | nil => trivial
  | cons a acts ih =>
      obtain ⟨s', hstep, hrest⟩ := Runs.run_cons_eq_some hrun
      have hs' := hkept s a s' hs hstep
      have hpending : ∀ x, A.of s'.server = some x → ∀ i, ∀ w ∈ s'.outbox i,
          A.keeps x w := by
        intro x hx i w hw
        by_contra hbreaks
        exact not_lasts_of_pending hI hkept hs' hrest hend hx hw hbreaks
          (h.2 s' hstep)
      refine ⟨⟨?_, ?_⟩, fun t' ht' => ?_⟩
      · intro x hx w hw
        have hx' := (h.1 s' hstep x hx).1
        rcases Program.step_flight hstep with ⟨k, v, vs, rfl, -, -⟩ |
          ⟨-, -, k, hout, -⟩
        · cases hw
        · refine hpending x hx' k w ?_
          rw [hout k, if_pos rfl]
          exact List.mem_append_right _ hw
      · intro t' x ht' _ hx
        rw [hstep] at ht'
        cases ht'
        exact hpending x hx
      · rw [hstep] at ht'
        cases ht'
        exact ih hs' hrest (h.2 s' hstep)

end Attribute

end Cloud
