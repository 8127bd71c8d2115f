import Mathlib.Data.List.Basic
import Mathlib.Data.List.Induction
import Mathlib.Order.RelClasses

/-!
# Runs of a partial step function

A system is given by a partial function `step`: what an action makes of a
state, or `none` where the action cannot happen.  A run is a list of actions
performed one after another.  A run is *guarded* when every one of its actions
meets a condition on the state it starts from; an invariant that guarded steps
preserve holds after every guarded run.

A *ghost* is a value computed along a run from its steps.  Carrying it in the
state, by `ghost`, lets conditions and invariants speak of the past of a run.
-/

namespace Runs

variable {σ α β : Type*}

/-- The state after the given actions; `none` as soon as one cannot happen. -/
def run (step : σ → α → Option σ) : σ → List α → Option σ
  | s, [] => some s
  | s, a :: acts =>
      match step s a with
      | none => none
      | some s' => run step s' acts

/-- Every action of the run meets `ok` in the state where it happens. -/
def Along (step : σ → α → Option σ) (ok : σ → α → Prop) : σ → List α → Prop
  | _, [] => True
  | s, a :: acts => ok s a ∧ ∀ s', step s a = some s' → Along step ok s' acts

/-- Whether a run is guarded can be computed. -/
instance instDecidableAlong (step : σ → α → Option σ) (ok : σ → α → Prop)
    [∀ s a, Decidable (ok s a)] :
    (s : σ) → (acts : List α) → Decidable (Along step ok s acts)
  | _, [] => isTrue trivial
  | s, a :: acts =>
      match h : step s a with
      | none =>
          decidable_of_iff (ok s a)
            ⟨fun hok => ⟨hok, by simp [h]⟩, fun hok => hok.1⟩
      | some s' =>
          have : Decidable (Along step ok s' acts) :=
            instDecidableAlong step ok s' acts
          decidable_of_iff (ok s a ∧ Along step ok s' acts)
            ⟨fun hok => ⟨hok.1, by simpa [h] using hok.2⟩,
              fun hok => ⟨hok.1, hok.2 s' h⟩⟩

/-- The same steps with a value that each of them updates. -/
def ghost (step : σ → α → Option σ) (g : σ → α → β → β) :
    σ × β → α → Option (σ × β)
  | (s, b), a => (step s a).map fun s' => (s', g s a b)

@[simp] theorem run_nil (step : σ → α → Option σ) (s : σ) :
    run step s [] = some s := rfl

theorem run_cons (step : σ → α → Option σ) (s : σ) (a : α) (acts : List α) :
    run step s (a :: acts) = (step s a).bind fun s' => run step s' acts := by
  cases h : step s a <;> simp [run, h]

theorem run_cons_eq_some {step : σ → α → Option σ} {s t : σ} {a : α}
    {acts : List α} (h : run step s (a :: acts) = some t) :
    ∃ s', step s a = some s' ∧ run step s' acts = some t := by
  rw [run_cons] at h
  exact Option.bind_eq_some_iff.mp h

theorem run_append (step : σ → α → Option σ) (s : σ) (xs ys : List α) :
    run step s (xs ++ ys) = (run step s xs).bind fun s' => run step s' ys := by
  induction xs generalizing s with
  | nil => rfl
  | cons a xs ih =>
      rw [List.cons_append, run_cons, run_cons, Option.bind_assoc]
      congr 1
      funext s'
      exact ih s'

/-- A run goes on. -/
theorem run_snoc {step : σ → α → Option σ} {s t t' : σ} {a : α}
    {acts : List α} (hrun : run step s acts = some t)
    (hstep : step t a = some t') : run step s (acts ++ [a]) = some t' := by
  rw [run_append, hrun, Option.bind_some, run_cons, hstep]
  rfl

theorem Along.mono {step : σ → α → Option σ} {ok ok' : σ → α → Prop}
    (himp : ∀ s a, ok s a → ok' s a) {s : σ} {acts : List α}
    (h : Along step ok s acts) : Along step ok' s acts := by
  induction acts generalizing s with
  | nil => trivial
  | cons a acts ih => exact ⟨himp s a h.1, fun s' hs => ih (h.2 s' hs)⟩

theorem Along.and {step : σ → α → Option σ} {ok ok' : σ → α → Prop}
    {s : σ} {acts : List α} (h : Along step ok s acts)
    (h' : Along step ok' s acts) :
    Along step (fun s a => ok s a ∧ ok' s a) s acts := by
  induction acts generalizing s with
  | nil => trivial
  | cons a acts ih =>
      exact ⟨⟨h.1, h'.1⟩, fun s' hs => ih (h.2 s' hs) (h'.2 s' hs)⟩

theorem along_forall_iff {κ : Type*} {step : σ → α → Option σ}
    {ok : κ → σ → α → Prop} {s : σ} {acts : List α} :
    Along step (fun s a => ∀ k, ok k s a) s acts ↔
      ∀ k, Along step (ok k) s acts := by
  induction acts generalizing s with
  | nil => exact iff_of_true trivial fun _ => trivial
  | cons a acts ih =>
      constructor
      · exact fun h k => ⟨h.1 k, fun s' hs => ih.mp (h.2 s' hs) k⟩
      · exact fun h => ⟨fun k => (h k).1, fun s' hs =>
          ih.mpr fun k => (h k).2 s' hs⟩

theorem Along.of_forall {step : σ → α → Option σ} {ok : σ → α → Prop}
    (h : ∀ s a, ok s a) (s : σ) (acts : List α) : Along step ok s acts := by
  induction acts generalizing s with
  | nil => trivial
  | cons a acts ih => exact ⟨h s a, fun s' _ => ih s'⟩

theorem Along.of_mem {step : σ → α → Option σ} {P : α → Prop} {s : σ}
    {acts : List α} (h : ∀ a ∈ acts, P a) :
    Along step (fun _ a => P a) s acts := by
  induction acts generalizing s with
  | nil => trivial
  | cons a acts ih =>
      exact ⟨h a List.mem_cons_self, fun s' _ =>
        ih fun b hb => h b (List.mem_cons_of_mem a hb)⟩

/-- What holds at the end of a run, and held before every step after which it
holds, has held all along. -/
theorem Along.of_end {step : σ → α → Option σ} {P : σ → Prop}
    (hback : ∀ s a s', step s a = some s' → P s' → P s) {s t : σ}
    {acts : List α} (hrun : run step s acts = some t) (ht : P t) :
    P s ∧ Along step (fun s a => ∀ s', step s a = some s' → P s') s acts := by
  induction acts generalizing s with
  | nil =>
      cases hrun
      exact ⟨ht, trivial⟩
  | cons a acts ih =>
      obtain ⟨s', hstep, hrest⟩ := run_cons_eq_some hrun
      obtain ⟨hs', hnext⟩ := ih hrest
      refine ⟨hback s a s' hstep hs', fun t' ht' => ?_, fun t' ht' => ?_⟩
      · rwa [← Option.some.inj (hstep.symm.trans ht')]
      · rwa [← Option.some.inj (hstep.symm.trans ht')]

/-- The part of a guarded run after a prefix is guarded as well. -/
theorem Along.drop {step : σ → α → Option σ} {ok : σ → α → Prop}
    {s t : σ} {xs ys : List α}
    (h : Along step ok s (xs ++ ys)) (hrun : run step s xs = some t) :
    Along step ok t ys := by
  induction xs generalizing s with
  | nil =>
      cases hrun
      exact h
  | cons a xs ih =>
      obtain ⟨s', hstep, hrest⟩ := run_cons_eq_some hrun
      exact ih (h.2 s' hstep) hrest

/-- Every prefix of a guarded run is guarded. -/
theorem Along.take {step : σ → α → Option σ} {ok : σ → α → Prop}
    {s : σ} {xs ys : List α} (h : Along step ok s (xs ++ ys)) :
    Along step ok s xs := by
  induction xs generalizing s with
  | nil => trivial
  | cons a xs ih => exact ⟨h.1, fun s' hs => ih (h.2 s' hs)⟩

/-- A run is guarded when its two parts are. -/
theorem along_append_iff {step : σ → α → Option σ} {ok : σ → α → Prop}
    {s : σ} {xs ys : List α} :
    Along step ok s (xs ++ ys) ↔
      Along step ok s xs ∧ ∀ t, run step s xs = some t → Along step ok t ys := by
  refine ⟨fun h => ⟨h.take, fun t ht => h.drop ht⟩, ?_⟩
  rintro ⟨hxs, hys⟩
  induction xs generalizing s with
  | nil => exact hys s rfl
  | cons a xs ih =>
      refine ⟨hxs.1, fun s' hstep => ih (hxs.2 s' hstep) fun t ht => hys t ?_⟩
      rw [run_cons, hstep]
      exact ht

/-- Where every action can happen, a run is a fold. -/
theorem run_total (f : σ → α → σ) (s : σ) (acts : List α) :
    run (fun s a => some (f s a)) s acts = some (acts.foldl f s) := by
  induction acts generalizing s with
  | nil => rfl
  | cons a acts ih => exact ih (f s a)

/-- Two conditions that agree on the steps from states of an invariant guard
the same runs. -/
theorem Along.congr {step : σ → α → Option σ} {ok ok' : σ → α → Prop}
    {I : σ → Prop} (hkept : ∀ s a s', I s → step s a = some s' → I s')
    (hiff : ∀ s a s', I s → step s a = some s' → (ok s a ↔ ok' s a))
    {s t : σ} {acts : List α} (hs : I s) (hrun : run step s acts = some t) :
    Along step ok s acts ↔ Along step ok' s acts := by
  induction acts generalizing s with
  | nil => exact Iff.rfl
  | cons a acts ih =>
      obtain ⟨s', hstep, hrest⟩ := run_cons_eq_some hrun
      have hhead := hiff s a s' hs hstep
      have htail := ih (hkept s a s' hs hstep) hrest
      constructor
      · rintro ⟨hok, hnext⟩
        refine ⟨hhead.mp hok, fun t' ht' => ?_⟩
        rw [hstep] at ht'
        cases ht'
        exact htail.mp (hnext s' hstep)
      · rintro ⟨hok, hnext⟩
        refine ⟨hhead.mpr hok, fun t' ht' => ?_⟩
        rw [hstep] at ht'
        cases ht'
        exact htail.mpr (hnext s' hstep)

/-- A reflexive and transitive relation relates the two ends of every stretch
of a run when it holds across every step. -/
theorem along_iff_stretch (step : σ → α → Option σ) {R : σ → σ → Prop}
    (hrefl : ∀ s, R s s) (htrans : ∀ s t u, R s t → R t u → R s u)
    (s : σ) (acts : List α) :
    Along step (fun s a => ∀ s', step s a = some s' → R s s') s acts ↔
      ∀ xs ys zs s₁ s₂, acts = xs ++ (ys ++ zs) →
        run step s xs = some s₁ → run step s₁ ys = some s₂ → R s₁ s₂ := by
  constructor
  · rintro h xs ys zs s₁ s₂ rfl hxs hys
    have hys' := (h.drop hxs).take
    clear h hxs
    induction ys generalizing s₁ with
    | nil =>
        cases hys
        exact hrefl _
    | cons a ys ih =>
        obtain ⟨s', hstep, hrest⟩ := run_cons_eq_some hys
        exact htrans s₁ s' s₂ (hys'.1 s' hstep)
          (ih s' hrest (hys'.2 s' hstep))
  · intro h
    induction acts generalizing s with
    | nil => trivial
    | cons a acts ih =>
        constructor
        · intro s' hstep
          refine h [] [a] acts s s' rfl rfl ?_
          rw [run_cons, hstep]
          rfl
        · intro s' hstep
          apply ih
          intro xs ys zs s₁ s₂ hacts hxs hys
          refine h (a :: xs) ys zs s₁ s₂ ?_ ?_ hys
          · rw [hacts]
            rfl
          · rw [run_cons, hstep]
            exact hxs

/-- The invariant rule: what holds at the start and is kept by every guarded
step holds after every guarded run. -/
theorem invariant {step : σ → α → Option σ} {ok : σ → α → Prop}
    {I : σ → Prop}
    (hstep : ∀ s a s', I s → ok s a → step s a = some s' → I s')
    {s t : σ} {acts : List α} (hinit : I s) (hok : Along step ok s acts)
    (hrun : run step s acts = some t) : I t := by
  induction acts generalizing s with
  | nil =>
      cases hrun
      exact hinit
  | cons a acts ih =>
      obtain ⟨s', hs', hrest⟩ := run_cons_eq_some hrun
      exact ih (hstep s a s' hinit hok.1 hs') (hok.2 s' hs') hrest

/-- The invariant rule where every step keeps the invariant. -/
theorem invariant_of_step {step : σ → α → Option σ} {I : σ → Prop}
    (hstep : ∀ s a s', I s → step s a = some s' → I s') {s t : σ}
    {acts : List α} (hinit : I s) (hrun : run step s acts = some t) : I t := by
  have hok : Along step (fun _ _ => True) s acts :=
    Along.of_forall (fun _ _ => trivial) s acts
  exact invariant (fun s a s' hs _ hs' => hstep s a s' hs hs') hinit hok hrun

/-- The invariant rule for what the actions alone say of a run. -/
theorem invariant_foldl {step : σ → α → Option σ} {g : β → α → β}
    {I : σ → β → Prop} {s t : σ} {b : β} {acts : List α}
    (hstep : ∀ s b a s', a ∈ acts → I s b → step s a = some s' → I s' (g b a))
    (hinit : I s b) (hrun : run step s acts = some t) :
    I t (acts.foldl g b) := by
  induction acts generalizing s b with
  | nil =>
      cases hrun
      exact hinit
  | cons a acts ih =>
      obtain ⟨s', hs', hrest⟩ := run_cons_eq_some hrun
      have hmem : ∀ c ∈ acts, c ∈ a :: acts := fun c hc =>
        List.mem_cons_of_mem a hc
      exact ih (fun s b c s' hc => hstep s b c s' (hmem c hc))
        (hstep s b a s' List.mem_cons_self hinit hs') hrest

/-- What an invariant and the guard imply of every step guards the run as
well. -/
theorem Along.of_invariant {step : σ → α → Option σ} {ok ok' : σ → α → Prop}
    {I : σ → Prop}
    (hstep : ∀ s a s', I s → ok s a → step s a = some s' → I s')
    (himp : ∀ s a, I s → ok s a → ok' s a) {s : σ} {acts : List α}
    (hinit : I s) (hok : Along step ok s acts) : Along step ok' s acts := by
  induction acts generalizing s with
  | nil => trivial
  | cons a acts ih =>
      exact ⟨himp s a hinit hok.1, fun s' hs' =>
        ih (hstep s a s' hinit hok.1 hs') (hok.2 s' hs')⟩

/-- Two conditions guard the same runs if they agree wherever an invariant holds
and the second one keeps it. -/
theorem Along.iff_of_invariant {step : σ → α → Option σ}
    {base ok ok' : σ → α → Prop} {I : σ → Prop}
    (hkept : ∀ s a s', I s → base s a → ok' s a → step s a = some s' → I s')
    (hiff : ∀ s a s', I s → base s a → step s a = some s' →
      (ok s a ↔ ok' s a)) {s t : σ} {acts : List α}
    (hinit : I s) (hbase : Along step base s acts)
    (hrun : run step s acts = some t) :
    Along step ok s acts ↔ Along step ok' s acts := by
  induction acts generalizing s with
  | nil => exact Iff.rfl
  | cons a acts ih =>
      obtain ⟨s', hs', hrest⟩ := run_cons_eq_some hrun
      have hhead := hiff s a s' hinit hbase.1 hs'
      have hnext : ∀ {c : σ → α → Prop}, (∀ t', step s a = some t' →
          Along step c t' acts) ↔ Along step c s' acts := by
        intro c
        constructor
        · intro h
          exact h s' hs'
        · intro h t' ht'
          rwa [← Option.some.inj (hs'.symm.trans ht')]
      have htail : ok' s a → (Along step ok s' acts ↔ Along step ok' s' acts) :=
        fun hok => ih (hkept s a s' hinit hbase.1 hok hs') (hbase.2 s' hs') hrest
      constructor
      · rintro ⟨hok, hmore⟩
        have hok' := hhead.mp hok
        exact ⟨hok', hnext.mpr ((htail hok').mp (hnext.mp hmore))⟩
      · rintro ⟨hok', hmore⟩
        exact ⟨hhead.mpr hok', hnext.mpr ((htail hok').mpr (hnext.mp hmore))⟩

/-- A property holds of every state of a run when it holds at the start and
after every step. -/
theorem forall_reached_iff {step : σ → α → Option σ} {P : σ → Prop} (s : σ)
    (acts : List α) :
    (∀ xs ys t, acts = xs ++ ys → run step s xs = some t → P t) ↔
      P s ∧ Along step (fun s a => ∀ s', step s a = some s' → P s') s acts := by
  induction acts generalizing s with
  | nil =>
      constructor
      · intro h
        exact ⟨h [] [] s rfl rfl, trivial⟩
      · rintro ⟨h, -⟩ xs ys t hsplit hrun
        rw [(List.nil_eq_append_iff.mp hsplit).1] at hrun
        cases hrun
        exact h
  | cons a acts ih =>
      constructor
      · intro h
        have hnext : ∀ s', step s a = some s' → ∀ xs ys t, acts = xs ++ ys →
            run step s' xs = some t → P t := by
          intro s' hstep xs ys t hsplit hrun
          refine h (a :: xs) ys t (congrArg (a :: ·) hsplit) ?_
          rw [run_cons, hstep]
          exact hrun
        refine ⟨h [] _ s rfl rfl, ?_, fun s' hstep => ?_⟩
        · intro s' hstep
          exact hnext s' hstep [] acts s' rfl rfl
        · exact ((ih s').mp (hnext s' hstep)).2
      · rintro ⟨hs, hhead, htail⟩ xs ys t hsplit hrun
        cases xs with
        | nil =>
            cases hrun
            exact hs
        | cons b xs =>
            obtain ⟨rfl, hsplit'⟩ := List.cons_eq_cons.mp hsplit
            obtain ⟨s', hstep, hrest⟩ := run_cons_eq_some hrun
            exact (ih s').mpr ⟨hhead s' hstep, htail s' hstep⟩ xs ys t hsplit'
              hrest

/-- A condition on states guards a run exactly when a condition on the actions
performed so far is met at every action, if an invariant ties the two. -/
theorem along_iff_past {step : σ → α → Option σ} {ok : σ → α → Prop}
    {c : List α → α → Prop} {I : List α → σ → Prop}
    (hkept : ∀ past s a s', I past s → step s a = some s' →
      I (past ++ [a]) s')
    (hiff : ∀ past s a s', I past s → step s a = some s' →
      (ok s a ↔ c past a)) {past : List α} {s t : σ} {acts : List α}
    (hs : I past s) (hrun : run step s acts = some t) :
    Along step ok s acts ↔
      ∀ xs a ys, acts = xs ++ a :: ys → c (past ++ xs) a := by
  induction acts generalizing past s with
  | nil =>
      refine iff_of_true trivial fun xs a ys hsplit => ?_
      exact absurd hsplit.symm (List.append_ne_nil_of_right_ne_nil xs
        (List.cons_ne_nil a ys))
  | cons a acts ih =>
      obtain ⟨s', hstep, hrest⟩ := run_cons_eq_some hrun
      have hhead := hiff past s a s' hs hstep
      have htail := ih (hkept past s a s' hs hstep) hrest
      constructor
      · rintro ⟨hok, hnext⟩ xs b ys hsplit
        cases xs with
        | nil =>
            obtain ⟨rfl, -⟩ := List.cons_eq_cons.mp hsplit
            rw [List.append_nil]
            exact hhead.mp hok
        | cons x xs =>
            obtain ⟨rfl, hsplit'⟩ := List.cons_eq_cons.mp hsplit
            have hpast := htail.mp (hnext s' hstep) xs b ys hsplit'
            rwa [List.append_assoc] at hpast
      · intro h
        refine ⟨hhead.mpr ?_, fun t' ht' => ?_⟩
        · have hfirst := h [] a acts rfl
          rwa [List.append_nil] at hfirst
        · rw [hstep] at ht'
          cases ht'
          refine htail.mpr fun xs b ys hsplit => ?_
          have hlater := h (a :: xs) b ys (congrArg (a :: ·) hsplit)
          rwa [List.append_assoc]

/-- A property holds of every state of a run exactly when every action of it is
in order, if an invariant tells for each step whether the property survives
it. -/
theorem reached_iff_along {step : σ → α → Option σ} {base ok : σ → α → Prop}
    {I P : σ → Prop}
    (hstep : ∀ s a s', I s → P s → base s a → step s a = some s' →
      (P s' ↔ ok s a) ∧ (ok s a → I s'))
    {s t : σ} {acts : List α} (hinit : I s) (hs : P s)
    (hbase : Along step base s acts) (hrun : run step s acts = some t) :
    (∀ xs ys t, acts = xs ++ ys → run step s xs = some t → P t) ↔
      Along step ok s acts := by
  rw [forall_reached_iff, and_iff_right hs]
  refine Along.iff_of_invariant (I := fun s => I s ∧ P s) ?_ ?_
    ⟨hinit, hs⟩ hbase hrun
  · rintro s a s' ⟨hI, hP⟩ hb hok hs'
    obtain ⟨hiff, hnext⟩ := hstep s a s' hI hP hb hs'
    exact ⟨hnext hok, hiff.mpr hok⟩
  · rintro s a s' ⟨hI, hP⟩ hb hs'
    rw [← (hstep s a s' hI hP hb hs').1]
    constructor
    · intro h
      exact h s' hs'
    · intro h t ht
      rwa [← Option.some.inj (hs'.symm.trans ht)]

/-- The same for all runs. -/
theorem reached_iff_along_of_step {step : σ → α → Option σ}
    {ok : σ → α → Prop} {I P : σ → Prop}
    (hstep : ∀ s a s', I s → P s → step s a = some s' →
      (P s' ↔ ok s a) ∧ (ok s a → I s'))
    {s t : σ} {acts : List α} (hinit : I s) (hs : P s)
    (hrun : run step s acts = some t) :
    (∀ xs ys t, acts = xs ++ ys → run step s xs = some t → P t) ↔
      Along step ok s acts := by
  have hbase : Along step (fun _ _ => True) s acts :=
    Along.of_forall (fun _ _ => trivial) s acts
  exact reached_iff_along (fun s a s' hI hP _ hs' => hstep s a s' hI hP hs')
    hinit hs hbase hrun

/-- What holds after a step exactly when it held before and the step was in
order holds at the end of a run exactly when every action of it was in
order. -/
theorem end_iff_along {step : σ → α → Option σ} {ok : σ → α → Prop}
    {I P : σ → Prop}
    (hkept : ∀ s a s', I s → step s a = some s' → I s')
    (hiff : ∀ s a s', I s → step s a = some s' → (P s' ↔ P s ∧ ok s a))
    {s t : σ} {acts : List α} (hs : I s)
    (hrun : run step s acts = some t) :
    P t ↔ P s ∧ Along step ok s acts := by
  induction acts generalizing s with
  | nil =>
      cases hrun
      exact (and_iff_left trivial).symm
  | cons a acts ih =>
      obtain ⟨s', hstep, hrest⟩ := run_cons_eq_some hrun
      have hnext : (∀ t', step s a = some t' → Along step ok t' acts) ↔
          Along step ok s' acts := by
        constructor
        · intro h
          exact h s' hstep
        · intro h t' ht'
          rwa [← Option.some.inj (hstep.symm.trans ht')]
      rw [ih (hkept s a s' hs hstep) hrest, hiff s a s' hs hstep, and_assoc]
      exact and_congr_right fun _ => and_congr_right fun _ => hnext.symm

theorem ghost_eq_some {step : σ → α → Option σ} {g : σ → α → β → β}
    {p q : σ × β} {a : α} (h : ghost step g p a = some q) :
    step p.1 a = some q.1 ∧ q.2 = g p.1 a p.2 := by
  obtain ⟨s', hs', hq⟩ := Option.map_eq_some_iff.mp h
  subst hq
  exact ⟨hs', rfl⟩

/-- A run with a ghost is a run. -/
theorem run_of_ghost {step : σ → α → Option σ} {g : σ → α → β → β}
    {p q : σ × β} {acts : List α} (h : run (ghost step g) p acts = some q) :
    run step p.1 acts = some q.1 := by
  induction acts generalizing p with
  | nil =>
      cases h
      rfl
  | cons a acts ih =>
      obtain ⟨r, hr, hrest⟩ := run_cons_eq_some h
      rw [run_cons, (ghost_eq_some hr).1]
      exact ih hrest

/-- Every step of a run leads to a state that a part of the run leads to. -/
theorem along_reached (step : σ → α → Option σ) (s : σ) (acts : List α) :
    Along step (fun t a => ∀ t', step t a = some t' →
      ∃ xs ys, acts = xs ++ ys ∧ run step s xs = some t') s acts :=
  ((forall_reached_iff s acts).mp
    fun xs ys _ hsplit hrun => ⟨xs, ys, hsplit, hrun⟩).2

/-- A guard that does not look at the ghost. -/
theorem Along.ghost {step : σ → α → Option σ} {g : σ → α → β → β}
    {ok : σ → α → Prop} {p : σ × β} {acts : List α}
    (h : Along step ok p.1 acts) :
    Along (Runs.ghost step g) (fun p a => ok p.1 a) p acts := by
  induction acts generalizing p with
  | nil => trivial
  | cons a acts ih =>
      refine ⟨h.1, fun q hq => ih ?_⟩
      exact h.2 q.1 (ghost_eq_some hq).1

/-- The progress rule: if in every state that meets `I` the goal `G` is reached
or some permitted action brings it closer, then permitted actions lead to it. -/
theorem exists_run_of_progress {μ : Type*} [LT μ] [WellFoundedLT μ]
    {step : σ → α → Option σ} {I G : σ → Prop} {ok : α → Prop} (m : σ → μ)
    (h : ∀ s, I s → G s ∨ ∃ a s', ok a ∧ step s a = some s' ∧ I s' ∧
      m s' < m s) {s : σ} (hs : I s) :
    ∃ acts t, (∀ a ∈ acts, ok a) ∧ run step s acts = some t ∧ I t ∧ G t := by
  obtain ⟨k, hk⟩ : ∃ k, k = m s := ⟨m s, rfl⟩
  induction k using WellFoundedLT.induction generalizing s with
  | ind k ih =>
      rcases h s hs with hG | ⟨a, s', hok, hstep, hI, hlt⟩
      · exact ⟨[], s, List.forall_mem_nil _, rfl, hs, hG⟩
      · obtain ⟨acts, t, hall, hrun, ht⟩ := ih (m s') (hk ▸ hlt) hI rfl
        refine ⟨a :: acts, t, List.forall_mem_cons.mpr ⟨hok, hall⟩, ?_, ht⟩
        rw [run_cons, hstep]
        exact hrun

/-! ## The past of a run -/

/-- In the course of the run some action has met `P`, given the actions before
it and the state in which it happened. -/
def Once (step : σ → α → Option σ) (P : List α → σ → α → Prop) (s : σ)
    (acts : List α) : Prop :=
  ∃ xs a ys t, acts = xs ++ a :: ys ∧ run step s xs = some t ∧ P xs t a

section Past

variable {step : σ → α → Option σ} {P : List α → σ → α → Prop} {s t : σ}
  {acts : List α}

/-- What has happened has happened. -/
theorem Once.append (h : Once step P s acts) (more : List α) :
    Once step P s (acts ++ more) := by
  obtain ⟨xs, a, ys, t, rfl, hrun, hP⟩ := h
  refine ⟨xs, a, ys ++ more, t, ?_, hrun, hP⟩
  rw [List.append_assoc, List.cons_append]

/-- What has happened by the end of a step happened before or in that step. -/
theorem once_snoc_iff (hrun : run step s acts = some t) {a : α} :
    Once step P s (acts ++ [a]) ↔ Once step P s acts ∨ P acts t a := by
  constructor
  · rintro ⟨xs, b, ys, u, hsplit, hxs, hP⟩
    rcases ys.eq_nil_or_concat with rfl | ⟨zs, c, rfl⟩
    · obtain ⟨rfl, hlast⟩ := List.append_inj' hsplit rfl
      cases hlast
      rw [hrun] at hxs
      cases hxs
      exact Or.inr hP
    · left
      rw [List.concat_eq_append, ← List.cons_append, ← List.append_assoc]
        at hsplit
      exact ⟨xs, b, zs, u, (List.append_inj' hsplit rfl).1, hxs, hP⟩
  · rintro (h | h)
    · exact h.append [a]
    · exact ⟨acts, a, [], t, rfl, hrun, h⟩

/-- The invariant rule for what is known of the past of a run. -/
theorem invariant_past {I : List α → σ → Prop}
    (hstep : ∀ past s' a t', run step s past = some s' → I past s' →
      step s' a = some t' → I (past ++ [a]) t')
    (hinit : I [] s) (hrun : run step s acts = some t) : I acts t := by
  induction acts using List.reverseRecOn generalizing t with
  | nil =>
      cases hrun
      exact hinit
  | append_singleton past a ih =>
      rw [run_append] at hrun
      obtain ⟨s', hpast, hlast⟩ := Option.bind_eq_some_iff.mp hrun
      obtain ⟨t', ht', hnil⟩ := run_cons_eq_some hlast
      cases hnil
      exact hstep past s' a t hpast (ih hpast) ht'

end Past

end Runs
