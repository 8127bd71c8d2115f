import Tocate.Users.Additive

/-!
# Credits that are lost, and none that counts twice

Sessions that overlap undo the credits of one another.  What remains is still
made of whole credits: the stored points and games are those of the beginning
with some of the credits added, each of them once and in the order in which they
were stored.
-/

namespace Tocate.Sesiones

variable {ι κ : Type*}

/-- The record `v` has been credited with some of the scores. -/
def Acreditado (v₀ : ℤ × ℤ) (haber : List ℤ) (v : ℤ × ℤ) : Prop :=
  ∃ ps, List.Sublist ps haber ∧ v = (v₀.1 + ps.sum, v₀.2 + ps.length)

theorem foldl_suma (ps : List ℤ) (v : ℤ × ℤ) :
    (ps.map suma).foldl (fun w f => f w) v =
      (v.1 + ps.sum, v.2 + ps.length) := by
  induction ps generalizing v with
  | nil => simp
  | cons p ps ih =>
      rw [List.map_cons, List.foldl_cons, ih, suma, List.sum_cons,
        List.length_cons]
      ext
      · show v.1 + p + ps.sum = v.1 + (p + ps.sum)
        omega
      · show v.2 + 1 + (ps.length : ℤ) = v.2 + ((ps.length + 1 : ℕ) : ℤ)
        push_cast
        omega

theorem acreditado_of_made {v₀ v : ℤ × ℤ} {haber : List ℤ}
    (h : Copies.Made v₀ (haber.map suma) v) : Acreditado v₀ haber v := by
  obtain ⟨fs, hfs, rfl⟩ := h
  obtain ⟨ps, hps, rfl⟩ := List.sublist_map_iff.mp hfs
  exact ⟨ps, hps, foldl_suma ps v₀⟩

/-- The sessions hold copies of the record, all of them made by some of the
credits so far. -/
structure Rastro (uid : String) (v₀ : ℤ × ℤ)
    (p : Telefono ι κ × Historia ι κ) : Prop where
  reflejo : Reflejo uid p.1 p.2.1
  traza : Copies.Traced v₀ (p.2.2.map suma) p.2.1

theorem rastro_inicio (uid : String) (juego : κ → String) (db : BaseDatos) :
    Rastro uid (guardado db uid) (inicio uid juego db : Telefono ι κ × _) :=
  ⟨reflejo_inicio uid juego db, Copies.traced_start _⟩

section Steps

variable [DecidableEq ι] [DecidableEq κ] {uid : String} {v₀ : ℤ × ℤ}
  {p q : Telefono ι κ × Historia ι κ} {a : Paso ι κ}

/-- Whatever step a session takes, its copy and the record are made of whole
credits. -/
theorem Rastro.step (hp : Rastro uid v₀ p) (hpropio : Propio uid p.1 a)
    (h : pasoAnotado uid p a = some q) : Rastro uid v₀ q := by
  obtain ⟨⟨s, st, haber⟩, hstart⟩ : ∃ x, x = p := ⟨p, rfl⟩
  subst hstart
  obtain ⟨hpaso, hq⟩ := Runs.ghost_eq_some h
  obtain ⟨hreflejo, hstep⟩ := hp.reflejo.paso hpropio hpaso haber
  have hstore : q.2.1 = (anota uid s a (st, haber)).1 := by rw [hq]
  have hlog : q.2.2 =
      if (escrituras s a).any (guarda uid) then haber ++ [puntos s a]
      else haber := by
    rw [hq]
    rfl
  refine ⟨hstore ▸ hreflejo, ?_⟩
  rw [hstore, hlog]
  rcases (efecto_paso hp.reflejo.suyas hpaso).2 with
    ⟨c, l, hacr⟩ | ⟨c, x, hlee⟩ | hresp
  · obtain ⟨l', pre, -, -, -, hws, -, -⟩ := hacr.nuevo
    have hany : (escrituras s a).any (guarda uid) = true := by
      rw [hws, List.any_append]
      simp [guarda]
    have htraza := hp.traza.step (hstep _ (operacion_of_credito hacr.credito))
    rw [if_pos hany, List.map_append]
    exact htraza
  · rw [any_guarda_eq_false hlee.escrituras, if_neg Bool.false_ne_true]
    have hop : operacion uid s a =
        if x = uid ∧ s.db.users uid ≠ none then some (.read c)
        else some (.drop c) :=
      operacion_of_lectura hlee.credito hlee.lectura
    have hsin : ∀ o, operacion uid s a = some o → o.writes = [] →
        Copies.Traced v₀ (haber.map suma) (anota uid s a (st, haber)).1 := by
      intro o ho hwrites
      have htraza := hp.traza.step (hstep o ho)
      rw [hwrites, List.append_nil] at htraza
      exact htraza
    by_cases hx : x = uid ∧ s.db.users uid ≠ none
    · exact hsin (.read c) (hop.trans (if_pos hx)) rfl
    · exact hsin (.drop c) (hop.trans (if_neg hx)) rfl
  · rw [any_guarda_eq_false hresp.escrituras, if_neg Bool.false_ne_true]
    simp only [anota, operacion_none hresp.credito hresp.lectura,
      Option.elim_none]
    exact hp.traza

end Steps

section Runs

variable [DecidableEq ι] [DecidableEq κ]

/-- In every run in which the sessions credit the user's own record, in whatever
order they load it and store it, the stored record has been credited with some
of the scores, with none of them twice and with nothing else. -/
theorem creditos_sin_repetir (uid : String) (juego : κ → String)
    (db : BaseDatos) {acts : List (Paso ι κ)}
    {p : Telefono ι κ × Historia ι κ}
    (hrun : Runs.run (pasoAnotado uid) (inicio uid juego db) acts = some p)
    (hpropio : Runs.Along (pasoAnotado uid) (fun q a => Propio uid q.1 a)
      (inicio uid juego db) acts) :
    Acreditado (guardado db uid) p.2.2 (guardado p.1.db uid) := by
  have hfin : Rastro uid (guardado db uid) p :=
    Runs.invariant (fun _ _ _ hq hok hstep => Rastro.step hq hok hstep)
      (rastro_inicio uid juego db) hpropio hrun
  rw [← hfin.reflejo.value]
  exact acreditado_of_made hfin.traza.value

end Runs

/-- The match is left while the solo game is back on the screen, and the solo
game stores its old copy over it. -/
theorem creditos_sin_repetir_ana :
    ∃ p, Runs.run (pasoAnotado "a") (inicio "a" (fun _ => "g") baseAna)
        (empiezaSolo ++ empiezaMatch ++
          [.solo () .onResume, .mult () .onStop, .solo () (.onFinish 1)]) =
          some p ∧
      Acreditado (10, 4) p.2.2 (guardado p.1.db "a") := by
  obtain ⟨p, hrun⟩ := Option.isSome_iff_exists.mp
    (show (Runs.run (pasoAnotado "a") (inicio "a" (fun _ => "g") baseAna)
      (empiezaSolo ++ empiezaMatch ++ [.solo () .onResume, .mult () .onStop,
        .solo () (.onFinish 1)])).isSome = true by decide)
  exact ⟨p, hrun, creditos_sin_repetir "a" _ baseAna hrun (by decide)⟩

end Tocate.Sesiones
