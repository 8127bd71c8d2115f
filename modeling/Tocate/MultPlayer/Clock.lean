import Tocate.MultPlayer.Steps

/-!
# The match clock and the game-over dialog

A started screen that has its match should have one clock running until the
dialog is opened, and open it once.  A snapshot that arrives while a name is
missing starts one more clock, nothing restarts the clock that `onStop` has
stopped, and both the end of a clock and a snapshot of an abandoned match open
a dialog each time.  The property holds throughout a run exactly when none of
this happens.
-/

namespace Tocate.MultPlayer

open Cloud

/-- At most one dialog has ever been opened; a started screen with a match has
one clock running, unless the dialog has been opened. -/
def UnReloj (m : MultPlayer) : Prop :=
  m.dialogos.length ≤ 1 ∧
    (m.iniciada = true → m.caida = false → m.jugada ≠ none →
      m.relojes.length = 1 ∨ m.dialogos ≠ [])

/-- The step neither starts a second clock, nor leaves the screen without one,
nor opens a second dialog. -/
def SinTropiezo (m : MultPlayer) : Paso → Prop
  | .evento _ .onStart => m.jugada = none ∨ m.dialogos ≠ []
  | .evento _ (.onFinish _) =>
      m.dialogos = [] ∨ ¬m.Lista ∨ (m.terminada = true ∧ m.iniciada = false)
  | .evento _ .onBackPressed => ¬m.Lista ∨ m.dialogos ≠ []
  | .entrega false (some j) =>
      (m.Anonima ∧ SinAsiento j) ∨
        if j.abandonoID = "" then
          ¬m.Anonima ∨ m.jugada = none ∨ m.dialogos ≠ []
        else m.dialogos = []
  | _ => True

/-- While no dialog has been opened a started screen runs the clock that it
remembers, and a stopped one runs none. -/
def Recuerda (m : MultPlayer) : Prop :=
  m.dialogos = [] → m.jugada ≠ none →
    (m.iniciada = true ∧ ∃ t, m.relojes = [t] ∧ m.countDownTimer = some t) ∨
      (m.iniciada = false ∧ m.relojes = [])

theorem Recuerda.unReloj {m : MultPlayer} (h : Recuerda m)
    (hdial : m.dialogos.length ≤ 1) : UnReloj m := by
  refine ⟨hdial, fun hinic _ hj => ?_⟩
  by_cases hno : m.dialogos = []
  · rcases h hno hj with ⟨-, t, hrel, -⟩ | ⟨hfalse, -⟩
    · left
      rw [hrel]
      rfl
    · rw [hinic] at hfalse
      cases hfalse
  · exact Or.inr hno

theorem Cortada.unReloj {m m' : MultPlayer} (h : Cortada m m')
    (hdial : m.dialogos.length ≤ 1) : UnReloj m' := by
  refine ⟨h.2 ▸ hdial, fun _ hviva => ?_⟩
  rw [h.1] at hviva
  cases hviva

/-- A step that touches neither clocks nor dialogs. -/
theorem Recuerda.of_intacta {m m' : MultPlayer} (h : Recuerda m)
    (hi : Intacta m m') : Recuerda m' := by
  intro hno hj
  rw [hi.relojes, hi.iniciada, hi.conserva.countDownTimer]
  exact h (hi.dialogos ▸ hno) (mt hi.conserva.jugada.mpr hj)

/-- One more dialog is one too many unless it is the first. -/
theorem unReloj_of_abre {m m' : MultPlayer} {d : Dialogo}
    (h : m'.dialogos = m.dialogos ++ [d]) : UnReloj m' ↔ m.dialogos = [] := by
  have hne : m'.dialogos ≠ [] := by
    rw [h]
    exact List.append_ne_nil_of_right_ne_nil _ (List.cons_ne_nil d [])
  constructor
  · rintro ⟨hlen, -⟩
    rw [h, List.length_append, List.length_singleton] at hlen
    exact List.eq_nil_of_length_eq_zero (by omega)
  · intro hno
    refine ⟨?_, fun _ _ _ => Or.inr hne⟩
    rw [h, hno]
    exact Nat.le_refl 1

/-- What a step has to do with clocks and dialogs: the property holds after it
exactly when it does not go astray, and then the next step finds things as they
should be. -/
def Cuadra (m : MultPlayer) (a : Paso) (m' : MultPlayer) : Prop :=
  (UnReloj m' ↔ SinTropiezo m a) ∧
    (SinTropiezo m a → m'.caida = false → Recuerda m')

theorem cuadra_of_cortada {m m' : MultPlayer} {a : Paso}
    (hdial : m.dialogos.length ≤ 1) (hc : Cortada m m')
    (hok : SinTropiezo m a) : Cuadra m a m' := by
  refine ⟨iff_of_true (hc.unReloj hdial) hok, fun _ hviva => ?_⟩
  exact absurd hc (not_cortada hviva)

theorem cuadra_of_recuerda {m m' : MultPlayer} {a : Paso}
    (hdial : m'.dialogos.length ≤ 1) (h : Recuerda m')
    (hok : SinTropiezo m a) : Cuadra m a m' :=
  ⟨iff_of_true (h.unReloj hdial) hok, fun _ _ => h⟩

theorem cuadra_of_abre {m m' : MultPlayer} {a : Paso} {d : Dialogo}
    (h : m'.dialogos = m.dialogos ++ [d])
    (hok : SinTropiezo m a ↔ m.dialogos = []) : Cuadra m a m' := by
  refine ⟨(unReloj_of_abre h).trans hok.symm, fun _ _ hno => ?_⟩
  rw [h] at hno
  exact absurd hno
    (List.append_ne_nil_of_right_ne_nil _ (List.cons_ne_nil d []))

theorem Recuerda.cuadra_onStart {m m' : MultPlayer} {vista : BaseDatos}
    (h : Recuerda m) (hdial : m.dialogos.length ≤ 1)
    (hstep : avanza m (.evento vista .onStart) = some m') :
    Cuadra m (.evento vista .onStart) m' := by
  have hviva := caida_of_avanza hstep
  obtain ⟨hinic, rfl⟩ := avanza_onStart hstep
  constructor
  · constructor
    · rintro ⟨-, hreloj⟩
      by_contra hno
      obtain ⟨hj, hd⟩ : m.jugada ≠ none ∧ m.dialogos = [] := by
        simpa [SinTropiezo] using hno
      -- nothing has restarted the clock that `onStop` has stopped
      rcases h hd hj with ⟨htrue, -⟩ | ⟨-, hrel⟩
      · rw [hinic] at htrue
        cases htrue
      · rcases hreloj rfl hviva hj with hone | hne
        · rw [show m.relojes.length = 0 by rw [hrel]; rfl] at hone
          cases hone
        · exact hne hd
    · intro hok
      refine ⟨hdial, fun _ _ hj => Or.inr (hok.resolve_left hj)⟩
  · intro hok _ hno hj
    exact absurd hno (hok.resolve_left hj)

theorem cuadra_onFinish {m m' : MultPlayer} {vista : BaseDatos}
    {t : ℕ} (hdial : m.dialogos.length ≤ 1)
    (hstep : avanza m (.evento vista (.onFinish t)) = some m') :
    Cuadra m (.evento vista (.onFinish t)) m' := by
  rcases avanza_onFinish hstep with ⟨hno, hc⟩ | ⟨-, hterm, hinic, hc⟩ |
    ⟨hlista, hventana, -, -, ⟨d, hd⟩, -, -⟩
  · exact cuadra_of_cortada hdial hc (Or.inr (Or.inl hno))
  · exact cuadra_of_cortada hdial hc (Or.inr (Or.inr ⟨hterm, hinic⟩))
  · refine cuadra_of_abre hd ⟨?_, Or.inl⟩
    rintro (hd | hno | ⟨hterm, hinic⟩)
    · exact hd
    · exact absurd hlista hno
    · rw [hventana hterm] at hinic
      cases hinic

/-- Leaving stops the one clock that runs. -/
theorem Recuerda.erase {m : MultPlayer} {t : ℕ} (h : Recuerda m)
    (hd : m.dialogos = []) (hj : m.jugada ≠ none)
    (ht : m.countDownTimer = some t) : m.relojes.erase t = [] := by
  rcases h hd hj with ⟨-, r, hrel, hr⟩ | ⟨-, hrel⟩
  · rw [ht] at hr
    cases hr
    rw [hrel]
    simp
  · rw [hrel]
    rfl

theorem Recuerda.cuadra_onStop {m m' : MultPlayer} {vista : BaseDatos}
    (h : Recuerda m) (hs : Sana m) (hdial : m.dialogos.length ≤ 1)
    (hstep : avanza m (.evento vista .onStop) = some m') :
    Cuadra m (.evento vista .onStop) m' := by
  rcases avanza_onStop hs hstep with ⟨-, hc⟩ |
    ⟨-, hcons, ⟨t, ht, hrel⟩, hd, hinic, -⟩
  · exact cuadra_of_cortada hdial hc trivial
  · refine cuadra_of_recuerda (hd ▸ hdial) (fun hno hj => ?_) trivial
    right
    rw [hrel]
    exact ⟨hinic, h.erase (hd ▸ hno) (mt hcons.jugada.mpr hj) ht⟩

theorem Recuerda.cuadra_onBackPressed {m m' : MultPlayer} {vista : BaseDatos}
    (h : Recuerda m) (hs : Sana m) (hdial : m.dialogos.length ≤ 1)
    (hstep : avanza m (.evento vista .onBackPressed) = some m') :
    Cuadra m (.evento vista .onBackPressed) m' := by
  obtain ⟨hinic, ⟨hno, hc⟩ |
    ⟨hlista, hcons, ⟨t, ht, hrel⟩, hd, hinic', -, hviva⟩⟩ :=
      avanza_onBackPressed hs hstep
  · exact cuadra_of_cortada hdial hc (Or.inl hno)
  · have hj : m.jugada ≠ none := by
      obtain ⟨j, hj, -⟩ := hlista
      rw [hj]
      exact Option.some_ne_none j
    have hok : SinTropiezo m (.evento vista .onBackPressed) ↔
        m.dialogos ≠ [] := or_iff_right (not_not_intro hlista)
    rw [Cuadra, hok]
    constructor
    · constructor
      · rintro ⟨-, hreloj⟩ hno
        rcases hreloj (hinic'.trans hinic) hviva (mt hcons.jugada.mp hj) with
          hone | hne
        · rw [hrel, h.erase hno hj ht] at hone
          cases hone
        · exact hne (hd.trans hno)
      · intro hne
        exact ⟨hd ▸ hdial, fun _ _ _ => Or.inr (hd ▸ hne)⟩
    · intro hne _ hno
      exact absurd (hd ▸ hno) hne

/-- A match that goes on: the snapshot starts a clock if a name is missing. -/
theorem Recuerda.cuadra_alSeguir {m : MultPlayer} {j : Jugada}
    (h : Recuerda m) (hs : Sana m) (hdial : m.dialogos.length ≤ 1)
    (hinic : m.iniciada = true) (hviva : m.caida = false)
    (hno : ¬(m.Anonima ∧ SinAsiento j)) (hab : j.abandonoID = "") :
    Cuadra m (.entrega false (some j)) (alSeguir j m) := by
  have hok : SinTropiezo m (.entrega false (some j)) ↔
      ¬m.Anonima ∨ m.jugada = none ∨ m.dialogos ≠ [] := by
    simp only [SinTropiezo, hno, hab, if_true, false_or]
  have hd : (alSeguir j m).dialogos = m.dialogos := alRecibir_dialogos m j
  have hinic' : (alSeguir j m).iniciada = true :=
    (alRecibir_iniciada m j).trans hinic
  have hviva' : (alSeguir j m).caida = false := (alRecibir_caida m j).trans hviva
  have hj' : (alSeguir j m).jugada ≠ none := by
    rw [(tomada_alSeguir j m).jugada]
    exact Option.some_ne_none j
  rcases alRecibir_relojes m j with ⟨hrel, hreloj, hnom⟩ | ⟨hrel, hreloj, hnom⟩
  · -- one more clock: fine for the first snapshot or after the dialog only
    have hrel' : (alSeguir j m).relojes = m.relojes ++ [m.creados] := hrel
    rw [Cuadra, hok]
    constructor
    · constructor
      · rintro ⟨-, hclock⟩
        by_contra hbad
        obtain ⟨-, hj, hno⟩ : m.Anonima ∧ m.jugada ≠ none ∧ m.dialogos = [] := by
          simpa [not_or] using hbad
        rcases hclock hinic' hviva' hj' with hone | hne
        · rcases h hno hj with ⟨-, t, hone', -⟩ | ⟨hfalse, -⟩
          · rw [hrel', hone'] at hone
            cases hone
          · rw [hinic] at hfalse
            cases hfalse
        · exact hne (hd.trans hno)
      · rintro (hcon | hj | hne)
        · exact absurd hnom hcon
        · refine ⟨hd ▸ hdial, fun _ _ _ => Or.inl ?_⟩
          rw [hrel', (hs.virgen hj).2.2.2]
          rfl
        · exact ⟨hd ▸ hdial, fun _ _ _ => Or.inr (hd ▸ hne)⟩
    · rintro hgood - hno -
      have hj : m.jugada = none :=
        (hgood.resolve_left (not_not_intro hnom)).resolve_right
          (not_not_intro (hd ▸ hno))
      refine Or.inl ⟨hinic', m.creados, ?_, hreloj⟩
      rw [hrel', (hs.virgen hj).2.2.2]
      rfl
  · have hj : m.jugada ≠ none := fun hj => hnom (Or.inl (hs.virgen hj).1)
    refine cuadra_of_recuerda (hd ▸ hdial) (fun hno _ => ?_)
      (hok.mpr (Or.inl hnom))
    rw [show (alSeguir j m).relojes = m.relojes from hrel,
      show (alSeguir j m).countDownTimer = m.countDownTimer from hreloj,
      show (alSeguir j m).iniciada = m.iniciada from alRecibir_iniciada m j]
    exact h (hd ▸ hno) hj

theorem Recuerda.cuadra {m m' : MultPlayer} {a : Paso} (h : Recuerda m)
    (hs : Sana m) (hdial : m.dialogos.length ≤ 1)
    (hstep : avanza m a = some m') : Cuadra m a m' := by
  cases a with
  | entrega pend snap =>
      obtain ⟨hviva, hlis, -⟩ := avanza_entrega hstep
      have hinic := hs.oye hlis
      rcases avanza_entrega_cases hinic hs.alRecibir_reloj hstep with
        ⟨hpasa, rfl⟩ | ⟨j, rfl, rfl, ⟨hnom, hvacio, hc⟩ | ⟨hno, hab, rfl⟩ |
          ⟨hno, hab, t, -, rfl⟩⟩
      · refine cuadra_of_recuerda hdial h ?_
        cases pend with
        | true => trivial
        | false =>
            cases snap with
            | none => trivial
            | some j => rcases hpasa with hpend | hsnap <;> contradiction
      · exact cuadra_of_cortada hdial hc (Or.inl ⟨hnom, hvacio⟩)
      · exact h.cuadra_alSeguir hs hdial hinic hviva hno hab
      · refine cuadra_of_abre (congrArg (· ++ [_]) (alRecibir_dialogos m j)) ?_
        simp only [SinTropiezo, hno, hab, if_false, false_or]
  | evento vista e =>
      cases e using Suceso.casos with
      | clic imagen aleatorio =>
          rcases avanza_clic_intacta hstep with ⟨-, hc⟩ | ⟨-, hi⟩
          · exact cuadra_of_cortada hdial hc trivial
          · exact cuadra_of_recuerda (hi.dialogos ▸ hdial) (h.of_intacta hi)
              trivial
      | user p =>
          have hok : m.SinTropiezo (.evento vista (.user p)) := by
            cases p <;> trivial
          obtain ⟨-, hc | ⟨resto, u, nombre, rfl⟩⟩ := avanza_user hstep
          · exact cuadra_of_cortada hdial hc hok
          · refine cuadra_of_recuerda ?_ ?_ hok
            · rw [alLeer_dialogos]
              exact hdial
            · cases p <;> exact h
      | botonDialogo d =>
          rcases avanza_botones (Or.inl ⟨d, rfl⟩) hstep with hc | hi
          · exact cuadra_of_cortada hdial hc trivial
          · exact cuadra_of_recuerda (hi.dialogos ▸ hdial) (h.of_intacta hi)
              trivial
      | onFinishDial d =>
          rcases avanza_botones (Or.inr ⟨d, rfl⟩) hstep with hc | hi
          · exact cuadra_of_cortada hdial hc trivial
          · exact cuadra_of_recuerda (hi.dialogos ▸ hdial) (h.of_intacta hi)
              trivial
      | onStart => exact h.cuadra_onStart hdial hstep
      | onFinish t => exact cuadra_onFinish hdial hstep
      | onStop => exact h.cuadra_onStop hs hdial hstep
      | onBackPressed => exact h.cuadra_onBackPressed hs hdial hstep

/-- In every run of a match screen there is one clock until the dialog is
opened, and one dialog, exactly when no step goes astray. -/
theorem unReloj_iff (uid jugadaId : String) {pasos : List Paso}
    {m : MultPlayer}
    (hrun : Runs.run avanza (creada uid jugadaId) pasos = some m) :
    (∀ xs ys t, pasos = xs ++ ys →
        Runs.run avanza (creada uid jugadaId) xs = some t → UnReloj t) ↔
      Runs.Along avanza SinTropiezo (creada uid jugadaId) pasos := by
  refine Runs.reached_iff_along_of_step
    (I := fun m => m.caida = false → Sana m ∧ Recuerda m) ?_
    (fun _ => ⟨sana_creada uid jugadaId, fun _ hj => absurd rfl hj⟩)
    ⟨Nat.zero_le 1, nofun⟩ hrun
  intro s a s' hI hu hstep
  obtain ⟨hs, hr⟩ := hI (caida_of_avanza hstep)
  obtain ⟨hiff, hnext⟩ := hr.cuadra hs hu.1 hstep
  exact ⟨hiff, fun hok hviva => ⟨hs.paso hstep hviva, hnext hok hviva⟩⟩

/-- The screen is started and shown a match with both players. -/
def primeraInstantanea : List Paso :=
  [.evento .vacia .onStart,
    .entrega false (some { Jugada.nueva "a" "" with jugadorDosID := "b" })]

/-- The first snapshot starts the clock. -/
theorem unReloj_primera :
    ∃ m, Runs.run avanza (creada "b" "g") primeraInstantanea = some m ∧
      m.relojes = [0] ∧ UnReloj m := by
  have hunReloj := (unReloj_iff "b" "g"
    (show Runs.run avanza (creada "b" "g") primeraInstantanea = some _ from
      rfl)).mpr
  refine ⟨_, rfl, rfl, hunReloj ?_ primeraInstantanea [] _
    (List.append_nil primeraInstantanea).symm rfl⟩
  refine ⟨Or.inl rfl, fun s hs => ?_⟩
  obtain ⟨-, rfl⟩ := avanza_onStart hs
  exact ⟨Or.inr (Or.inr (Or.inl rfl)), fun _ _ => trivial⟩

/-- Two snapshots before the names: two clocks run and no dialog is open. -/
theorem dos_instantaneas :
    ∃ m, Runs.run avanza (creada "b" "g")
        [.evento .vacia .onStart,
          .entrega false (some { Jugada.nueva "a" "" with jugadorDosID := "b" }),
          .entrega false
            (some { Jugada.nueva "a" "" with jugadorDosID := "b" })] =
        some m ∧ ¬UnReloj m := by
  refine ⟨_, rfl, fun h => ?_⟩
  rcases h.2 rfl rfl nofun with hone | hne
  · exact absurd hone (by decide)
  · exact hne rfl

end Tocate.MultPlayer
