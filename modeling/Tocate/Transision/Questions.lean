import Tocate.Transision.Answers

/-!
# Which invitation an answer is for

A dialog is opened for the invitation that a snapshot shows first, and its two
buttons and its countdown act on the invitation that one field remembers.  Every
later snapshot that shows a pending invitation overwrites the field.  The
notification has taken the id along.
-/

namespace Tocate.Transision

open Cloud

/-! ## What has been asked -/

/-- What each dialog was opened for, what the notification was made for, and
the invitation that was found last. -/
structure Registro where
  de : ℕ → Option String
  avisada : Option String
  ultima : Option String

def Registro.vacio : Registro where
  de := fun _ => none
  avisada := none
  ultima := none

/-- The invitation that a snapshot brings up is noted, carried along a run. -/
def anota (s : Sesion) (e : Suceso) (r : Registro) : Registro :=
  match e with
  | .onEvent _ value =>
      match value.bind (encontrada s.pantalla.uid) with
      | none => r
      | some (id, _) =>
          if s.pantalla.jPausado then
            { r with avisada := some id, ultima := some id }
          else
            { r with
              de := Function.update r.de s.pantalla.creados (some id)
              ultima := some id }
  | _ => r

abbrev pasoAnotado : Sesion × Registro → Suceso → Option (Sesion × Registro) :=
  Runs.ghost Sesion.step anota

/-- The event does just this. -/
def Hace (s : Sesion) (e : Suceso) (f : Efecto) : Prop :=
  (s.step e).map Sesion.hechos = some (s.hechos ++ [f])

/-- An answer in a dialog is for the invitation whose snapshot has opened the
dialog, and the notification opens the one it was made for. -/
def ResponderALaSuya (p : Sesion × Registro) : Suceso → Prop
  | .aceptar d =>
      ∃ id, p.2.de d = some id ∧ Hace p.1 (.aceptar d) (.pinvDirecta (some id))
  | .cancelar d =>
      ∃ id, p.2.de d = some id ∧ Hace p.1 (.cancelar d) (.cancelarJugada id)
  | .onFinishDial d =>
      ∃ id, p.2.de d = some id ∧ Hace p.1 (.onFinishDial d) (.cancelarJugada id)
  | .abreNotificacion =>
      ∃ id, p.2.avisada = some id ∧
        Hace p.1 .abreNotificacion (.pinvDirecta (some id))
  | _ => True

/-- The dialog that is answered. -/
def Suceso.contesta? : Suceso → Option ℕ
  | .aceptar d | .cancelar d | .onFinishDial d => some d
  | _ => none

/-- When a dialog is answered, the invitation found last is the one that the
dialog was opened for. -/
def Vigente (p : Sesion × Registro) (e : Suceso) : Prop :=
  ∀ d ∈ e.contesta?, p.2.ultima = p.2.de d

instance (p : Sesion × Registro) (e : Suceso) : Decidable (Vigente p e) :=
  inferInstanceAs (Decidable (∀ d ∈ e.contesta?, _))

theorem vigente_iff {s : Sesion} {r : Registro} {e : Suceso} {d : ℕ}
    (h : e.contesta? = some d) : Vigente (s, r) e ↔ r.ultima = r.de d := by
  simp [Vigente, h]

/-! ## What the screen keeps -/

/-- Dialog `d` asks about an invitation, and answering it takes nothing that is
not there. -/
structure Preguntada (m : Transision) (r : Registro) (d : ℕ) : Prop where
  de : ∃ id, r.de d = some id
  tiponoti : m.tiponoti = some .notifica
  countDownTimerDial : ∃ t, m.countDownTimerDial = some t
  jugadaId : ∃ id, m.jugadaId = some id

structure Anotada (m : Transision) (r : Registro) : Prop where
  contSalir : m.contSalir ≤ 1
  ultima : r.ultima = m.jugadaId
  avisada : ∀ id, m.notificacion = some id → r.avisada = some id
  dialogos : ∀ d, d ∈ m.abiertos ∨ d ∈ m.relojesDial → Preguntada m r d

section Handlers

variable {m m' : Transision} {r : Registro}

theorem anotada_nueva (uid : String) : Anotada (nueva uid) .vacio := by
  refine ⟨Nat.zero_le 1, rfl, nofun, ?_⟩
  rintro d (hd | hd) <;> cases hd

/-- A handler that opens no dialog and leaves the fields of the dialogs. -/
theorem Anotada.deja (h : Anotada m r) (hcont : m'.contSalir ≤ 1)
    (habiertos : m'.abiertos ⊆ m.abiertos)
    (hrelojes : m'.relojesDial ⊆ m.relojesDial)
    (hultimo : m'.countDownTimerDial = m.countDownTimerDial)
    (htipo : m'.tiponoti = m.tiponoti) (hid : m'.jugadaId = m.jugadaId)
    (hnoti : ∀ id, m'.notificacion = some id → m.notificacion = some id) :
    Anotada m' r := by
  refine ⟨hcont, ?_, fun id hn => h.avisada id (hnoti id hn), fun d hd => ?_⟩
  · rw [hid]
    exact h.ultima
  · have hp := h.dialogos d (hd.imp (fun hd => habiertos hd)
      fun hd => hrelojes hd)
    refine ⟨hp.de, ?_, ?_, ?_⟩
    · rw [htipo]
      exact hp.tiponoti
    · rw [hultimo]
      exact hp.countDownTimerDial
    · rw [hid]
      exact hp.jugadaId

theorem Anotada.ajena (h : Anotada m r) {t : Turno} (ht : Ajena m t) :
    Anotada t.state r :=
  h.deja ht.contSalir (fun _ hd => ht.abiertos ▸ hd)
    (fun _ hd => ht.relojesDial ▸ hd) ht.countDownTimerDial ht.tiponoti
    ht.jugadaId fun _ hn => ht.notificacion ▸ hn

/-- A snapshot: what it finds is noted. -/
theorem Anotada.onEvent (h : Anotada m r) {s : Sesion} (hs : s.pantalla = m)
    (n : ℕ) (value : Option (List (String × Jugada))) :
    Anotada (m.onEvent value).state (anota s (.onEvent n value) r) := by
  subst hs
  rcases onEvent_cases s.pantalla value with ⟨hno, hturno⟩ |
    ⟨⟨id, j⟩, hp, ⟨hpausado, hturno⟩ | ⟨hfrente, hturno⟩⟩
  · simp only [anota, hno, hturno]
    exact h
  · simp only [anota, hp, hturno, hpausado, if_true]
    refine ⟨h.contSalir, rfl, fun _ hn => hn, fun d hd => ?_⟩
    have hd' := h.dialogos d hd
    exact ⟨hd'.de, hd'.tiponoti, hd'.countDownTimerDial, id, rfl⟩
  · simp only [anota, hp, hturno, hfrente, Bool.false_eq_true, if_false]
    refine ⟨h.contSalir, rfl, h.avisada, fun d hd => ?_⟩
    refine ⟨?_, rfl, ⟨_, rfl⟩, id, rfl⟩
    by_cases hnueva : d = s.pantalla.creados
    · exact ⟨id, by rw [hnueva]; exact Function.update_self _ _ _⟩
    · have hvieja : d ∈ s.pantalla.abiertos ∨ d ∈ s.pantalla.relojesDial := by
        simpa [dialogo_NotificacionJugada, hnueva] using hd
      obtain ⟨id', hid'⟩ := (h.dialogos d hvieja).de
      exact ⟨id', (Function.update_of_ne hnueva _ _).trans hid'⟩

/-- The dialogs that are left after an answer. -/
theorem Anotada.contesta (h : Anotada m r) (d t : ℕ) :
    Anotada
      { m with
        relojesDial := m.relojesDial.erase t
        abiertos := m.abiertos.erase d } r :=
  h.deja h.contSalir List.erase_subset List.erase_subset rfl rfl rfl
    fun _ hn => hn

end Handlers

/-- An uncaught exception changes nothing but that the app is down. -/
theorem Anotada.cierra {t : Turno} {r : Registro} (h : Anotada t.state r)
    (s : Sesion) : Anotada (s.cierra t).pantalla r :=
  h.deja h.contSalir (List.Subset.refl _) (List.Subset.refl _) rfl rfl rfl
    fun _ hn => hn

/-- What the event does is what its handler writes. -/
theorem hace_iff {s : Sesion} {e : Suceso} {t : Turno} {f : Efecto}
    (hcaida : s.pantalla.caida = false)
    (ht : atiende s.pantalla e = some t) : Hace s e f ↔ t.writes = [f] := by
  have hstep : s.step e = some (s.cierra t) := by
    simp only [Sesion.step, hcaida, Bool.false_eq_true, if_false, ht,
      Option.map_some]
  unfold Hace
  rw [hstep, Option.map_some, Option.some_inj]
  exact List.append_right_inj s.hechos

/-- One event. -/
theorem Anotada.step {p p' : Sesion × Registro} {e : Suceso}
    (h : Anotada p.1.pantalla p.2) (hstep : pasoAnotado p e = some p') :
    Anotada p'.1.pantalla p'.2 := by
  obtain ⟨s, r⟩ := p
  obtain ⟨s', r'⟩ := p'
  obtain ⟨hs, hr⟩ := Runs.ghost_eq_some hstep
  obtain ⟨-, t, ht, hs'⟩ := step_eq_some hs
  dsimp only at h ht hs' hr ⊢
  subst hs' hr
  apply Anotada.cierra
  rcases atiende_cases h.contSalir ht with ⟨hvida, hajena⟩ |
    ⟨n, value, rfl, rfl⟩ | ⟨d, rfl, hd, rfl⟩ | ⟨d, rfl, hd, rfl⟩ |
    ⟨d, rfl, hd, rfl⟩ | ⟨id, rfl, hid, rfl⟩
  · have hsame : anota s e r = r := by
      cases e with
      | onEvent _ _ => cases hvida
      | _ => rfl
    rw [hsame]
    exact h.ajena hajena
  · exact h.onEvent rfl n value
  · obtain ⟨-, htipo, ⟨t, hultimo⟩, id, hid⟩ := h.dialogos d (Or.inl hd)
    rw [aceptar_eq htipo hultimo hid]
    exact h.contesta d t
  · obtain ⟨-, htipo, ⟨t, hultimo⟩, id, hid⟩ := h.dialogos d (Or.inl hd)
    rw [cancelar_eq htipo hultimo hid]
    exact h.contesta d t
  · obtain ⟨-, htipo, -, id, hid⟩ := h.dialogos d (Or.inr hd)
    rw [onFinishDial_eq htipo hid]
    exact h.contesta d d
  · exact h.deja h.contSalir (List.Subset.refl _) (List.Subset.refl _) rfl rfl
      rfl nofun

/-- One event: an answer is for its own invitation exactly when that is the one
found last. -/
theorem Anotada.responder_iff {p p' : Sesion × Registro} {e : Suceso}
    (h : Anotada p.1.pantalla p.2) (hstep : pasoAnotado p e = some p') :
    ResponderALaSuya p e ↔ Vigente p e := by
  obtain ⟨s, r⟩ := p
  obtain ⟨hs, -⟩ := Runs.ghost_eq_some hstep
  obtain ⟨hcaida, t, ht, -⟩ := step_eq_some hs
  dsimp only at h hs ht hcaida
  -- the invitation that is answered is the one found last
  have hultima : ∀ {d : ℕ} {id : String} {f : String → Efecto},
      s.pantalla.jugadaId = some id → (∃ id, r.de d = some id) →
      (∀ x y, f x = f y → x = y) →
      ((∃ id', r.de d = some id' ∧ [f id] = [f id']) ↔ r.ultima = r.de d) := by
    rintro d id f hid ⟨id', hid'⟩ hf
    rw [h.ultima, hid, hid']
    constructor
    · rintro ⟨x, hx, heq⟩
      rw [hf id x (List.singleton_injective heq)]
      exact hx.symm
    · intro heq
      exact ⟨id', rfl, by rw [Option.some.inj heq]⟩
  rcases atiende_cases h.contSalir ht with ⟨hvida, -⟩ |
    ⟨n, value, rfl, rfl⟩ | ⟨d, rfl, hd, rfl⟩ | ⟨d, rfl, hd, rfl⟩ |
    ⟨d, rfl, hd, rfl⟩ | ⟨id, rfl, hid, rfl⟩
  · cases e with
    | onEvent _ _ => exact iff_of_true trivial nofun
    | aceptar _ => cases hvida
    | cancelar _ => cases hvida
    | onFinishDial _ => cases hvida
    | abreNotificacion => cases hvida
    | _ =>
        refine iff_of_true trivial ?_
        rintro d ⟨⟩
  · exact iff_of_true trivial nofun
  · obtain ⟨hde, htipo, ⟨t, hultimo⟩, id, hid⟩ := h.dialogos d (Or.inl hd)
    simp only [ResponderALaSuya, hace_iff hcaida ht,
      aceptar_eq htipo hultimo hid]
    exact (hultima hid hde fun x y heq =>
      Option.some.inj (Efecto.pinvDirecta.inj heq)).trans (vigente_iff rfl).symm
  · obtain ⟨hde, htipo, ⟨t, hultimo⟩, id, hid⟩ := h.dialogos d (Or.inl hd)
    simp only [ResponderALaSuya, hace_iff hcaida ht,
      cancelar_eq htipo hultimo hid]
    exact (hultima hid hde fun x y heq => Efecto.cancelarJugada.inj heq).trans
      (vigente_iff rfl).symm
  · obtain ⟨hde, htipo, -, id, hid⟩ := h.dialogos d (Or.inr hd)
    simp only [ResponderALaSuya, hace_iff hcaida ht, onFinishDial_eq htipo hid]
    exact (hultima hid hde fun x y heq => Efecto.cancelarJugada.inj heq).trans
      (vigente_iff rfl).symm
  · refine iff_of_true ?_ nofun
    exact ⟨id, h.avisada id hid, (hace_iff hcaida ht).mpr rfl⟩

/-- In every run of the menu screen each answer is for the invitation that its
dialog was opened for, and each notification opens the one it was made for,
exactly when each dialog is answered while its invitation is the one found
last. -/
theorem responder_a_la_suya_iff {uid : String} {acts : List Suceso}
    {p : Sesion × Registro}
    (hrun : Runs.run pasoAnotado (Sesion.inicial uid, .vacio) acts = some p) :
    Runs.Along pasoAnotado ResponderALaSuya (Sesion.inicial uid, .vacio) acts ↔
      Runs.Along pasoAnotado Vigente (Sesion.inicial uid, .vacio) acts :=
  Runs.Along.congr (I := fun p => Anotada p.1.pantalla p.2)
    (fun _ _ _ h hstep => h.step hstep)
    (fun _ _ _ h hstep => h.responder_iff hstep) (anotada_nueva uid) hrun

/-- `b` is shown an invitation, accepts, and taps a notification later. -/
def aceptaYLuegoAvisada : List Suceso :=
  alFrente ++ [.onEvent 0 (some [invitacion]), .aceptar 0, .onPause, .onStop,
    .onEvent 1 (some [("f", Jugada.nueva "c" "b")]), .abreNotificacion]

theorem responder_a_la_suya_blas :
    (Runs.run pasoAnotado (Sesion.inicial "b", .vacio)
        aceptaYLuegoAvisada).isSome = true ∧
      Runs.Along pasoAnotado ResponderALaSuya (Sesion.inicial "b", .vacio)
        aceptaYLuegoAvisada := by
  obtain ⟨p, hrun⟩ := Option.isSome_iff_exists.mp
    (show (Runs.run pasoAnotado (Sesion.inicial "b", .vacio)
      aceptaYLuegoAvisada).isSome = true by decide)
  refine ⟨?_, (responder_a_la_suya_iff hrun).mpr (by decide)⟩
  rw [hrun]
  rfl

/-- A second invitation arrives, earlier in the order of the documents, while
the dialog of the first one is open. -/
def invitadaDosVeces : List Suceso :=
  alFrente ++ [.onEvent 0 (some [invitacion]),
    .onEvent 0 (some [("f", Jugada.nueva "c" "b"), invitacion])]

/-- The countdown of the first dialog runs out and refuses the second
invitation. -/
theorem responde_a_la_otra :
    ∃ p, Runs.run pasoAnotado (Sesion.inicial "b", .vacio) invitadaDosVeces =
        some p ∧
      p.2.de 0 = some "g" ∧ Hace p.1 (.onFinishDial 0) (.cancelarJugada "f") ∧
      ¬ResponderALaSuya p (.onFinishDial 0) := by
  have hfin : (Runs.run pasoAnotado (Sesion.inicial "b", .vacio)
      invitadaDosVeces).map (fun p => (p.2.de 0,
        (p.1.step (.onFinishDial 0)).map Sesion.hechos,
        p.1.hechos ++ [.cancelarJugada "f"])) = some (some "g",
      some [.actulizarDBuser "on", .actulizarDBuser "on",
        .actulizarDBuser "on", .cancelarJugada "f"],
      [.actulizarDBuser "on", .actulizarDBuser "on", .actulizarDBuser "on",
        .cancelarJugada "f"]) := by decide
  obtain ⟨p, hrun, h⟩ := Option.map_eq_some_iff.mp hfin
  simp only [Prod.mk.injEq] at h
  obtain ⟨hde, hhace, hhechos⟩ := h
  have hotra : Hace p.1 (.onFinishDial 0) (.cancelarJugada "f") :=
    hhace.trans (congrArg some hhechos.symm)
  refine ⟨p, hrun, hde, hotra, ?_⟩
  rintro ⟨id, hid, hsuya⟩
  rw [hde] at hid
  cases hid
  have heq := Option.some.inj (hotra.symm.trans hsuya)
  exact absurd (List.append_cancel_left heq) (by decide)

end Tocate.Transision
