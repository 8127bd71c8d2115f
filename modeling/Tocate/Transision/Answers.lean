import Tocate.Transision.Activity
import Tocate.Lib.Runs
import Mathlib.Data.List.Nodup

/-!
# One answer for each invitation

Every listener that `DetectarJugada` has left behind opens a dialog of its own,
each with a countdown of its own, and all of them answer for the invitation that
one field remembers.  An invitation is answered once in every run in which no
dialog is opened over another one and no invitation comes up again after its
answer.
-/

namespace Tocate.Transision

open Cloud

/-- The invitation that the effect answers: it is accepted by starting the
search with `pinvDirecta`, and refused by `cancelarJugada`. -/
def responde : Efecto → Option String
  | .pinvDirecta id => id
  | .cancelarJugada id => some id
  | .actulizarDBuser _ | .notify _ | .finishAffinity => none

/-- The invitations answered so far. -/
def respuestas (s : Sesion) : List String := s.hechos.filterMap responde

/-- The documents of a snapshot. -/
def Suceso.value? : Suceso → Option (List (String × Jugada))
  | .onEvent _ value => value
  | _ => none

/-- A snapshot shows a pending invitation to a screen in front only while no
dialog is open, and never one that has been answered; on a paused screen this is
asked only while a dialog is open.  A notification is tapped only for an
invitation without an answer that no open dialog is about. -/
structure UnaVez (s : Sesion) (e : Suceso) : Prop where
  onEvent : ∀ p ∈ e.value?.bind (encontrada s.pantalla.uid),
    (s.pantalla.jPausado = false → s.pantalla.abiertos = []) ∧
      (s.pantalla.jPausado = false ∨ s.pantalla.abiertos ≠ [] →
        p.1 ∉ respuestas s)
  abreNotificacion : e = .abreNotificacion →
    ∀ id ∈ s.pantalla.notificacion, id ∉ respuestas s ∧
      (s.pantalla.abiertos ≠ [] → s.pantalla.jugadaId ≠ some id)

instance (s : Sesion) (e : Suceso) : Decidable (UnaVez s e) :=
  decidable_of_iff (_ ∧ _)
    ⟨fun h => ⟨h.1, h.2⟩, fun h => ⟨h.onEvent, h.abreNotificacion⟩⟩

/-! ## What each handler does -/

/-- A handler that has nothing to do with dialogs, invitations and answers. -/
structure Ajena (m : Transision) (t : Turno) : Prop where
  contSalir : t.state.contSalir ≤ 1
  abiertos : t.state.abiertos = m.abiertos
  relojesDial : t.state.relojesDial = m.relojesDial
  countDownTimerDial : t.state.countDownTimerDial = m.countDownTimerDial
  tiponoti : t.state.tiponoti = m.tiponoti
  jugadaId : t.state.jugadaId = m.jugadaId
  notificacion : t.state.notificacion = m.notificacion
  writes : t.writes.filterMap responde = []

/-- The life cycle callbacks and the countdown of the back key. -/
def Suceso.esVida : Suceso → Bool
  | .onEvent _ _ | .aceptar _ | .cancelar _ | .onFinishDial _
  | .abreNotificacion => false
  | _ => true

section Equations

variable {m : Transision} {d t : ℕ} {id : String}

theorem aceptar_eq (htipo : m.tiponoti = some .notifica)
    (hultimo : m.countDownTimerDial = some t) (hid : m.jugadaId = some id) :
    m.aceptar d =
      { state :=
          { m with
            relojesDial := m.relojesDial.erase t
            abiertos := m.abiertos.erase d }
        writes := [.pinvDirecta (some id)] } := by
  simp [aceptar, siNotifica, htipo, haz, hid, cancelaCountDownTimerDial,
    hultimo, sigue, dismiss]

theorem cancelar_eq (htipo : m.tiponoti = some .notifica)
    (hultimo : m.countDownTimerDial = some t) (hid : m.jugadaId = some id) :
    m.cancelar d =
      { state :=
          { m with
            relojesDial := m.relojesDial.erase t
            abiertos := m.abiertos.erase d }
        writes := [.cancelarJugada id] } := by
  simp [cancelar, siNotifica, htipo, cancelarJugada, hid, haz,
    cancelaCountDownTimerDial, hultimo, sigue, dismiss]

theorem onFinishDial_eq (htipo : m.tiponoti = some .notifica)
    (hid : m.jugadaId = some id) :
    m.onFinishDial d =
      { state :=
          { m with
            relojesDial := m.relojesDial.erase d
            abiertos := m.abiertos.erase d }
        writes := [.cancelarJugada id] } := by
  simp [onFinishDial, siNotifica, htipo, cancelarJugada, hid, haz, sigue,
    dismiss]

/-- The dialog that asks whether to leave is never reached. -/
theorem onStart_eq (h : m.contSalir ≤ 1) :
    m.onStart =
      { state := { DetectarJugada m with jPausado := false }
        writes := [.actulizarDBuser "on"] } := by
  have hno : m.contSalir ≠ 2 := by omega
  simp [onStart, actulizarDBuser, haz, DetectarJugada, hno, sigue]

/-- What a snapshot does: nothing, or the invitation found is remembered and
told in a notification or a dialog. -/
theorem onEvent_cases (m : Transision)
    (value : Option (List (String × Jugada))) :
    (value.bind (encontrada m.uid) = none ∧ m.onEvent value = sigue m) ∨
      ∃ p, value.bind (encontrada m.uid) = some p ∧
        ((m.jPausado = true ∧
            m.onEvent value =
              { state :=
                  { m with
                    jugadaId := some p.1
                    notificacion := some p.1 }
                writes := [.notify p.1] }) ∨
          (m.jPausado = false ∧
            m.onEvent value =
              { state :=
                  { dialogo_NotificacionJugada m with
                    jugadaId := some p.1
                    tiponoti := some .notifica } })) := by
  unfold onEvent
  split
  next hno => exact Or.inl ⟨hno, rfl⟩
  next id j hp =>
    refine Or.inr ⟨(id, j), hp, ?_⟩
    dsimp only
    by_cases hpausado : m.jPausado = true
    · rw [if_pos hpausado]
      exact Or.inl ⟨hpausado, rfl⟩
    · rw [if_neg hpausado]
      exact Or.inr ⟨by simpa using hpausado, rfl⟩

theorem ajena_onBackPressed (h : m.contSalir ≤ 1) :
    Ajena m m.onBackPressed := by
  by_cases hcero : m.contSalir = 0
  · have hturno : m.onBackPressed =
        { state :=
            { m with
              contSalir := 1
              relojesSalir := m.relojesSalir + 1 } } := by
      simp [onBackPressed, hcero, sigue]
    rw [hturno]
    exact ⟨Nat.le_refl 1, rfl, rfl, rfl, rfl, rfl, rfl, rfl⟩
  · have hturno : m.onBackPressed =
        { state := { m with relojesSalir := m.relojesSalir + 1 }
          writes := [.actulizarDBuser "off", .finishAffinity] } := by
      simp [onBackPressed, hcero, actulizarDBuser, haz, sigue]
    rw [hturno]
    exact ⟨h, rfl, rfl, rfl, rfl, rfl, rfl, rfl⟩

/-- What an event on the screen is handled by. -/
theorem atiende_cases {e : Suceso} {r : Turno} (h : m.contSalir ≤ 1)
    (hr : atiende m e = some r) :
    (e.esVida = true ∧ Ajena m r) ∨
      (∃ n value, e = .onEvent n value ∧ r = m.onEvent value) ∨
      (∃ d, e = .aceptar d ∧ d ∈ m.abiertos ∧ r = m.aceptar d) ∨
      (∃ d, e = .cancelar d ∧ d ∈ m.abiertos ∧ r = m.cancelar d) ∨
      (∃ d, e = .onFinishDial d ∧ d ∈ m.relojesDial ∧ r = m.onFinishDial d) ∨
      ∃ id, e = .abreNotificacion ∧ m.notificacion = some id ∧
        r = m.abreNotificacion id := by
  cases e with
  | onCreate =>
      obtain ⟨-, ⟨⟩⟩ := Option.ite_none_left_eq_some.mp hr
      exact Or.inl ⟨rfl, h, rfl, rfl, rfl, rfl, rfl, rfl, rfl⟩
  | onStart =>
      obtain ⟨-, ⟨⟩⟩ := Option.ite_none_right_eq_some.mp hr
      rw [onStart_eq h]
      exact Or.inl ⟨rfl, h, rfl, rfl, rfl, rfl, rfl, rfl, rfl⟩
  | onResume =>
      obtain ⟨-, ⟨⟩⟩ := Option.ite_none_right_eq_some.mp hr
      exact Or.inl ⟨rfl, h, rfl, rfl, rfl, rfl, rfl, rfl, rfl⟩
  | onRestart =>
      obtain ⟨-, ⟨⟩⟩ := Option.ite_none_right_eq_some.mp hr
      exact Or.inl ⟨rfl, h, rfl, rfl, rfl, rfl, rfl, rfl, rfl⟩
  | onPause =>
      obtain ⟨-, ⟨⟩⟩ := Option.ite_none_right_eq_some.mp hr
      exact Or.inl ⟨rfl, h, rfl, rfl, rfl, rfl, rfl, rfl, rfl⟩
  | onStop =>
      obtain ⟨-, ⟨⟩⟩ := Option.ite_none_right_eq_some.mp hr
      exact Or.inl ⟨rfl, h, rfl, rfl, rfl, rfl, rfl, rfl, rfl⟩
  | onBackPressed =>
      obtain ⟨-, ⟨⟩⟩ := Option.ite_none_right_eq_some.mp hr
      exact Or.inl ⟨rfl, ajena_onBackPressed h⟩
  | onFinishSalir =>
      obtain ⟨-, ⟨⟩⟩ := Option.ite_none_right_eq_some.mp hr
      exact Or.inl ⟨rfl, Nat.zero_le 1, rfl, rfl, rfl, rfl, rfl, rfl, rfl⟩
  | onEvent n value =>
      obtain ⟨-, ⟨⟩⟩ := Option.ite_none_right_eq_some.mp hr
      exact Or.inr (Or.inl ⟨n, value, rfl, rfl⟩)
  | aceptar d =>
      obtain ⟨hd, ⟨⟩⟩ := Option.ite_none_right_eq_some.mp hr
      exact Or.inr (Or.inr (Or.inl ⟨d, rfl, hd, rfl⟩))
  | cancelar d =>
      obtain ⟨hd, ⟨⟩⟩ := Option.ite_none_right_eq_some.mp hr
      exact Or.inr (Or.inr (Or.inr (Or.inl ⟨d, rfl, hd, rfl⟩)))
  | onFinishDial d =>
      obtain ⟨hd, ⟨⟩⟩ := Option.ite_none_right_eq_some.mp hr
      exact Or.inr (Or.inr (Or.inr (Or.inr (Or.inl ⟨d, rfl, hd, rfl⟩))))
  | abreNotificacion =>
      obtain ⟨id, hid, rfl⟩ := Option.map_eq_some_iff.mp hr
      exact Or.inr (Or.inr (Or.inr (Or.inr (Or.inr ⟨id, rfl, hid, rfl⟩))))

theorem step_eq_some {s s' : Sesion} {e : Suceso} (h : s.step e = some s') :
    s.pantalla.caida = false ∧
      ∃ r, atiende s.pantalla e = some r ∧ s' = s.cierra r := by
  obtain ⟨hcaida, hmap⟩ := Option.ite_none_left_eq_some.mp h
  obtain ⟨r, hr, hs'⟩ := Option.map_eq_some_iff.mp hmap
  exact ⟨by simpa using hcaida, r, hr, hs'.symm⟩

end Equations

/-! ## The dialog on the screen -/

/-- Dialog `d` is the only one, its countdown the only one that runs and the one
the field remembers, and the invitation it is about has no answer yet. -/
structure Pregunta (m : Transision) (resp : List String) (d : ℕ) : Prop where
  abiertos : m.abiertos = [d]
  relojesDial : m.relojesDial = [d]
  countDownTimerDial : m.countDownTimerDial = some d
  tiponoti : m.tiponoti = some .notifica
  jugadaId : ∃ id, m.jugadaId = some id ∧ id ∉ resp

structure Ordenada (m : Transision) (resp : List String) : Prop where
  contSalir : m.contSalir ≤ 1
  dialogo : (m.abiertos = [] ∧ m.relojesDial = []) ∨
    ∃ d, Pregunta m resp d
  unica : resp.Nodup

/-- What a handler leaves, with the answers it has given. -/
def Bien (resp : List String) (t : Turno) : Prop :=
  Ordenada t.state (resp ++ t.writes.filterMap responde)

section Handlers

variable {m : Transision} {resp : List String}

/-- A handler that has nothing to do with dialogs and answers. -/
theorem Ordenada.ajena (h : Ordenada m resp) {t : Turno} (ht : Ajena m t) :
    Bien resp t := by
  unfold Bien
  rw [ht.writes, List.append_nil]
  refine ⟨ht.contSalir, ?_, h.unica⟩
  rw [ht.abiertos, ht.relojesDial]
  refine h.dialogo.imp_right ?_
  rintro ⟨d, hd⟩
  refine ⟨d, ?_, ?_, ?_, ?_, ?_⟩
  · rw [ht.abiertos, hd.abiertos]
  · rw [ht.relojesDial, hd.relojesDial]
  · rw [ht.countDownTimerDial, hd.countDownTimerDial]
  · rw [ht.tiponoti, hd.tiponoti]
  · rw [ht.jugadaId]
    exact hd.jugadaId

/-- The one open dialog is answered and goes, and so does its countdown. -/
theorem Ordenada.contesta {id : String} (h : Ordenada m resp)
    (hno : id ∉ resp) {t : Turno} (hcont : t.state.contSalir = m.contSalir)
    (habiertos : t.state.abiertos = []) (hrelojes : t.state.relojesDial = [])
    (hws : t.writes.filterMap responde = [id]) : Bien resp t := by
  unfold Bien
  rw [hws]
  refine ⟨?_, Or.inl ⟨habiertos, hrelojes⟩, ?_⟩
  · rw [hcont]
    exact h.contSalir
  · exact List.Nodup.append h.unica (List.nodup_singleton id)
      (List.disjoint_singleton.mpr hno)

/-- An open dialog, or a countdown that runs, is the one dialog. -/
theorem Ordenada.pregunta (h : Ordenada m resp) {d : ℕ}
    (hd : d ∈ m.abiertos ∨ d ∈ m.relojesDial) : Pregunta m resp d := by
  rcases h.dialogo with ⟨habiertos, hrelojes⟩ | ⟨d', hp⟩
  · rw [habiertos, hrelojes] at hd
    simp at hd
  · rw [hp.abiertos, hp.relojesDial, List.mem_singleton, or_self] at hd
    rw [hd]
    exact hp

/-- Nothing is left when the one dialog goes. -/
theorem Pregunta.vacia {d : ℕ} (hp : Pregunta m resp d) :
    m.abiertos.erase d = [] ∧ m.relojesDial.erase d = [] := by
  rw [hp.abiertos, hp.relojesDial]
  simp

theorem Pregunta.aceptar {d : ℕ} (h : Ordenada m resp)
    (hp : Pregunta m resp d) : Bien resp (m.aceptar d) := by
  obtain ⟨id, hid, hno⟩ := hp.jugadaId
  rw [aceptar_eq hp.tiponoti hp.countDownTimerDial hid]
  exact h.contesta hno rfl hp.vacia.1 hp.vacia.2 rfl

theorem Pregunta.cancelar {d : ℕ} (h : Ordenada m resp)
    (hp : Pregunta m resp d) : Bien resp (m.cancelar d) := by
  obtain ⟨id, hid, hno⟩ := hp.jugadaId
  rw [cancelar_eq hp.tiponoti hp.countDownTimerDial hid]
  exact h.contesta hno rfl hp.vacia.1 hp.vacia.2 rfl

theorem Pregunta.onFinishDial {d : ℕ} (h : Ordenada m resp)
    (hp : Pregunta m resp d) : Bien resp (m.onFinishDial d) := by
  obtain ⟨id, hid, hno⟩ := hp.jugadaId
  rw [onFinishDial_eq hp.tiponoti hid]
  exact h.contesta hno rfl hp.vacia.1 hp.vacia.2 rfl

/-- A snapshot: an invitation without an answer opens the one dialog, or takes
the place of the one it is about. -/
theorem Ordenada.onEvent (h : Ordenada m resp)
    {value : Option (List (String × Jugada))}
    (hok : ∀ p ∈ value.bind (encontrada m.uid),
      (m.jPausado = false → m.abiertos = []) ∧
      (m.jPausado = false ∨ m.abiertos ≠ [] → p.1 ∉ resp)) :
    Bien resp (m.onEvent value) := by
  rcases onEvent_cases m value with ⟨-, hturno⟩ |
    ⟨p, hp, ⟨hpausado, hturno⟩ | ⟨hfrente, hturno⟩⟩
  · rw [hturno]
    exact h.ajena ⟨h.contSalir, rfl, rfl, rfl, rfl, rfl, rfl, rfl⟩
  · obtain ⟨-, hno⟩ := hok p hp
    rw [hturno]
    unfold Bien
    rw [show List.filterMap responde [.notify p.1] = [] from rfl,
      List.append_nil]
    refine ⟨h.contSalir, h.dialogo.imp_right ?_, h.unica⟩
    rintro ⟨d, hd⟩
    have habre : m.abiertos ≠ [] := by
      rw [hd.abiertos]
      exact List.cons_ne_nil d []
    exact ⟨d, hd.abiertos, hd.relojesDial, hd.countDownTimerDial, hd.tiponoti,
      p.1, rfl, hno (Or.inr habre)⟩
  · obtain ⟨habiertos, hno⟩ := hok p hp
    have hvacia := habiertos hfrente
    have hrelojes : m.relojesDial = [] := by
      rcases h.dialogo with ⟨-, hrelojes⟩ | ⟨d, hd⟩
      · exact hrelojes
      · rw [hd.abiertos] at hvacia
        exact absurd hvacia (List.cons_ne_nil d [])
    rw [hturno]
    unfold Bien
    rw [List.filterMap_nil, List.append_nil]
    refine ⟨h.contSalir, Or.inr ⟨m.creados, ?_, ?_, rfl, rfl, p.1, rfl,
      hno (Or.inl hfrente)⟩, h.unica⟩
    · simp [dialogo_NotificacionJugada, hvacia]
    · simp [dialogo_NotificacionJugada, hrelojes]

/-- A notification is tapped for an invitation that no dialog is about. -/
theorem Ordenada.abreNotificacion (h : Ordenada m resp) {id : String}
    (hno : id ∉ resp) (hotra : m.abiertos ≠ [] → m.jugadaId ≠ some id) :
    Bien resp (m.abreNotificacion id) := by
  simp only [Bien, Transision.abreNotificacion, haz, List.filterMap_cons,
    responde, List.filterMap_nil]
  refine ⟨h.contSalir, h.dialogo.imp_right ?_, ?_⟩
  · rintro ⟨d, hd⟩
    obtain ⟨id', hid', hno'⟩ := hd.jugadaId
    have habre : m.abiertos ≠ [] := by
      rw [hd.abiertos]
      simp
    refine ⟨d, hd.abiertos, hd.relojesDial, hd.countDownTimerDial, hd.tiponoti,
      id', hid', ?_⟩
    intro hmem
    rcases List.mem_append.mp hmem with hold | hnew
    · exact hno' hold
    · rw [List.mem_singleton.mp hnew] at hid'
      exact hotra habre hid'
  · exact List.Nodup.append h.unica (List.nodup_singleton id)
      (List.disjoint_singleton.mpr hno)

end Handlers

/-! ## Runs -/

theorem Ordenada.atiende {s : Sesion} {e : Suceso} {t : Turno}
    (h : Ordenada s.pantalla (respuestas s)) (hok : UnaVez s e)
    (ht : atiende s.pantalla e = some t) : Bien (respuestas s) t := by
  rcases atiende_cases h.contSalir ht with ⟨-, hajena⟩ | ⟨n, value, rfl, rfl⟩ |
    ⟨d, rfl, hd, rfl⟩ | ⟨d, rfl, hd, rfl⟩ | ⟨d, rfl, hd, rfl⟩ |
    ⟨id, rfl, hid, rfl⟩
  · exact h.ajena hajena
  · exact h.onEvent hok.onEvent
  · exact (h.pregunta (Or.inl hd)).aceptar h
  · exact (h.pregunta (Or.inl hd)).cancelar h
  · exact (h.pregunta (Or.inr hd)).onFinishDial h
  · obtain ⟨hno, hotra⟩ := hok.abreNotificacion rfl id hid
    exact h.abreNotificacion hno hotra

/-- One event of a guarded run. -/
theorem Ordenada.step {s s' : Sesion} {e : Suceso}
    (h : Ordenada s.pantalla (respuestas s)) (hok : UnaVez s e)
    (hstep : s.step e = some s') :
    Ordenada s'.pantalla (respuestas s') := by
  obtain ⟨-, t, ht, rfl⟩ := step_eq_some hstep
  have hbien := h.atiende hok ht
  have hresp : respuestas (s.cierra t) =
      respuestas s ++ t.writes.filterMap responde := List.filterMap_append
  rw [hresp]
  refine ⟨hbien.contSalir, hbien.dialogo.imp_right ?_, hbien.unica⟩
  rintro ⟨d, hd⟩
  exact ⟨d, hd.abiertos, hd.relojesDial, hd.countDownTimerDial, hd.tiponoti,
    hd.jugadaId⟩

theorem ordenada_inicial (uid : String) :
    Ordenada (Sesion.inicial uid).pantalla (respuestas (Sesion.inicial uid)) :=
  ⟨Nat.zero_le 1, Or.inl ⟨rfl, rfl⟩, List.nodup_nil⟩

/-- What has been done stays done. -/
theorem hechos_run {s t : Sesion} {acts : List Suceso}
    (hrun : Runs.run Sesion.step s acts = some t) :
    ∃ luego, t.hechos = s.hechos ++ luego := by
  refine Runs.invariant_of_step
    (I := fun t => ∃ luego, t.hechos = s.hechos ++ luego) ?_
    ⟨[], (List.append_nil _).symm⟩ hrun
  rintro t e t' ⟨luego, hluego⟩ hstep
  obtain ⟨-, u, -, rfl⟩ := step_eq_some hstep
  exact ⟨luego ++ u.writes, by
    simp only [Sesion.cierra, hluego, List.append_assoc]⟩

/-- Every invitation is answered at most once, and one that has been accepted
is never cancelled afterwards, in every run in which no dialog is opened over
another and no answered invitation comes up again. -/
theorem respondida_una_vez {uid : String} {acts : List Suceso} {s : Sesion}
    (hrun : Runs.run Sesion.step (Sesion.inicial uid) acts = some s)
    (hok : Runs.Along Sesion.step UnaVez (Sesion.inicial uid) acts) :
    (respuestas s).Nodup ∧
      ∀ xs ys t id, acts = xs ++ ys →
        Runs.run Sesion.step (Sesion.inicial uid) xs = some t →
        .pinvDirecta (some id) ∈ t.hechos →
        ∃ luego, s.hechos = t.hechos ++ luego ∧
          .cancelarJugada id ∉ luego := by
  have h : Ordenada s.pantalla (respuestas s) :=
    Runs.invariant (I := fun s => Ordenada s.pantalla (respuestas s))
      (fun _ _ _ ht ha hstep => ht.step ha hstep) (ordenada_inicial uid) hok hrun
  refine ⟨h.unica, ?_⟩
  rintro xs ys t id rfl hxs hacepta
  rw [Runs.run_append, hxs] at hrun
  obtain ⟨luego, hluego⟩ := hechos_run hrun
  refine ⟨luego, hluego, fun hcancela => ?_⟩
  have hunica := h.unica
  unfold respuestas at hunica
  rw [hluego, List.filterMap_append] at hunica
  have hantes : id ∈ t.hechos.filterMap responde :=
    List.mem_filterMap.mpr ⟨_, hacepta, rfl⟩
  have hdespues : id ∈ luego.filterMap responde :=
    List.mem_filterMap.mpr ⟨_, hcancela, rfl⟩
  exact (List.disjoint_of_nodup_append hunica) hantes hdespues

/-- The invitation `g` that `a` has sent to `b`. -/
def invitacion : String × Jugada := ("g", Jugada.nueva "a" "b")

/-- The screen of `b` comes to the front. -/
def alFrente : List Suceso := [.onCreate, .onStart, .onResume]

/-- `b` is shown the invitation once and accepts. -/
theorem respondida_una_vez_blas :
    ∃ s, Runs.run Sesion.step (Sesion.inicial "b")
        (alFrente ++ [.onEvent 0 (some [invitacion]), .aceptar 0, .onPause,
          .onStop]) = some s ∧
      respuestas s = ["g"] ∧ (respuestas s).Nodup := by
  have hvalor : (Runs.run Sesion.step (Sesion.inicial "b")
      (alFrente ++ [.onEvent 0 (some [invitacion]), .aceptar 0, .onPause,
        .onStop])).map respuestas = some ["g"] := by
    decide
  obtain ⟨s, hrun, hs⟩ := Option.map_eq_some_iff.mp hvalor
  exact ⟨s, hrun, hs, (respondida_una_vez hrun (by decide)).1⟩

/-- Two listeners are given the same invitation; `b` accepts in the second
dialog, and the countdown of the first one cancels the game. -/
theorem respondida_dos_veces :
    (Runs.run Sesion.step (Sesion.inicial "b")
      (alFrente ++ [.onEvent 0 (some [invitacion]),
        .onEvent 1 (some [invitacion]), .aceptar 1, .onFinishDial 0])).map
      (fun s => s.hechos.filter fun e => (responde e).isSome) =
    some [.pinvDirecta (some "g"), .cancelarJugada "g"] := by
  decide

end Tocate.Transision
