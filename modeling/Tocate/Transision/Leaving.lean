import Tocate.Transision.Answers

/-!
# The menu as a whole

Whatever happens to a menu, the handlers of its life cycle, of invitations and of
the back key find what they read, each game that it answers for or tells about has
been shown as a pending invitation, and it is left with a second press of the back
key while the first one is remembered.  The dialog that would ask before leaving
is never shown.
-/

namespace Tocate

open Cloud

/-- The game that an effect is about; `none` inside where it would be
`null`. -/
def Efecto.jugada : Efecto → Option (Option String)
  | .pinvDirecta jugadaId => some jugadaId
  | .cancelarJugada jugadaId | .notify jugadaId => some (some jugadaId)
  | .actulizarDBuser _ | .finishAffinity => none

namespace Transision

/-- A snapshot has shown the game as an invitation that waits for `uid`. -/
def Invitado (uid : String) (acts : List Suceso) (id : String) : Prop :=
  ∃ n docs j, .onEvent n (some docs) ∈ acts ∧ (id, j) ∈ docs ∧
    j.invitacionID = uid ∧ pendiente uid j = true

/-- Two presses: whether the last one is remembered, and how often a press has
followed one that was. -/
def pulsa (p : Bool × ℕ) : Suceso → Bool × ℕ
  | .onBackPressed => (true, if p.1 then p.2 + 1 else p.2)
  | .onFinishSalir => (false, p.2)
  | .onCreate | .onStart | .onResume | .onRestart | .onPause | .onStop
  | .onEvent _ _ | .aceptar _ | .cancelar _ | .onFinishDial _
  | .abreNotificacion => p

def salidas (acts : List Suceso) : ℕ := (acts.foldl pulsa (false, 0)).2

/-- What holds of a menu in a run with the events `acts`. -/
structure Firme (uid : String) (acts : List Suceso) (s : Sesion)
    (p : Bool × ℕ) : Prop where
  suya : s.pantalla.uid = uid
  viva : s.pantalla.caida = false
  contSalir : s.pantalla.contSalir = if p.1 then 1 else 0
  tiponoti : s.pantalla.tiponoti ≠ some .salir
  /-- A dialog finds its invitation. -/
  dialogos : s.pantalla.abiertos ≠ [] ∨ s.pantalla.relojesDial ≠ [] →
    s.pantalla.tiponoti = some .notifica ∧
      (∃ d, s.pantalla.countDownTimerDial = some d) ∧
      ∃ id, s.pantalla.jugadaId = some id
  jugadaId : ∀ id, s.pantalla.jugadaId = some id → Invitado uid acts id
  notificacion : ∀ id, s.pantalla.notificacion = some id → Invitado uid acts id
  hechos : ∀ e ∈ s.hechos, ∀ o, e.jugada = some o →
    ∃ id, o = some id ∧ Invitado uid acts id
  salidas : s.hechos.count .finishAffinity = p.2

variable {uid : String} {acts : List Suceso} {s s' : Sesion} {p p' : Bool × ℕ}
  {m : Transision} {t : Turno}

theorem firme_inicial (uid : String) (acts : List Suceso) :
    Firme uid acts (Sesion.inicial uid) (false, 0) where
  suya := rfl
  viva := rfl
  contSalir := rfl
  tiponoti := nofun
  dialogos := fun h => (h.elim (· rfl) (· rfl)).elim
  jugadaId := nofun
  notificacion := nofun
  hechos := List.forall_mem_nil _
  salidas := rfl

/-- A handler that leaves dialogs and invitations alone. -/
structure Rutina (m : Transision) (t : Turno) : Prop where
  failed : t.failed = false
  caida : t.state.caida = m.caida
  uid : t.state.uid = m.uid
  abiertos : t.state.abiertos = m.abiertos
  relojesDial : t.state.relojesDial = m.relojesDial
  countDownTimerDial : t.state.countDownTimerDial = m.countDownTimerDial
  tiponoti : t.state.tiponoti = m.tiponoti
  jugadaId : t.state.jugadaId = m.jugadaId
  notificacion : t.state.notificacion = m.notificacion
  writes : ∀ e ∈ t.writes, e.jugada = none

theorem Firme.rutina (h : Firme uid acts s p) (ht : Rutina s.pantalla t)
    (hcont : t.state.contSalir = if p'.1 then 1 else 0)
    (hsalidas : p.2 + t.writes.count .finishAffinity = p'.2) :
    Firme uid acts (s.cierra t) p' where
  suya := ht.uid.trans h.suya
  viva := by
    show (t.state.caida || t.failed) = false
    rw [ht.caida, ht.failed, h.viva]
    rfl
  contSalir := hcont
  tiponoti := by
    show t.state.tiponoti ≠ some .salir
    rw [ht.tiponoti]
    exact h.tiponoti
  dialogos := by
    show t.state.abiertos ≠ [] ∨ t.state.relojesDial ≠ [] →
      t.state.tiponoti = some .notifica ∧
        (∃ d, t.state.countDownTimerDial = some d) ∧
        ∃ id, t.state.jugadaId = some id
    rw [ht.abiertos, ht.relojesDial, ht.tiponoti, ht.countDownTimerDial,
      ht.jugadaId]
    exact h.dialogos
  jugadaId := fun id hid => h.jugadaId id (ht.jugadaId.symm.trans hid)
  notificacion := fun id hid =>
    h.notificacion id (ht.notificacion.symm.trans hid)
  hechos := by
    intro e he o ho
    rcases List.mem_append.mp he with hold | hnew
    · exact h.hechos e hold o ho
    · rw [ht.writes e hnew] at ho
      cases ho
  salidas := by
    show (s.hechos ++ t.writes).count .finishAffinity = p'.2
    rw [List.count_append, h.salidas]
    exact hsalidas

/-- The game `id` is remembered, in a notification or a dialog. -/
theorem Firme.onEvent (h : Firme uid acts s p) {n : ℕ}
    {value : Option (List (String × Jugada))}
    (hmem : .onEvent n value ∈ acts)
    (hvalue : ∀ docs ∈ value, ∀ q ∈ docs, q.2.invitacionID = s.pantalla.uid) :
    Firme uid acts (s.cierra (s.pantalla.onEvent value)) p := by
  rcases onEvent_cases s.pantalla value with ⟨-, hsigue⟩ |
    ⟨⟨id, j⟩, hfound, hpausado⟩
  · rw [hsigue]
    refine h.rutina ⟨rfl, rfl, rfl, rfl, rfl, rfl, rfl, rfl, rfl, ?_⟩
      h.contSalir (Nat.add_zero _)
    exact List.forall_mem_nil _
  · have hinvitado : Invitado uid acts id := by
      obtain ⟨docs, rfl, hdocs⟩ := Option.bind_eq_some_iff.mp hfound
      have hpend := List.find?_some hdocs
      have hq := List.mem_of_find?_eq_some hdocs
      rw [h.suya] at hpend
      exact ⟨n, docs, j, hmem, hq, (hvalue docs rfl _ hq).trans h.suya, hpend⟩
    have hid : ∀ id', some id = some id' → Invitado uid acts id' := by
      rintro id' ⟨⟩
      exact hinvitado
    rcases hpausado with ⟨-, hnotify⟩ | ⟨-, hdialogo⟩
    · rw [hnotify]
      refine ⟨h.suya, ?_, h.contSalir, h.tiponoti, fun habre => ?_, hid, hid,
        ?_, ?_⟩
      · show (s.pantalla.caida || false) = false
        rw [h.viva]
        rfl
      · obtain ⟨htipo, hultimo, -⟩ := h.dialogos habre
        exact ⟨htipo, hultimo, id, rfl⟩
      · intro e he o ho
        rcases List.mem_append.mp he with hold | hnew
        · exact h.hechos e hold o ho
        · rw [List.mem_singleton.mp hnew] at ho
          cases ho
          exact ⟨id, rfl, hinvitado⟩
      · show (s.hechos ++ [Efecto.notify id]).count .finishAffinity = p.2
        rw [List.count_append, h.salidas]
        rfl
    · rw [hdialogo]
      refine ⟨h.suya, ?_, h.contSalir, nofun, fun _ => ?_, hid, h.notificacion,
        ?_, ?_⟩
      · show (s.pantalla.caida || false) = false
        rw [h.viva]
        rfl
      · exact ⟨rfl, ⟨_, rfl⟩, id, rfl⟩
      · intro e he o ho
        exact h.hechos e (by simpa [Sesion.cierra] using he) o ho
      · show (s.hechos ++ []).count Efecto.finishAffinity = p.2
        rw [List.append_nil]
        exact h.salidas

/-- A dialog is answered or runs out. -/
theorem Firme.contesta (h : Firme uid acts s p) {id : String} {e : Efecto}
    {abiertos relojesDial : List ℕ} (hid : s.pantalla.jugadaId = some id)
    (he : e.jugada = some (some id)) (habre : s.pantalla.abiertos ≠ [] ∨
      s.pantalla.relojesDial ≠ []) :
    Firme uid acts
      (s.cierra
        { state :=
            { s.pantalla with
              relojesDial := relojesDial
              abiertos := abiertos }
          writes := [e] }) p where
  suya := h.suya
  viva := by
    show (s.pantalla.caida || false) = false
    rw [h.viva]
    rfl
  contSalir := h.contSalir
  tiponoti := h.tiponoti
  dialogos := fun _ => h.dialogos habre
  jugadaId := h.jugadaId
  notificacion := h.notificacion
  hechos := by
    intro e' he' o ho
    rcases List.mem_append.mp he' with hold | hnew
    · exact h.hechos e' hold o ho
    · rw [List.mem_singleton.mp hnew, he] at ho
      cases ho
      exact ⟨id, rfl, h.jugadaId id hid⟩
  salidas := by
    show (s.hechos ++ [e]).count .finishAffinity = p.2
    have hotro : e ≠ .finishAffinity := by
      rintro rfl
      cases he
    rw [List.count_append, h.salidas, List.count_singleton,
      if_neg (by simpa using hotro)]
    rfl

theorem Firme.abreNotificacion (h : Firme uid acts s p) {id : String}
    (hid : s.pantalla.notificacion = some id) :
    Firme uid acts (s.cierra (s.pantalla.abreNotificacion id)) p where
  suya := h.suya
  viva := by
    show (s.pantalla.caida || false) = false
    rw [h.viva]
    rfl
  contSalir := h.contSalir
  tiponoti := h.tiponoti
  dialogos := h.dialogos
  jugadaId := h.jugadaId
  notificacion := nofun
  hechos := by
    intro e he o ho
    rcases List.mem_append.mp he with hold | hnew
    · exact h.hechos e hold o ho
    · rw [List.mem_singleton.mp hnew] at ho
      cases ho
      exact ⟨id, rfl, h.notificacion id hid⟩
  salidas := by
    show (s.hechos ++ [Efecto.pinvDirecta (some id)]).count .finishAffinity =
      p.2
    rw [List.count_append, h.salidas]
    rfl

/-- The first press is remembered, the second one leaves. -/
theorem Firme.onBackPressed (h : Firme uid acts s p) :
    Firme uid acts (s.cierra s.pantalla.onBackPressed)
      (pulsa p .onBackPressed) := by
  cases hp : p.1 with
  | false =>
      have hcero : s.pantalla.contSalir = 0 := by simp [h.contSalir, hp]
      have hturno : s.pantalla.onBackPressed =
          { state :=
              { s.pantalla with
                contSalir := 1
                relojesSalir := s.pantalla.relojesSalir + 1 } } := by
        simp [Transision.onBackPressed, hcero, sigue]
      rw [hturno]
      refine h.rutina ⟨rfl, rfl, rfl, rfl, rfl, rfl, rfl, rfl, rfl, ?_⟩ rfl ?_
      · exact List.forall_mem_nil _
      · simp [pulsa, hp]
  | true =>
      have huno : s.pantalla.contSalir = 1 := by simp [h.contSalir, hp]
      have hturno : s.pantalla.onBackPressed =
          { state :=
              { s.pantalla with relojesSalir := s.pantalla.relojesSalir + 1 }
            writes := [.actulizarDBuser "off", .finishAffinity] } := by
        simp [Transision.onBackPressed, huno, actulizarDBuser, haz, sigue]
      rw [hturno]
      refine h.rutina ⟨rfl, rfl, rfl, rfl, rfl, rfl, rfl, rfl, rfl, ?_⟩ huno ?_
      · simp [Efecto.jugada]
      · simp [pulsa, hp]

theorem Firme.step {e : Suceso} (h : Firme uid acts s p) (hmem : e ∈ acts)
    (hstep : s.step e = some s') : Firme uid acts s' (pulsa p e) := by
  obtain ⟨-, r, hr, rfl⟩ := step_eq_some hstep
  -- What the callbacks of the life cycle have in common.
  have hvida {t : Turno} (ht : Rutina s.pantalla t)
      (hcont : t.state.contSalir = s.pantalla.contSalir)
      (hwrites : t.writes.count .finishAffinity = 0) :
      Firme uid acts (s.cierra t) p := by
    refine h.rutina ht (hcont.trans h.contSalir) ?_
    rw [hwrites, Nat.add_zero]
  cases e with
  | onCreate =>
      obtain ⟨-, ⟨⟩⟩ := Option.ite_none_left_eq_some.mp hr
      refine hvida ⟨rfl, rfl, rfl, rfl, rfl, rfl, rfl, rfl, rfl, ?_⟩ rfl rfl
      exact List.forall_mem_singleton.mpr rfl
  | onStart =>
      obtain ⟨-, ⟨⟩⟩ := Option.ite_none_right_eq_some.mp hr
      have huno : s.pantalla.contSalir ≤ 1 := by
        rw [h.contSalir]
        split <;> decide
      rw [onStart_eq huno]
      refine hvida ⟨rfl, rfl, rfl, rfl, rfl, rfl, rfl, rfl, rfl, ?_⟩ rfl rfl
      exact List.forall_mem_singleton.mpr rfl
  | onResume =>
      obtain ⟨-, ⟨⟩⟩ := Option.ite_none_right_eq_some.mp hr
      refine hvida ⟨rfl, rfl, rfl, rfl, rfl, rfl, rfl, rfl, rfl, ?_⟩ rfl rfl
      exact List.forall_mem_singleton.mpr rfl
  | onRestart =>
      obtain ⟨-, ⟨⟩⟩ := Option.ite_none_right_eq_some.mp hr
      refine hvida ⟨rfl, rfl, rfl, rfl, rfl, rfl, rfl, rfl, rfl, ?_⟩ rfl rfl
      exact List.forall_mem_singleton.mpr rfl
  | onStop =>
      obtain ⟨-, ⟨⟩⟩ := Option.ite_none_right_eq_some.mp hr
      refine hvida ⟨rfl, rfl, rfl, rfl, rfl, rfl, rfl, rfl, rfl, ?_⟩ rfl rfl
      exact List.forall_mem_singleton.mpr rfl
  | onPause =>
      obtain ⟨-, ⟨⟩⟩ := Option.ite_none_right_eq_some.mp hr
      refine hvida ⟨rfl, rfl, rfl, rfl, rfl, rfl, rfl, rfl, rfl, ?_⟩ rfl rfl
      exact List.forall_mem_nil _
  | onBackPressed =>
      obtain ⟨-, ⟨⟩⟩ := Option.ite_none_right_eq_some.mp hr
      exact h.onBackPressed
  | onFinishSalir =>
      obtain ⟨-, ⟨⟩⟩ := Option.ite_none_right_eq_some.mp hr
      refine h.rutina ⟨rfl, rfl, rfl, rfl, rfl, rfl, rfl, rfl, rfl, ?_⟩ rfl rfl
      exact List.forall_mem_nil _
  | onEvent n value =>
      obtain ⟨⟨-, hvalue⟩, ⟨⟩⟩ := Option.ite_none_right_eq_some.mp hr
      exact h.onEvent hmem hvalue
  | aceptar d =>
      obtain ⟨hd, ⟨⟩⟩ := Option.ite_none_right_eq_some.mp hr
      have habre := List.ne_nil_of_mem hd
      obtain ⟨htipo, ⟨t, ht⟩, id, hid⟩ := h.dialogos (Or.inl habre)
      rw [aceptar_eq htipo ht hid]
      exact h.contesta hid rfl (Or.inl habre)
  | cancelar d =>
      obtain ⟨hd, ⟨⟩⟩ := Option.ite_none_right_eq_some.mp hr
      have habre := List.ne_nil_of_mem hd
      obtain ⟨htipo, ⟨t, ht⟩, id, hid⟩ := h.dialogos (Or.inl habre)
      rw [cancelar_eq htipo ht hid]
      exact h.contesta hid rfl (Or.inl habre)
  | onFinishDial d =>
      obtain ⟨hd, ⟨⟩⟩ := Option.ite_none_right_eq_some.mp hr
      have hcorre := List.ne_nil_of_mem hd
      obtain ⟨htipo, -, id, hid⟩ := h.dialogos (Or.inr hcorre)
      rw [onFinishDial_eq htipo hid]
      exact h.contesta hid rfl (Or.inr hcorre)
  | abreNotificacion =>
      obtain ⟨id, hid, rfl⟩ := Option.map_eq_some_iff.mp hr
      exact h.abreNotificacion hid

/-- Throughout a run of the menu none of these handlers fails, the question whether
to leave does not come up, and a game is answered for or told about only after a
snapshot has shown it as a pending invitation to this user.  The app is left as often as
the back key is pressed while an earlier press is remembered. -/
theorem menu_firme {uid : String} {acts : List Suceso} {s : Sesion}
    (hrun : Runs.run Sesion.step (Sesion.inicial uid) acts = some s) :
    s.pantalla.caida = false ∧ s.pantalla.tiponoti ≠ some .salir ∧
      (∀ e ∈ s.hechos, ∀ o, e.jugada = some o →
        ∃ id, o = some id ∧ Invitado uid acts id) ∧
      s.hechos.count .finishAffinity = salidas acts := by
  have hfirme : Firme uid acts s (acts.foldl pulsa (false, 0)) :=
    Runs.invariant_foldl (I := Firme uid acts)
      (fun s p e s' he h hs' => h.step he hs') (firme_inicial uid acts) hrun
  exact ⟨hfirme.viva, hfirme.tiponoti, hfirme.hechos, hfirme.salidas⟩

/-- A single press is forgotten, two of them leave. -/
theorem menu_firme_blas :
    ∃ s, Runs.run Sesion.step (Sesion.inicial "b")
        (alFrente ++ [.onBackPressed, .onFinishSalir,
          .onEvent 0 (some [invitacion]), .cancelar 0, .onBackPressed,
          .onBackPressed]) = some s ∧
      .cancelarJugada "g" ∈ s.hechos ∧ s.hechos.count .finishAffinity = 1 := by
  have hvalor : (Runs.run Sesion.step (Sesion.inicial "b")
      (alFrente ++ [.onBackPressed, .onFinishSalir,
        .onEvent 0 (some [invitacion]), .cancelar 0, .onBackPressed,
        .onBackPressed])).map
      (fun s => decide (.cancelarJugada "g" ∈ s.hechos)) = some true := by
    decide
  obtain ⟨s, hrun, hs⟩ := Option.map_eq_some_iff.mp hvalor
  have hfirme := menu_firme hrun
  exact ⟨s, hrun, of_decide_eq_true hs, hfirme.2.2.2.trans (by decide)⟩

end Transision

end Tocate
